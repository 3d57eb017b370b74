import DeepLinks.Bindings

/-!
# Deep links

The outcome of routing a location: the name of a route, and what its parameters are bound to.
-/

namespace DeepLinks

structure Deeplink where
  route : String
  parameters : Bindings
deriving DecidableEq

namespace Deeplink

/-- The value of a parameter, if it is bound to one. -/
def value? (d : Deeplink) (name : String) : Option String :=
  d.parameters.value? name

/-- Whether a parameter is bound, with or without a value. -/
def contains (d : Deeplink) (name : String) : Bool :=
  d.parameters.contains name

/-- Whether it leads to the route of that name. -/
def leadsTo (d : Deeplink) (route : String) : Bool :=
  d.route == route

end Deeplink

end DeepLinks
