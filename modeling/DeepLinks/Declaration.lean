import DeepLinks.Template

/-!
# Declarations

What a table of routes is built from, and what can be wrong with it.
-/

namespace DeepLinks

/-- A value that a route takes from the path or from the query. -/
structure Parameter where
  name : String
  /-- Whether the route does not apply without it. -/
  isMandatory : Bool
deriving DecidableEq, Repr

/-- A route as it is declared. -/
structure Declaration where
  name : String
  template : String
  /-- Takes the place of the default hosts unless empty. -/
  hosts : List String
  parameters : List Parameter
deriving DecidableEq, Repr

/-- The declared routes, in order of precedence, with what they have in common. -/
structure Manifest where
  schemes : List String
  defaultHosts : List String
  routes : List Declaration
deriving DecidableEq, Repr

/-- What is wrong with a manifest. -/
inductive ConfigurationError where
  | noSchemes
  | emptyRouteName (template : String)
  | routeNameWhitespace (route : String)
  | duplicateRoute (route : String)
  | faultyTemplate (route : String) (cause : TemplateError)
  | noHosts (route : String)
  | emptyParameterName (route : String)
  | duplicateParameter (route name : String)
deriving DecidableEq, Repr

open Text in
def ConfigurationError.message : ConfigurationError → String
  | noSchemes => "no schemas configured"
  | emptyRouteName template => "route with template " ++ quote template ++ " has an empty name"
  | routeNameWhitespace route => "route name " ++ quote route ++ " has surrounding whitespace"
  | duplicateRoute route => "duplicate route name " ++ quote route
  | faultyTemplate route cause => "route " ++ quote route ++ ": " ++ cause.message
  | noHosts route =>
    "route " ++ quote route ++ " has no hosts and no default hosts are configured"
  | emptyParameterName route =>
    "route " ++ quote route ++ " declares a parameter with an empty name"
  | duplicateParameter route name =>
    "route " ++ quote route ++ " declares parameter " ++ quote name ++ " more than once"

end DeepLinks
