import DeepLinks.Declaration
import DeepLinks.Deeplink
import DeepLinks.Event
import DeepLinks.Names
import DeepLinks.Text.Blank

/-!
# Routes

A route is a declaration that has been checked and compiled. It binds a location if the host is
one of its hosts, the path has its segments, and its mandatory parameters are there.
-/

namespace DeepLinks

structure Route where
  name : String
  /-- The template as it was declared. -/
  template : String
  segments : List Segment
  hosts : Names
  parameters : List Parameter
deriving DecidableEq

namespace Route

/-- The names that the path binds. -/
def placeholders (r : Route) : List String :=
  r.segments.filterMap Segment.name?

/-- The parameters that the query binds. -/
def queryParameters (r : Route) : List Parameter :=
  r.parameters.filter fun p => !r.placeholders.contains p.name

/-- A link with its placeholders in place. -/
def exampleUrl (r : Route) (scheme : String) : String :=
  scheme ++ "://" ++ r.hosts.first ++ (if r.template.toList.head? = some '/' then "" else "/")
    ++ r.template

/-- The first fault in the parameters that follow ones with the given names. -/
def parameterFault? (route : String) (names : List String) :
    List Parameter → Option ConfigurationError
  | [] => none
  | p :: ps =>
    if p.name = "" then some (.emptyParameterName route)
    else if p.name ∈ names then some (.duplicateParameter route p.name)
    else parameterFault? route (p.name :: names) ps

/-- Checks a declaration that follows ones with the given names, and compiles it. -/
def compile (defaultHosts : Names) (earlier : List String) (d : Declaration) :
    Except ConfigurationError Route := do
  if Text.trim d.name = "" then throw (.emptyRouteName d.template)
  if d.name ∈ earlier then throw (.duplicateRoute d.name)
  if Text.trim d.name ≠ d.name then throw (.routeNameWhitespace d.name)
  let segments ← (Template.compile d.template).mapError (.faultyTemplate d.name)
  let hosts := if d.hosts.isEmpty then defaultHosts else Names.ofList d.hosts
  if hosts.isEmpty then throw (.noHosts d.name)
  if let some fault := parameterFault? d.name [] d.parameters then throw fault
  pure ⟨d.name, d.template, segments, hosts, d.parameters⟩

/-- The keys of the query part of its template that are no parameters. -/
def unboundKeys (r : Route) : List String :=
  (Template.queryKeys r.template).filter fun key => !(r.parameters.map (·.name)).contains key

/-- What is reported of a route once it is compiled. -/
def compileEvents (r : Route) : List Event :=
  r.unboundKeys.map (.unboundKey r.name) ++ [.routeCompiled r.name r.template r.segments.length]

/-- Why a route does not bind a location. -/
inductive Refusal where
  | host
  | segmentCount
  | literal (expected actual : String)
  | missing (parameter : String)
deriving DecidableEq, Repr

/-- A route whose host and number of segments fit reports why it does not bind. -/
def Refusal.event? (route : String) : Refusal → Option Event
  | host | segmentCount => none
  | literal expected actual => some (.literalMismatch route expected actual)
  | missing parameter => some (.parameterMissing route parameter)

/-- Binds the placeholders of segments to a path of the same length. -/
def bindPath (b : Bindings) : List Segment → List String → Except Refusal Bindings
  | .literal text :: ss, value :: vs =>
    if text = value then bindPath b ss vs else .error (.literal text value)
  | .placeholder name :: ss, value :: vs => bindPath (b.insert name (some value)) ss vs
  | _, _ => .ok b

/-- Binds the parameters that the path has not bound. An optional one that is absent is bound
without a value. -/
def bindQuery (query : Bindings) (b : Bindings) : List Parameter → Except Refusal Bindings
  | [] => .ok b
  | p :: ps =>
    if b.contains p.name then bindQuery query b ps
    else
      match query.find? p.name with
      | some value => bindQuery query (b.insert p.name value) ps
      | none =>
        if p.isMandatory then .error (.missing p.name)
        else bindQuery query (b.insert p.name none) ps

/-- What a location binds the parameters to. -/
def bind (r : Route) (u : Location) : Except Refusal Bindings := do
  if !r.hosts.accepts u.host then throw .host
  if r.segments.length ≠ u.path.length then throw .segmentCount
  let b ← bindPath ∅ r.segments u.path
  bindQuery u.query b r.parameters

def bind? (r : Route) (u : Location) : Option Bindings :=
  (r.bind u).toOption

end Route

end DeepLinks
