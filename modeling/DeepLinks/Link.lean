import DeepLinks.Table

/-!
# Links

`Table.link` writes the URL of a route: the primary scheme, the first host, the segments with
encoded values for the placeholders, and a query of the other declared parameters that have an
entry.
-/

namespace DeepLinks

/-- Why a route has no link. -/
inductive LinkError where
  | unknownRoute (route : String)
  | missingParameter (route name : String)
  /-- An empty value would take its segment away. -/
  | emptyPathValue (route name : String)
deriving DecidableEq, Repr

open Text in
def LinkError.message : LinkError → String
  | unknownRoute route => "unknown route " ++ quote route
  | missingParameter route name =>
    "route " ++ quote route ++ " requires a value for parameter " ++ quote name
  | emptyPathValue route name =>
    "route " ++ quote route ++ " cannot place an empty value in path parameter " ++ quote name

namespace Route

/-- The text of a segment in a link. -/
def segmentText (r : Route) (values : Bindings) : Segment → Except LinkError String
  | .literal text => .ok text
  | .placeholder name =>
    match values.value? name with
    | none => .error (.missingParameter r.name name)
    | some value =>
      if value = "" then .error (.emptyPathValue r.name name) else .ok (Percent.encode value)

/-- The path of a link; a route without segments has the root. -/
def linkPath (r : Route) (values : Bindings) : Except LinkError String := do
  let texts ← r.segments.mapM (r.segmentText values)
  pure (if texts.isEmpty then "/" else String.join (texts.map ("/" ++ ·)))

/-- The text of a query entry in a link, if the parameter has one. -/
def queryText (r : Route) (values : Bindings) (p : Parameter) : Except LinkError (Option String) :=
  match values.find? p.name with
  | some none => .ok (some p.name)
  | some (some value) => .ok (some (p.name ++ "=" ++ Percent.encode value))
  | none => if p.isMandatory then .error (.missingParameter r.name p.name) else .ok none

def linkQuery (r : Route) (values : Bindings) : Except LinkError String := do
  let texts ← r.queryParameters.mapM (r.queryText values)
  let texts := texts.filterMap id
  pure (if texts.isEmpty then "" else "?" ++ "&".intercalate texts)

/-- The link of a route in a table with the given primary scheme. -/
def link (r : Route) (scheme : String) (values : Bindings) : Except LinkError String := do
  let path ← r.linkPath values
  let query ← r.linkQuery values
  pure (scheme ++ "://" ++ r.hosts.first ++ path ++ query)

end Route

namespace Table

def link (t : Table) (route : String) (values : Bindings) : Except LinkError String :=
  match t.route? route with
  | none => .error (.unknownRoute route)
  | some r => r.link t.primaryScheme values

end Table

end DeepLinks
