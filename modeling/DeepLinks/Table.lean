import DeepLinks.Route

/-!
# Tables of routes

A table holds routes in the order of their declarations, which is their precedence, and the
schemes that it accepts. `Manifest.compile` checks all declarations in one pass, so the errors that
are reported are exactly those that keep a table from being built.
-/

namespace DeepLinks

structure Table where
  schemes : Names
  routes : List Route
deriving DecidableEq

namespace Table

def route? (t : Table) (name : String) : Option Route :=
  t.routes.find? (·.name == name)

/-- The scheme of the links that the table writes. -/
def primaryScheme (t : Table) : String :=
  t.schemes.first

end Table

namespace Manifest

/-- What became of the declarations. -/
structure Compilation where
  routes : List Route
  errors : List ConfigurationError
  events : List Event

/-- Compiles declarations that follow ones with the given names. -/
def compileAfter (defaultHosts : Names) (earlier : List String) : List Declaration → Compilation
  | [] => ⟨[], [], []⟩
  | d :: ds =>
    let rest := compileAfter defaultHosts (d.name :: earlier) ds
    match Route.compile defaultHosts earlier d with
    | .ok r => ⟨r :: rest.routes, rest.errors, r.compileEvents ++ rest.events⟩
    | .error e => ⟨rest.routes, e :: rest.errors, rest.events⟩

def compile (m : Manifest) : Compilation :=
  let c := compileAfter (Names.ofList m.defaultHosts) [] m.routes
  if m.schemes.isEmpty then { c with errors := .noSchemes :: c.errors } else c

/-- All that is wrong with a manifest. -/
def errors (m : Manifest) : List ConfigurationError :=
  m.compile.errors

/-- The table of a manifest, or the first of its errors. -/
def build (m : Manifest) : Except ConfigurationError Table :=
  match m.errors with
  | [] => .ok ⟨Names.ofList m.schemes, m.compile.routes⟩
  | e :: _ => .error e

/-- What building the table reports. -/
def buildEvents (m : Manifest) : List Event :=
  m.compile.events ++
    match m.build with
    | .ok t => [.tableBuilt t.routes.length t.schemes.list]
    | .error _ => []

end Manifest

end DeepLinks
