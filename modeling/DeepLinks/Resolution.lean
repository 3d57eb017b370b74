import DeepLinks.Table

/-!
# Resolution

A location leads to the first route of a table that binds it. `Table.search` answers together with
the events on the way, so the report cannot disagree with the answer.
-/

namespace DeepLinks.Table

/-- An answer, with what was reported on the way to it. -/
structure Answer where
  deeplink : Option Deeplink
  events : List Event
deriving DecidableEq

/-- The first of the routes that binds the location. -/
def scan (u : Location) : List Route → Answer
  | [] => ⟨none, [.noMatch u.host u.path.length]⟩
  | r :: rs =>
    match r.bind u with
    | .ok b => ⟨some ⟨r.name, b⟩, [.matched r.name u.host]⟩
    | .error refusal =>
      let rest := scan u rs
      ⟨rest.deeplink, (refusal.event? r.name).toList ++ rest.events⟩

/-- The answer for a location: routes are only tried if its scheme is accepted. -/
def search (t : Table) (u : Location) : Answer :=
  if t.schemes.accepts u.scheme then scan u t.routes
  else ⟨none, [.schemeNotAccepted u.scheme]⟩

/-- The answer for a URL. One that names no location leads nowhere. -/
def resolution (t : Table) (url : String) : Answer :=
  match Location.parse url with
  | .error cause => ⟨none, [.unparseableUrl url cause]⟩
  | .ok u => t.search u

def find? (t : Table) (u : Location) : Option Deeplink :=
  (t.search u).deeplink

def resolve (t : Table) (url : String) : Option Deeplink :=
  (t.resolution url).deeplink

/-- What a URL leads to if only the route of that name is tried. -/
def resolveRoute (t : Table) (name url : String) : Option Deeplink := do
  let r ← t.route? name
  let u ← (Location.parse url).toOption
  guard (t.schemes.accepts u.scheme)
  let b ← r.bind? u
  some ⟨r.name, b⟩

@[simp] theorem scan_nil (u : Location) :
    scan u [] = ⟨none, [.noMatch u.host u.path.length]⟩ := rfl

@[simp] theorem scan_cons_of_ok {u : Location} {r : Route} {b : Bindings} (h : r.bind u = .ok b)
    (rs : List Route) : scan u (r :: rs) = ⟨some ⟨r.name, b⟩, [.matched r.name u.host]⟩ := by
  simp [scan, h]

@[simp] theorem scan_cons_of_error {u : Location} {r : Route} {e : Route.Refusal}
    (h : r.bind u = .error e) (rs : List Route) :
    scan u (r :: rs) =
      ⟨(scan u rs).deeplink, (e.event? r.name).toList ++ (scan u rs).events⟩ := by
  simp [scan, h]

end DeepLinks.Table
