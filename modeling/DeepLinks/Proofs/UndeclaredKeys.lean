import DeepLinks.Proofs.Binding
import DeepLinks.Proofs.BuiltTable
import DeepLinks.Proofs.LinkText
import DeepLinks.Resolution

/-!
# Keys that no route declares

A route asks the query for the parameters that its path does not bind, and for nothing else. So
locations that differ in other keys only are bound alike and refused alike, route by route, and a
search of the table takes the same way to the same answer.
-/

namespace DeepLinks

namespace Route

/-- The path binds its placeholders, and what has been bound before stays bound. -/
theorem contains_of_bindPath {b b' : Bindings} {segments : List Segment} {path : List String}
    (hlength : segments.length = path.length) (h : bindPath b segments path = .ok b')
    {name : String} (hname : b.contains name = true ∨ name ∈ segments.filterMap Segment.name?) :
    b'.contains name = true := by
  induction segments generalizing b path with
  | nil =>
    rw [List.eq_nil_of_length_eq_zero hlength.symm] at h
    obtain rfl := Except.ok.inj h
    simpa using hname
  | cons s segments ih =>
    obtain ⟨value, path, rfl⟩ := List.exists_cons_of_length_eq_add_one hlength.symm
    have hrest : segments.length = path.length := Nat.succ.inj hlength
    cases s with
    | literal text =>
      simp only [List.filterMap_cons, Segment.name?_literal] at hname
      rw [bindPath] at h
      split at h
      · exact ih hrest h hname
      · contradiction
    | placeholder other =>
      simp only [List.filterMap_cons, Segment.name?_placeholder, List.mem_cons] at hname
      rw [bindPath] at h
      apply ih hrest h
      rw [Bindings.contains_insert, Bool.or_eq_true, beq_iff_eq]
      rcases hname with hbound | rfl | hname
      · exact .inl (.inr hbound)
      · exact .inl (.inl rfl)
      · exact .inr hname

/-- The query is asked for parameters that are not bound yet, and for nothing else. -/
theorem bindQuery_congr {query query' b : Bindings} {ps : List Parameter}
    (h : ∀ p ∈ ps, b.contains p.name = false → query.find? p.name = query'.find? p.name) :
    bindQuery query b ps = bindQuery query' b ps := by
  induction ps generalizing b with
  | nil => rfl
  | cons p ps ih =>
    obtain ⟨hp, hps⟩ := List.forall_mem_cons.mp h
    unfold bindQuery
    cases hb : b.contains p.name with
    | true => exact ih hps
    | false =>
      have hrest (value : Option String) : ∀ q ∈ ps,
          (b.insert p.name value).contains q.name = false →
            query.find? q.name = query'.find? q.name := by
        intro q hq hfresh
        rw [Bindings.contains_insert, Bool.or_eq_false_iff] at hfresh
        exact hps q hq hfresh.2
      rw [hp hb]
      cases query'.find? p.name with
      | some value => exact ih (hrest value)
      | none =>
        cases p.isMandatory with
        | true => rfl
        | false => exact ih (hrest none)

/-- What a route binds, or why it does not, hangs on no other key than those of the parameters that
its path leaves to the query. -/
theorem bind_congr {r : Route} {u v : Location} (hhost : u.host = v.host) (hpath : u.path = v.path)
    (h : ∀ p ∈ r.queryParameters, u.query.find? p.name = v.query.find? p.name) :
    r.bind u = r.bind v := by
  have hquery (b : Bindings) (hlength : r.segments.length = v.path.length)
      (hb : bindPath ∅ r.segments v.path = .ok b) :
      bindQuery u.query b r.parameters = bindQuery v.query b r.parameters := by
    apply bindQuery_congr
    intro p hp hfresh
    apply h p
    rw [mem_queryParameters]
    refine ⟨hp, fun hplaceholder => ?_⟩
    rw [contains_of_bindPath hlength hb (.inr hplaceholder)] at hfresh
    contradiction
  rw [bind_eq, bind_eq, hhost, hpath]
  by_cases hlength : r.segments.length = v.path.length
  · cases hb : bindPath ∅ r.segments v.path with
    | error _ => rfl
    | ok b => rw [ok_bind, ok_bind, hquery b hlength hb]
  · rw [if_pos hlength, if_pos hlength]

end Route

namespace Table

/-- A search goes the same way if every route on it does the same. -/
theorem scan_congr {u v : Location} (hhost : u.host = v.host) (hpath : u.path = v.path)
    {rs : List Route} (h : ∀ r ∈ rs, r.bind u = r.bind v) : scan u rs = scan v rs := by
  induction rs with
  | nil => simp [hhost, hpath]
  | cons r rs ih =>
    obtain ⟨hr, hrs⟩ := List.forall_mem_cons.mp h
    cases hb : r.bind v with
    | ok b => simp [hr, hb, hhost]
    | error e => simp [hr, hb, ih hrs]

/-- Locations with the same scheme, host and path, whose queries agree on the parameters that a
route has besides its placeholders, are bound by it alike; if they agree on these parameters of all
routes of a table, whatever other keys they have, they lead to the same place, with the same
events on the way. -/
theorem find?_eq_of_agree (t : Table) {u v : Location} (hscheme : u.scheme = v.scheme)
    (hhost : u.host = v.host) (hpath : u.path = v.path) :
    (∀ r : Route,
      (∀ p ∈ r.queryParameters, u.query.find? p.name = v.query.find? p.name) →
      r.bind u = r.bind v) ∧
    ((∀ r ∈ t.routes, ∀ p ∈ r.queryParameters, u.query.find? p.name = v.query.find? p.name) →
      t.find? u = t.find? v ∧ (t.search u).events = (t.search v).events) := by
  have hbind (r : Route)
      (h : ∀ p ∈ r.queryParameters, u.query.find? p.name = v.query.find? p.name) :
      r.bind u = r.bind v := Route.bind_congr hhost hpath h
  refine ⟨hbind, fun h => ?_⟩
  have hsearch : t.search u = t.search v := by
    unfold search
    rw [hscheme, scan_congr hhost hpath fun r hr => hbind r (h r hr)]
  exact ⟨congrArg Answer.deeplink hsearch, congrArg Answer.events hsearch⟩

/-- A key that nothing declares, and one with the name of a placeholder. -/
theorem find?_eq_of_agree_shop :
    Manifest.shop.build = .ok Manifest.shopTable ∧
    Manifest.shopTable.find?
        ⟨"https", "example.com", ["items", "5"], Bindings.ofList [("tab", some "")]⟩ =
      Manifest.shopTable.find? ⟨"https", "example.com", ["items", "5"],
        Bindings.ofList [("tab", some ""), ("id", some "7"), ("utm", none)]⟩ ∧
    Manifest.shopTable.find?
        ⟨"https", "example.com", ["items", "5"], Bindings.ofList [("tab", some "")]⟩ =
      some ⟨"item", Bindings.ofList [("id", some "5"), ("ref", none), ("tab", some "")]⟩ := by
  have hfind := (find?_eq_of_agree Manifest.shopTable
    (u := ⟨"https", "example.com", ["items", "5"], Bindings.ofList [("tab", some "")]⟩)
    (v := ⟨"https", "example.com", ["items", "5"],
      Bindings.ofList [("tab", some ""), ("id", some "7"), ("utm", none)]⟩) rfl rfl rfl).2
    (by decide +kernel)
  exact ⟨Manifest.build_shop, hfind.1, by decide +kernel⟩

end Table

end DeepLinks
