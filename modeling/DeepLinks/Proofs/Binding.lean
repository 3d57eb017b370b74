import DeepLinks.Proofs.Outcomes
import DeepLinks.Route

/-!
# What binding gives

The path binds the placeholders one after another, and the query then binds the parameters that
are not bound yet. Both results are given by what they answer for each name.
-/

namespace DeepLinks

namespace Bindings

variable {α : Type}

theorem contains_eq_true_iff {b : Bindings} {name : String} :
    b.contains name = true ↔ ∃ value, b.find? name = some value := by
  rw [contains, Option.isSome_iff_exists]

/-- Binding one name after another unless it is bound, the first entry of a name counts. -/
@[simp] theorem find?_foldl_insertIfNew (l : List (String × Option String)) (b : Bindings)
    (k : String) :
    (l.foldl (fun b e => b.insertIfNew e.1 e.2) b).find? k = (b.find? k).or (l.lookup k) := by
  induction l generalizing b with
  | nil => simp
  | cons e l ih =>
    simp only [List.foldl_cons, ih, find?_insertIfNew, lookup_cons_eq]
    by_cases h : k = e.1
    · cases hb : b.find? e.1 <;> simp [h, hb]
    · simp [h]

/-- The entries that a function gives to named things are found by the names. -/
theorem lookup_filterMap_name (name : α → String) (f : String → Option (Option String))
    (as : List α) (k : String) :
    (as.filterMap fun a => (f (name a)).map (name a, ·)).lookup k =
      if k ∈ as.map name then f k else none := by
  induction as with
  | nil => simp
  | cons a as ih =>
    rw [List.filterMap_cons]
    by_cases hk : k = name a
    · subst hk
      cases ha : f (name a) with
      | none => simp only [Option.map_none, ih, ha, ite_self]
      | some value => simp
    · cases ha : f (name a) with
      | none => simp only [Option.map_none, ih, List.map_cons, List.mem_cons, hk, false_or]
      | some value => simp [ih, hk]

theorem lookup_map_name (name : α → String) (f : String → Option String) (as : List α)
    (k : String) :
    (as.map fun a => (name a, f (name a))).lookup k =
      if k ∈ as.map name then some (f k) else none := by
  have hsome := lookup_filterMap_name name (fun n => some (f n)) as k
  rw [← hsome, ← List.filterMap_eq_map]
  rfl

end Bindings

/-- The values put this text in the place of the segment. -/
def Segment.StandsFor (values : Bindings) : Segment → String → Prop
  | .literal text, value => value = text
  | .placeholder name, value => values.value? name = some value

namespace Route

/-- A placeholder has the value that stands in its place. -/
theorem exists_value_of_standsFor {values : Bindings} {segments : List Segment}
    {path : List String} (h : List.Forall₂ (Segment.StandsFor values) segments path)
    {name : String} (hname : name ∈ segments.filterMap Segment.name?) :
    ∃ value ∈ path, values.value? name = some value := by
  obtain ⟨s, hs, hsname⟩ := List.mem_filterMap.mp hname
  obtain ⟨value, hvalue, hstands⟩ := exists_of_forall₂_right h.flip s hs
  cases s with
  | literal _ => contradiction
  | placeholder _ =>
    obtain rfl := Option.some.inj hsname
    exact ⟨value, hvalue, hstands⟩

/-- A path that the values write gives them back to the placeholders. -/
theorem exists_bindPath_eq_ok {values : Bindings} {segments : List Segment} {path : List String}
    (h : List.Forall₂ (Segment.StandsFor values) segments path) (b : Bindings) :
    ∃ b', bindPath b segments path = .ok b' ∧
      ∀ k, b'.find? k =
        if k ∈ segments.filterMap Segment.name? then some (values.value? k) else b.find? k := by
  induction h generalizing b with
  | nil => exact ⟨b, rfl, fun k => by simp⟩
  | @cons s value segments path hs _ ih =>
    cases s with
    | literal text =>
      obtain ⟨b', hb', hfind⟩ := ih b
      have hvalue : value = text := hs
      exact ⟨b', by simp [bindPath, hvalue, hb'], fun k => by simp [List.filterMap_cons, hfind]⟩
    | placeholder name =>
      obtain ⟨b', hb', hfind⟩ := ih (b.insert name (some value))
      have hvalue : values.value? name = some value := hs
      refine ⟨b', ?_, fun k => ?_⟩
      · rw [bindPath, hb']
      · by_cases hk : k = name <;> simp [hfind, hvalue, hk]

theorem find?_of_bindPath {b b' : Bindings} {segments : List Segment} {path : List String}
    (h : bindPath b segments path = .ok b') {k : String}
    (hk : k ∉ segments.filterMap Segment.name?) : b'.find? k = b.find? k := by
  fun_induction bindPath b segments path with
  | case1 b segments value path ih =>
    exact ih h (by simpa [List.filterMap_cons] using hk)
  | case2 => contradiction
  | case3 b name segments value path ih =>
    obtain ⟨hne, hk⟩ : k ≠ name ∧ k ∉ segments.filterMap Segment.name? := by simpa using hk
    simp [ih h hk, hne]
  | case4 => rw [Except.ok.inj h]

/-- What the path binds gives the path back. -/
theorem standsFor_of_bindPath {b b' : Bindings} {segments : List Segment} {path : List String}
    (hnodup : (segments.filterMap Segment.name?).Nodup) (hlength : segments.length = path.length)
    (h : bindPath b segments path = .ok b') :
    List.Forall₂ (Segment.StandsFor b') segments path := by
  induction segments generalizing b path with
  | nil =>
    rw [List.eq_nil_of_length_eq_zero hlength.symm]
    exact .nil
  | cons s segments ih =>
    obtain ⟨value, path, rfl⟩ := List.exists_cons_of_length_eq_add_one hlength.symm
    have hrest : segments.length = path.length := Nat.succ.inj hlength
    cases s with
    | literal text =>
      simp only [List.filterMap_cons, Segment.name?_literal] at hnodup
      rw [bindPath] at h
      split at h
      · rename_i htext
        exact .cons htext.symm (ih hnodup hrest h)
      · contradiction
    | placeholder name =>
      obtain ⟨hfresh, hnodup⟩ : name ∉ segments.filterMap Segment.name? ∧
          (segments.filterMap Segment.name?).Nodup := by simpa using hnodup
      rw [bindPath] at h
      refine .cons ?_ (ih hnodup hrest h)
      -- a later segment would have to have the same name to bind another value
      show b'.value? name = some value
      simp [Bindings.value?, find?_of_bindPath h hfresh]

theorem bindQuery_cons (query b : Bindings) (p : Parameter) (ps : List Parameter) :
    bindQuery query b (p :: ps) =
      if p.isMandatory = true ∧ b.contains p.name = false ∧ query.contains p.name = false then
        .error (.missing p.name)
      else bindQuery query (b.insertIfNew p.name (query.value? p.name)) ps := by
  rw [bindQuery, Bindings.insertIfNew]
  cases hb : b.contains p.name with
  | true => simp
  | false =>
    unfold Bindings.contains Bindings.value?
    cases hquery : query.find? p.name with
    | some value => simp
    | none => cases hp : p.isMandatory <;> simp

/-- The query binds the parameters that are not bound, and has to know those that are mandatory. -/
theorem bindQuery_eq_ok_iff {query b b' : Bindings} {ps : List Parameter}
    (hnodup : (ps.map (·.name)).Nodup) :
    bindQuery query b ps = .ok b' ↔
      (∀ p ∈ ps, p.isMandatory = true →
        b.contains p.name = true ∨ query.contains p.name = true) ∧
      ∀ k, b'.find? k =
        (b.find? k).or (if k ∈ ps.map (·.name) then some (query.value? k) else none) := by
  induction ps generalizing b with
  | nil =>
    rw [bindQuery, Except.ok.injEq]
    constructor
    · rintro rfl
      exact ⟨by simp, by simp⟩
    · intro h
      exact (Bindings.ext_find? fun k => by simpa using h.2 k).symm
  | cons p ps ih =>
    rw [List.map_cons, List.nodup_cons] at hnodup
    obtain ⟨hfresh, hnodup⟩ := hnodup
    have hne : ∀ q ∈ ps, q.name ≠ p.name := by
      intro q hq heq
      exact hfresh (heq ▸ List.mem_map_of_mem hq)
    rw [bindQuery_cons, ite_error_eq_ok_iff, ih hnodup, ← and_assoc]
    refine and_congr ?_ (forall_congr' fun k => ?_)
    · rw [List.forall_mem_cons]
      refine and_congr ?_ (forall₂_congr fun q hq => ?_)
      · cases p.isMandatory <;> cases b.contains p.name <;> cases query.contains p.name <;> simp
      · have hcontains : (b.insertIfNew p.name (query.value? p.name)).contains q.name =
            b.contains q.name := by
          simp [Bindings.contains, hne q hq]
        rw [hcontains]
    · by_cases hk : k = p.name
      · cases b.find? p.name <;> simp [hk]
      · simp [hk]

theorem exists_bindQuery_eq_ok {query b : Bindings} {ps : List Parameter}
    (hnodup : (ps.map (·.name)).Nodup)
    (h : ∀ p ∈ ps, p.isMandatory = true → b.contains p.name = true ∨ query.contains p.name = true) :
    ∃ b', bindQuery query b ps = .ok b' ∧
      ∀ k, b'.find? k =
        (b.find? k).or (if k ∈ ps.map (·.name) then some (query.value? k) else none) := by
  let entries := ps.map fun p => (p.name, query.value? p.name)
  let b' := entries.foldl (fun b e => b.insertIfNew e.1 e.2) b
  have hfind (k : String) : b'.find? k =
      (b.find? k).or (if k ∈ ps.map (·.name) then some (query.value? k) else none) := by
    rw [Bindings.find?_foldl_insertIfNew, Bindings.lookup_map_name]
  exact ⟨b', (bindQuery_eq_ok_iff hnodup).mpr ⟨h, hfind⟩, hfind⟩

/-- The host and the number of segments are looked at before the path, the path before the query. -/
theorem bind_eq (r : Route) (u : Location) :
    r.bind u =
      if r.hosts.accepts u.host = false then .error .host
      else if r.segments.length ≠ u.path.length then .error .segmentCount
      else bindPath ∅ r.segments u.path >>= fun b => bindQuery u.query b r.parameters := by
  unfold bind
  cases r.hosts.accepts u.host with
  | false => rfl
  | true => split <;> simp_all

theorem bind_ok_iff {r : Route} {u : Location} {b : Bindings} :
    r.bind u = .ok b ↔
      r.hosts.accepts u.host = true ∧ r.segments.length = u.path.length ∧
      ∃ b', bindPath ∅ r.segments u.path = .ok b' ∧ bindQuery u.query b' r.parameters = .ok b := by
  simp only [bind_eq, ite_error_eq_ok_iff, bind_eq_ok_iff, Bool.not_eq_false, ne_eq, not_not]

/-- The path binds its placeholders, each to a value, and nothing else. -/
theorem find?_of_bindPath_empty {b : Bindings} {segments : List Segment} {path : List String}
    (hnodup : (segments.filterMap Segment.name?).Nodup) (hlength : segments.length = path.length)
    (h : bindPath ∅ segments path = .ok b) (k : String) :
    b.find? k = if k ∈ segments.filterMap Segment.name? then some (b.value? k) else none := by
  obtain ⟨b', hb', hfind⟩ := exists_bindPath_eq_ok (standsFor_of_bindPath hnodup hlength h) ∅
  rw [h, Except.ok.injEq] at hb'
  subst hb'
  exact hfind k

/-- What a route binds stands for the path of the location, and consists of the placeholders and
the parameters. -/
theorem spec_of_bind {r : Route} {u : Location} {b : Bindings}
    (hplaceholders : r.placeholders.Nodup) (hparameters : (r.parameters.map (·.name)).Nodup)
    (h : r.bind u = .ok b) :
    List.Forall₂ (Segment.StandsFor b) r.segments u.path ∧
    ∀ k, b.find? k =
      if k ∈ r.placeholders ∨ k ∈ r.parameters.map (·.name) then some (b.value? k) else none := by
  obtain ⟨-, hlength, b', hpath, hquery⟩ := bind_ok_iff.mp h
  have hstands := standsFor_of_bindPath hplaceholders hlength hpath
  have hfind' (k : String) :
      b'.find? k = if k ∈ r.placeholders then some (b'.value? k) else none :=
    find?_of_bindPath_empty hplaceholders hlength hpath k
  have hfind := ((bindQuery_eq_ok_iff hparameters).mp hquery).2
  have hplaceholder (k : String) (hk : k ∈ r.placeholders) : b.find? k = b'.find? k := by
    simp [hfind, hfind', hk]
  refine ⟨?_, fun k => ?_⟩
  · refine List.Forall₂.imp ?_ ((List.forall₂_and_left _ _).mpr ⟨fun s hs => hs, hstands⟩)
    rintro s value ⟨hs, hvalue⟩
    cases s with
    | literal text => exact hvalue
    | placeholder name =>
      have hname : name ∈ r.placeholders := List.mem_filterMap.mpr ⟨_, hs, rfl⟩
      show b.value? name = some value
      rw [Bindings.value?, hplaceholder name hname]
      exact hvalue
  · have hbound : (b.find? k).isSome = true ↔
        k ∈ r.placeholders ∨ k ∈ r.parameters.map (·.name) := by
      rw [hfind, hfind']
      by_cases hp : k ∈ r.placeholders <;> by_cases hq : k ∈ r.parameters.map (·.name) <;>
        simp [hp, hq]
    by_cases hk : k ∈ r.placeholders ∨ k ∈ r.parameters.map (·.name)
    · obtain ⟨value, hvalue⟩ := Option.isSome_iff_exists.mp (hbound.mpr hk)
      rw [if_pos hk, Bindings.value?, hvalue]
      rfl
    · rw [if_neg hk, ← Option.not_isSome_iff_eq_none, hbound]
      exact hk

end Route

end DeepLinks
