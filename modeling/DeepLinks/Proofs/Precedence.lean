import DeepLinks.Proofs.BuiltTable
import DeepLinks.Resolution

/-!
# Precedence

Searching a table walks its routes by position, trying one route looks it up by name. Both come
down to `Table.attempt`, one route alone against a URL, so they agree as soon as no two routes
share a name.
-/

namespace DeepLinks.Table

/-- Where a URL leads by one route, in a table that accepts its scheme. -/
def attempt (t : Table) (url : String) (r : Route) : Option Deeplink := do
  let u ← (Location.parse url).toOption
  guard (t.schemes.accepts u.scheme)
  (r.bind? u).map (⟨r.name, ·⟩)

@[simp] theorem attempt_eq_some_iff {t : Table} {url : String} {r : Route} {d : Deeplink} :
    t.attempt url r = some d ↔
      ∃ u b, Location.parse url = .ok u ∧ t.schemes.accepts u.scheme = true ∧ r.bind u = .ok b ∧
        d = ⟨r.name, b⟩ := by
  simp only [attempt, Route.bind?, Option.bind_eq_bind, Option.bind_eq_some_iff,
    Option.map_eq_some_iff, toOption_eq_some_iff, Option.guard_eq_some']
  constructor
  · rintro ⟨u, hu, _, hscheme, b, hb, rfl⟩
    exact ⟨u, b, hu, hscheme, hb, rfl⟩
  · rintro ⟨u, b, hu, hscheme, hb, rfl⟩
    exact ⟨u, hu, (), hscheme, b, hb, rfl⟩

theorem attempt_route {t : Table} {url : String} {r : Route} {d : Deeplink}
    (h : t.attempt url r = some d) : d.route = r.name := by
  obtain ⟨_, _, -, -, -, rfl⟩ := attempt_eq_some_iff.mp h
  rfl

/-- A URL without a location, or with a scheme that is not accepted, leads nowhere. -/
theorem attempt_eq_none {t : Table} {url : String}
    (h : ∀ u, Location.parse url = .ok u → t.schemes.accepts u.scheme = false) (r : Route) :
    t.attempt url r = none := by
  unfold attempt
  cases hu : Location.parse url with
  | error _ => rfl
  | ok u => simp [h u hu]

@[simp] theorem scan_deeplink (u : Location) (rs : List Route) :
    (scan u rs).deeplink = rs.findSome? fun r => (r.bind? u).map (⟨r.name, ·⟩) := by
  induction rs with
  | nil => rfl
  | cons r rs ih =>
    cases hb : r.bind u with
    | ok b => simp [hb, Route.bind?]
    | error e => simp [hb, Route.bind?, ih]

theorem findSome?_congr {α β : Type} {f g : α → Option β} {l : List α} (h : ∀ a ∈ l, f a = g a) :
    l.findSome? f = l.findSome? g := by
  induction l with
  | nil => rfl
  | cons a l ih =>
    obtain ⟨ha, hl⟩ := List.forall_mem_cons.mp h
    simp only [List.findSome?_cons, ha, ih hl]

/-- The search answers with the first attempt that leads somewhere. -/
theorem resolve_eq_findSome?_attempt (t : Table) (url : String) :
    t.resolve url = t.routes.findSome? (t.attempt url) := by
  have hnone (h : ∀ u, Location.parse url = .ok u → t.schemes.accepts u.scheme = false) :
      t.routes.findSome? (t.attempt url) = none :=
    List.findSome?_eq_none_iff.mpr fun r _ => attempt_eq_none h r
  unfold resolve resolution
  cases hu : Location.parse url with
  | error e => rw [hnone (by simp [hu])]
  | ok u =>
    dsimp only
    unfold search
    by_cases hs : t.schemes.accepts u.scheme = true
    · have hattempt : t.attempt url = fun r => (r.bind? u).map (⟨r.name, ·⟩) := by
        funext r
        simp [attempt, hu, hs]
      rw [hattempt, if_pos hs, scan_deeplink]
    · rw [hnone (by simpa [hu] using hs), if_neg hs]

theorem resolveRoute_eq_bind_attempt (t : Table) (name url : String) :
    t.resolveRoute name url = (t.route? name).bind (t.attempt url) := by
  unfold resolveRoute attempt
  cases t.route? name with
  | none => rfl
  | some r =>
    cases Location.parse url with
    | error _ => rfl
    | ok u => cases hb : r.bind? u <;> simp [hb, Option.bind]

theorem resolveRoute_eq_attempt {t : Table} (ht : t.WellFormed) {r : Route} (hr : r ∈ t.routes)
    (url : String) : t.resolveRoute r.name url = t.attempt url r := by
  rw [resolveRoute_eq_bind_attempt, ht.route?_eq_some hr]
  rfl

theorem exists_of_resolveRoute_eq_some {t : Table} {name url : String} {d : Deeplink}
    (h : t.resolveRoute name url = some d) :
    ∃ r ∈ t.routes, r.name = name ∧ t.attempt url r = some d := by
  rw [resolveRoute_eq_bind_attempt, Option.bind_eq_some_iff] at h
  obtain ⟨r, hr, hd⟩ := h
  obtain ⟨hmem, hname⟩ := mem_of_route?_eq_some hr
  exact ⟨r, hmem, hname, hd⟩

theorem exists_of_resolve_eq_some {t : Table} {url : String} {d : Deeplink}
    (h : t.resolve url = some d) : ∃ r ∈ t.routes, t.attempt url r = some d := by
  rw [resolve_eq_findSome?_attempt] at h
  exact List.exists_of_findSome?_eq_some h

/-- A route that leads somewhere is passed over only for one before it. -/
theorem resolve_of_attempt {t : Table} {url : String} {before after : List Route} {r : Route}
    {d : Deeplink} (hroutes : t.routes = before ++ r :: after) (hd : t.attempt url r = some d) :
    t.resolve url = some d ∨
      ∃ e ∈ before, ∃ d', d'.route = e.name ∧ t.resolve url = some d' := by
  simp only [resolve_eq_findSome?_attempt, hroutes, List.findSome?_append, List.findSome?_cons, hd]
  cases hbefore : before.findSome? (t.attempt url) with
  | none => exact .inl rfl
  | some d' =>
    obtain ⟨e, he, hd'⟩ := List.exists_of_findSome?_eq_some hbefore
    exact .inr ⟨e, he, d', attempt_route hd', rfl⟩

/-- The search and the single routes agree in a table that has been built: the answer is the first
one that a route gives on its own, a route only answers for itself and is then found unless one
before it is, and neither way leads anywhere without a location of an accepted scheme. -/
theorem resolve_eq_first_resolveRoute {m : Manifest} {t : Table} (ht : m.build = .ok t)
    (url : String) :
    t.resolve url = t.routes.findSome? (fun r => t.resolveRoute r.name url) ∧
    (∀ name d, t.resolveRoute name url = some d →
      d.route = name ∧
      ∃ before r after, t.routes = before ++ r :: after ∧ r.name = name ∧
        (t.resolve url = some d ∨
          ∃ e ∈ before, ∃ d', d'.route = e.name ∧ t.resolve url = some d')) ∧
    ((∀ u, Location.parse url = .ok u →
        ∀ s ∈ t.schemes.list, Text.equalsIgnoringAsciiCase s u.scheme = false) →
      t.resolve url = none ∧ ∀ name, t.resolveRoute name url = none) := by
  have hwf := m.wellFormed_of_build ht
  refine ⟨?_, fun name d hd => ?_, fun h => ?_⟩
  · rw [resolve_eq_findSome?_attempt]
    have hcongr : ∀ r ∈ t.routes, t.attempt url r = t.resolveRoute r.name url :=
      fun r hr => (resolveRoute_eq_attempt hwf hr url).symm
    exact findSome?_congr hcongr
  · obtain ⟨r, hr, rfl, hattempt⟩ := exists_of_resolveRoute_eq_some hd
    obtain ⟨before, after, hroutes⟩ := List.append_of_mem hr
    exact ⟨attempt_route hattempt, before, r, after, hroutes, rfl,
      resolve_of_attempt hroutes hattempt⟩
  · have hnone : ∀ r, t.attempt url r = none := attempt_eq_none fun u hu => by
      rw [Names.accepts, List.any_eq_false]
      exact fun s hs => by simp [h u hu s hs]
    refine ⟨?_, fun name => ?_⟩
    · rw [resolve_eq_findSome?_attempt, List.findSome?_eq_none_iff]
      exact fun r _ => hnone r
    · rw [resolveRoute_eq_bind_attempt]
      cases t.route? name with
      | none => rfl
      | some r => exact hnone r

theorem resolve_eq_first_resolveRoute_shop :
    Manifest.shop.build = .ok Manifest.shopTable ∧
    Manifest.shopTable.resolve "https://example.com/items/5" =
      Manifest.shopTable.routes.findSome?
        (fun r => Manifest.shopTable.resolveRoute r.name "https://example.com/items/5") ∧
    Manifest.shopTable.resolve "https://example.com/items/5" =
      some ⟨"item", Bindings.ofList [("id", some "5"), ("ref", none), ("tab", none)]⟩ :=
  ⟨Manifest.build_shop, (resolve_eq_first_resolveRoute Manifest.build_shop _).1,
    by decide +kernel⟩

end DeepLinks.Table
