import DeepLinks.Proofs.Faults
import DeepLinks.Proofs.TemplateSegments
import Mathlib

/-!
# Tables that have been built

A table comes from a manifest without errors, so its names are what look-up and links rely on:
there is a primary scheme, every route has a host and named parameters, and a name belongs to one
route only.
-/

namespace DeepLinks

namespace Names

theorem first_mem {n : Names} (h : n.list ≠ []) : n.first ∈ n.list := by
  unfold first
  cases hl : n.list with
  | nil => exact absurd hl h
  | cons name names => simp

theorem accepts_of_mem {n : Names} {name : String} (h : name ∈ n.list) : n.accepts name = true :=
  accepts_iff.mpr ⟨name, h, rfl⟩

theorem accepts_first {n : Names} (h : n.list ≠ []) : n.accepts n.first = true :=
  accepts_of_mem (first_mem h)

theorem list_ofList_ne_nil {names : List String} (h : names ≠ []) : (ofList names).list ≠ [] := by
  simpa using h

end Names

namespace Table

structure WellFormed (t : Table) : Prop where
  schemes_ne_nil : t.schemes.list ≠ []
  names_nodup : (t.routes.map (·.name)).Nodup
  hosts_ne_nil : ∀ r ∈ t.routes, r.hosts.list ≠ []
  literals_ne_empty : ∀ r ∈ t.routes, ∀ text, .literal text ∈ r.segments → text ≠ ""
  parameters_named : ∀ r ∈ t.routes, ∀ p ∈ r.parameters, p.name ≠ ""
  parameters_nodup : ∀ r ∈ t.routes, (r.parameters.map (·.name)).Nodup

/-- No route hides another from look-up. -/
theorem WellFormed.route?_eq_some {t : Table} (h : t.WellFormed) {r : Route} (hr : r ∈ t.routes) :
    t.route? r.name = some r := by
  obtain ⟨before, after, hroutes⟩ := List.append_of_mem hr
  have hnodup := h.names_nodup
  simp only [hroutes, List.map_append, List.map_cons, List.nodup_middle, List.nodup_cons] at hnodup
  have hbefore : before.find? (fun s => s.name == r.name) = none := by
    simp only [List.find?_eq_none, beq_iff_eq]
    exact fun s hs hname => hnodup.1 (List.mem_append_left _ (List.mem_map.mpr ⟨s, hs, hname⟩))
  simp [route?, hroutes, List.find?_append, hbefore]

theorem mem_of_route?_eq_some {t : Table} {name : String} {r : Route}
    (h : t.route? name = some r) : r ∈ t.routes ∧ r.name = name :=
  ⟨List.mem_of_find?_eq_some h, by simpa using List.find?_some h⟩

end Table

namespace Manifest

theorem map_name_of_standsFor {defaultHosts : List String} {ds : List Declaration}
    {rs : List Route} (h : List.Forall₂ (fun d r => Route.StandsFor r defaultHosts d) ds rs) :
    rs.map (·.name) = ds.map (·.name) := by
  induction h with
  | nil => rfl
  | cons h _ ih => simp [h.name, ih]

/-- Every route of a table stands for a declaration that has no fault. -/
theorem exists_declaration {m : Manifest} {t : Table} (ht : m.build = .ok t) {r : Route}
    (hr : r ∈ t.routes) :
    ∃ i d, m.routes[i]? = some d ∧ r.StandsFor m.defaultHosts d ∧
      d.fault? m.defaultHosts (m.routes.take i) = none := by
  obtain ⟨herrors, -, hroutes⟩ := build_spec ht
  obtain ⟨i, hi⟩ := List.mem_iff_getElem?.mp hr
  have hlength := hroutes.length_eq
  have hilt := (List.getElem?_eq_some_iff.mp hi).1
  have hd : m.routes[i]? = some m.routes[i] := List.getElem?_eq_getElem (by omega)
  refine ⟨i, m.routes[i], hd, ?_, (errors_eq_nil_iff.mp herrors).2 i _ hd⟩
  have h := (List.forall₂_iff_get.mp hroutes).2 i (by omega) hilt
  obtain ⟨_, rfl⟩ := List.getElem?_eq_some_iff.mp hi
  exact h

theorem wellFormed_of_build {m : Manifest} {t : Table} (ht : m.build = .ok t) : t.WellFormed := by
  obtain ⟨herrors, hschemes, hroutes⟩ := build_spec ht
  obtain ⟨hne, hfaults⟩ := errors_eq_nil_iff.mp herrors
  refine ⟨hschemes ▸ Names.list_ofList_ne_nil hne, ?_, ?_, ?_, ?_, ?_⟩
  · rw [map_name_of_standsFor hroutes, nodup_map_iff_forall_take]
    exact fun i d hd => (Declaration.fault?_eq_none_iff.mp (hfaults i d hd)).2.1
  · intro r hr
    obtain ⟨i, d, -, hstands, hfault⟩ := exists_declaration ht hr
    have hhosts := (Declaration.fault?_eq_none_iff.mp hfault).2.2.2.2.1
    rw [hstands.hosts]
    refine Names.list_ofList_ne_nil ?_
    split <;> simp_all
  · intro r hr text htext
    obtain ⟨i, d, -, hstands, -⟩ := exists_declaration ht hr
    exact ((Template.isWellFormed_of_compile hstands.segments).literal text htext).1
  · intro r hr
    obtain ⟨i, d, -, hstands, hfault⟩ := exists_declaration ht hr
    rw [hstands.parameters]
    exact (Declaration.fault?_eq_none_iff.mp hfault).2.2.2.2.2.1
  · intro r hr
    obtain ⟨i, d, -, hstands, hfault⟩ := exists_declaration ht hr
    rw [hstands.parameters]
    exact (Declaration.fault?_eq_none_iff.mp hfault).2.2.2.2.2.2

/-- Two routes for the same paths, the first one preferred. -/
def shop : Manifest where
  schemes := ["https", "shop"]
  defaultHosts := ["Example.com"]
  routes := [
    ⟨"item", "/items/\x7bid\x7d?tab=\x7btab\x7d", [],
      [⟨"id", true⟩, ⟨"tab", false⟩, ⟨"ref", false⟩]⟩,
    ⟨"anyItem", "/items/\x7bslug\x7d", ["example.com", "pay.example.com"], [⟨"slug", true⟩]⟩]

/-- The table of `Manifest.shop`. -/
def shopTable : Table where
  schemes := Names.ofList ["https", "shop"]
  routes := [
    ⟨"item", "/items/\x7bid\x7d?tab=\x7btab\x7d", [.literal "items", .placeholder "id"],
      Names.ofList ["example.com"], [⟨"id", true⟩, ⟨"tab", false⟩, ⟨"ref", false⟩]⟩,
    ⟨"anyItem", "/items/\x7bslug\x7d", [.literal "items", .placeholder "slug"],
      Names.ofList ["example.com", "pay.example.com"], [⟨"slug", true⟩]⟩]

theorem build_shop : shop.build = .ok shopTable := by cbv

end Manifest

end DeepLinks
