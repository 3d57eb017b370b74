import DeepLinks.Proofs.Precedence

/-!
# Tables of lists of declarations

Apart from its name, what is wrong with a declaration does not hang on the others, and a route is
made of its own declaration. So a table can be put together from tables of parts of its manifest:
the declarations of both parts must be faultless and their names apart, and the first part comes
first in a search.
-/

namespace DeepLinks

namespace Declaration

/-- Other declarations can only take the name away. -/
theorem fault?_eq_none_iff_alone {defaultHosts : List String} {earlier : List Declaration}
    {d : Declaration} :
    d.fault? defaultHosts earlier = none ↔
      d.fault? defaultHosts [] = none ∧ d.name ∉ earlier.map (·.name) := by
  rw [fault?_eq_none_iff, fault?_eq_none_iff, List.map_nil]
  constructor
  · rintro ⟨hblank, hfresh, hrest⟩
    exact ⟨⟨hblank, List.not_mem_nil, hrest⟩, hfresh⟩
  · rintro ⟨⟨hblank, -, hrest⟩, hfresh⟩
    exact ⟨hblank, hfresh, hrest⟩

end Declaration

theorem Route.StandsFor.unique {r s : Route} {defaultHosts : List String} {d : Declaration}
    (hr : r.StandsFor defaultHosts d) (hs : s.StandsFor defaultHosts d) : r = s := by
  have hsegments : r.segments = s.segments := by
    have h := hr.segments
    rw [hs.segments] at h
    exact (Except.ok.inj h).symm
  cases r
  cases s
  rw [Route.mk.injEq]
  exact ⟨hr.name.trans hs.name.symm, hr.template.trans hs.template.symm, hsegments,
    hr.hosts.trans hs.hosts.symm, hr.parameters.trans hs.parameters.symm⟩

namespace Manifest

/-- The order of the declarations has no part in whether there is a table. -/
theorem exists_build_iff {m : Manifest} :
    (∃ t, m.build = .ok t) ↔
      m.schemes ≠ [] ∧ (∀ d ∈ m.routes, d.fault? m.defaultHosts [] = none) ∧
      (m.routes.map (·.name)).Nodup := by
  rw [build_eq_ok_iff_errors, errors_eq_nil_iff, nodup_map_iff_forall_take]
  refine and_congr_right fun _ => ?_
  constructor
  · intro h
    constructor
    · intro d hd
      obtain ⟨i, hi⟩ := List.mem_iff_getElem?.mp hd
      exact (Declaration.fault?_eq_none_iff_alone.mp (h i d hi)).1
    · intro i d hi
      exact (Declaration.fault?_eq_none_iff_alone.mp (h i d hi)).2
  · rintro ⟨halone, hfresh⟩ i d hi
    apply Declaration.fault?_eq_none_iff_alone.mpr
    exact ⟨halone d (List.mem_of_getElem? hi), hfresh i d hi⟩

/-- Declarations have one row of routes only. -/
theorem routes_unique {defaultHosts : List String} {ds : List Declaration} {rs rs' : List Route}
    (h : List.Forall₂ (fun d r => Route.StandsFor r defaultHosts d) ds rs)
    (h' : List.Forall₂ (fun d r => Route.StandsFor r defaultHosts d) ds rs') : rs = rs' := by
  refine List.right_unique_forall₂' ?_ h h'
  intro d r s hr hs
  exact hr.unique hs

end Manifest

namespace Table

/-- A search is a first match among the routes, in a table that accepts the scheme. -/
theorem find?_eq_findSome? (t : Table) (u : Location) :
    t.find? u =
      if t.schemes.accepts u.scheme then
        t.routes.findSome? fun r => (r.bind? u).map (⟨r.name, ·⟩)
      else none := by
  unfold find? search
  split
  · exact scan_deeplink u t.routes
  · rfl

theorem resolve_eq_bind_find? (t : Table) (url : String) :
    t.resolve url = (Location.parse url).toOption.bind t.find? := by
  unfold resolve resolution
  cases Location.parse url <;> rfl

/-- Where routes follow others under the same schemes, the first ones are preferred. -/
theorem find?_append {t ta tb : Table} (ha : ta.schemes = t.schemes) (hb : tb.schemes = t.schemes)
    (hroutes : t.routes = ta.routes ++ tb.routes) (u : Location) :
    t.find? u = (ta.find? u).or (tb.find? u) := by
  by_cases hscheme : t.schemes.accepts u.scheme = true <;>
    simp [find?_eq_findSome?, ha, hb, hroutes, hscheme]

end Table

namespace Manifest

theorem exists_build_append_iff {schemes defaultHosts : List String} {a b : List Declaration} :
    (∃ t, build ⟨schemes, defaultHosts, a ++ b⟩ = .ok t) ↔
      (∃ t, build ⟨schemes, defaultHosts, a⟩ = .ok t) ∧
      (∃ t, build ⟨schemes, defaultHosts, b⟩ = .ok t) ∧
      ∀ d ∈ a, ∀ e ∈ b, d.name ≠ e.name := by
  simp only [exists_build_iff, List.map_append, List.nodup_append, List.forall_mem_append,
    List.forall_mem_map]
  constructor
  · rintro ⟨hschemes, ⟨ha, hb⟩, hnodupA, hnodupB, hne⟩
    exact ⟨⟨hschemes, ha, hnodupA⟩, ⟨hschemes, hb, hnodupB⟩, hne⟩
  · rintro ⟨⟨hschemes, ha, hnodupA⟩, ⟨-, hb, hnodupB⟩, hne⟩
    exact ⟨hschemes, ⟨ha, hb⟩, hnodupA, hnodupB, hne⟩

/-- One list of declarations after another has a table exactly if both have one and no name occurs
in both. The table then holds the routes of both in this order, and searches those of the second
list for what the first one does not find. Hence further declarations at the end never change
where a URL leads that leads somewhere without them. -/
theorem build_append (schemes defaultHosts : List String) (a b : List Declaration) :
    ((∃ t, build ⟨schemes, defaultHosts, a ++ b⟩ = .ok t) ↔
      (∃ t, build ⟨schemes, defaultHosts, a⟩ = .ok t) ∧
      (∃ t, build ⟨schemes, defaultHosts, b⟩ = .ok t) ∧
      ∀ d ∈ a, ∀ e ∈ b, d.name ≠ e.name) ∧
    ∀ t, build ⟨schemes, defaultHosts, a ++ b⟩ = .ok t →
      ∃ ta tb, build ⟨schemes, defaultHosts, a⟩ = .ok ta ∧
        build ⟨schemes, defaultHosts, b⟩ = .ok tb ∧
        t.schemes = ta.schemes ∧ t.schemes = tb.schemes ∧
        t.routes = ta.routes ++ tb.routes ∧
        (∀ u, t.find? u = (ta.find? u).or (tb.find? u)) ∧
        ∀ url d, ta.resolve url = some d → t.resolve url = some d := by
  refine ⟨exists_build_append_iff, fun t ht => ?_⟩
  obtain ⟨⟨ta, hta⟩, ⟨tb, htb⟩, -⟩ := exists_build_append_iff.mp ⟨t, ht⟩
  obtain ⟨-, hschemes, hstands⟩ := build_spec ht
  obtain ⟨-, hschemesA, hstandsA⟩ := build_spec hta
  obtain ⟨-, hschemesB, hstandsB⟩ := build_spec htb
  have hroutes : t.routes = ta.routes ++ tb.routes :=
    routes_unique hstands (List.rel_append hstandsA hstandsB)
  have hfind : ∀ u, t.find? u = (ta.find? u).or (tb.find? u) :=
    Table.find?_append (hschemesA.trans hschemes.symm) (hschemesB.trans hschemes.symm) hroutes
  refine ⟨ta, tb, hta, htb, hschemes.trans hschemesA.symm, hschemes.trans hschemesB.symm, hroutes,
    hfind, fun url d hd => ?_⟩
  rw [Table.resolve_eq_bind_find?, Option.bind_eq_some_iff] at hd ⊢
  obtain ⟨u, hu, hd⟩ := hd
  refine ⟨u, hu, ?_⟩
  rw [hfind, hd, Option.some_or]

end Manifest

end DeepLinks
