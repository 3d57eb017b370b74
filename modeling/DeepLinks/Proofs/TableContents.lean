import DeepLinks.Proofs.BuiltTable
import DeepLinks.Proofs.LinkText

/-!
# What a table holds

A table is made of its manifest piece by piece: the schemes and the hosts in lower case and each
once, one route for each declaration. Every route of it is sound, so look-up by name gives the
route itself, and there is always a scheme and a host to write a link with.
-/

namespace DeepLinks

theorem filter_distinct (p : String → Bool) (ns : List String) :
    (distinct ns).filter p = distinct (ns.filter p) := by
  induction ns with
  | nil => rfl
  | cons n ns ih =>
    have hcomm : ((distinct ns).filter (· ≠ n)).filter p =
        ((distinct ns).filter p).filter (· ≠ n) := by
      simp [Bool.and_comm]
    rw [distinct]
    by_cases hn : p n = true
    · simp only [List.filter_cons_of_pos hn, hcomm, ih, distinct]
    · have hne : ∀ x ∈ (distinct ns).filter p, decide (x ≠ n) = true := by
        intro x hx
        rw [decide_eq_true_eq]
        rintro rfl
        exact hn (List.mem_filter.mp hx).2
      simp only [List.filter_cons_of_neg hn, hcomm]
      rw [List.filter_eq_self.mpr hne, ih]

/-- Later repetitions are dropped, and the order is kept. -/
theorem distinct_eq_eraseDups (ns : List String) : distinct ns = ns.eraseDups := by
  induction h : ns.length using Nat.strong_induction_on generalizing ns with
  | _ length ih =>
    cases ns with
    | nil => rfl
    | cons n ns =>
      have hne : (fun x => !x == n) = fun x => decide (x ≠ n) := by
        funext x
        by_cases hx : x = n <;> simp [hx]
      have hlength : (ns.filter (· ≠ n)).length < length := by
        have := List.length_filter_le (fun x => decide (x ≠ n)) ns
        rw [← h, List.length_cons]
        omega
      rw [distinct, List.eraseDups_cons, filter_distinct, hne, ih _ hlength _ rfl]

/-- What holds of every route of a table. -/
structure Route.IsSound (r : Route) : Prop where
  name_not_blank : Text.trim r.name ≠ ""
  name_trimmed : Text.trim r.name = r.name
  hosts_ne_nil : r.hosts.list ≠ []
  hosts_nodup : r.hosts.list.Nodup
  parameters_named : ∀ p ∈ r.parameters, p.name ≠ ""
  parameters_nodup : (r.parameters.map (·.name)).Nodup
  segments : Template.IsWellFormed r.segments

/-- A route that is made of a declaration. The hosts of the declaration take the place of the
default hosts. -/
structure Route.IsMadeOf (r : Route) (defaultHosts : List String) (d : Declaration) : Prop where
  name : r.name = d.name
  template : r.template = d.template
  parameters : r.parameters = d.parameters
  segments : Template.compile d.template = .ok r.segments
  hosts : r.hosts.list =
    ((if d.hosts = [] then defaultHosts else d.hosts).map Text.lowercase).eraseDups

theorem Route.StandsFor.isMadeOf {r : Route} {defaultHosts : List String} {d : Declaration}
    (h : r.StandsFor defaultHosts d) : r.IsMadeOf defaultHosts d := by
  refine ⟨h.name, h.template, h.parameters, h.segments, ?_⟩
  rw [h.hosts, Names.list_ofList, distinct_eq_eraseDups]

theorem Names.head?_eq_first {n : Names} (h : n.list ≠ []) : n.list.head? = some n.first := by
  unfold first
  cases hl : n.list with
  | nil => exact absurd hl h
  | cons name names => rfl

namespace Manifest

theorem isSound_of_build {m : Manifest} {t : Table} (ht : m.build = .ok t) {r : Route}
    (hr : r ∈ t.routes) : r.IsSound := by
  have hwf := m.wellFormed_of_build ht
  obtain ⟨i, d, -, hstands, hfault⟩ := exists_declaration ht hr
  obtain ⟨hblank, -, htrim, -⟩ := Declaration.fault?_eq_none_iff.mp hfault
  rw [← hstands.name] at hblank htrim
  exact ⟨hblank, htrim, hwf.hosts_ne_nil r hr, r.hosts.nodup, hwf.parameters_named r hr,
    hwf.parameters_nodup r hr, Template.isWellFormed_of_compile hstands.segments⟩

/-- A table that has been built holds its manifest, and nothing that a default would have to stand
in for: every example and every link of a route begins with the first scheme of the list and the
first host of the route. -/
theorem contents_of_build {m : Manifest} {t : Table} (ht : m.build = .ok t) :
    t.schemes.list ≠ [] ∧
    t.schemes.list = (m.schemes.map Text.lowercase).eraseDups ∧
    List.Forall₂ (fun d r => Route.IsMadeOf r m.defaultHosts d) m.routes t.routes ∧
    (t.routes.map (·.name)).Nodup ∧
    (∀ r ∈ t.routes, r.IsSound ∧ t.route? r.name = some r) ∧
    t.schemes.list.head? = some t.primaryScheme ∧
    ∀ r ∈ t.routes, ∃ host, r.hosts.list.head? = some host ∧
      (∀ scheme, r.exampleUrl scheme = scheme ++ "://" ++ host ++
        (if r.template.toList.head? = some '/' then "" else "/") ++ r.template) ∧
      ∀ values url, t.link r.name values = .ok url →
        ∃ rest, url = t.primaryScheme ++ "://" ++ host ++ rest := by
  have hwf := m.wellFormed_of_build ht
  obtain ⟨-, hschemes, hroutes⟩ := build_spec ht
  refine ⟨hwf.schemes_ne_nil, ?_, hroutes.imp fun _ _ h => h.isMadeOf, hwf.names_nodup,
    fun r hr => ⟨isSound_of_build ht hr, hwf.route?_eq_some hr⟩,
    Names.head?_eq_first hwf.schemes_ne_nil, fun r hr => ?_⟩
  · rw [hschemes, Names.list_ofList, distinct_eq_eraseDups]
  · refine ⟨r.hosts.first, Names.head?_eq_first (hwf.hosts_ne_nil r hr), fun _ => rfl,
      fun values url hlink => ?_⟩
    rw [Table.link, hwf.route?_eq_some hr] at hlink
    obtain ⟨_, _, -, -, hurl⟩ := Route.link_eq_ok_iff.mp hlink
    exact ⟨_, hurl⟩

/-- A default host in capitals, and an override that repeats it. -/
theorem contents_of_build_shop :
    shop.build = .ok shopTable ∧
    shopTable.schemes.list = ["https", "shop"] ∧
    shopTable.routes.map (fun r => r.hosts.list.head?) = [some "example.com", some "example.com"] ∧
    (∀ r ∈ shopTable.routes, r.IsSound ∧ shopTable.route? r.name = some r) ∧
    shopTable.primaryScheme = "https" := by
  obtain ⟨-, hschemes, -, -, hsound, hprimary, -⟩ := contents_of_build build_shop
  have hlist : shopTable.schemes.list = ["https", "shop"] := hschemes.trans (by decide +kernel)
  rw [hlist] at hprimary
  exact ⟨build_shop, hlist, by decide +kernel, hsound, (Option.some.inj hprimary).symm⟩

end Manifest

end DeepLinks
