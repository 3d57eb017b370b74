import DeepLinks.Proofs.Binding
import DeepLinks.Proofs.Concatenation
import DeepLinks.Proofs.LowercaseText

/-!
# The order of declarations

Of two routes that bind one location the first is preferred, so their order matters. Routes that
differ in the number of segments, in all hosts or in a literal never bind one location. Hence
declarations may change places as long as those that do stand for such routes.
-/

namespace DeepLinks

/-- No text stands in the place of both. -/
def Segment.IsDisjointFrom : Segment → Segment → Prop
  | .literal x, .literal y => x ≠ y
  | _, _ => False

instance (s s' : Segment) : Decidable (s.IsDisjointFrom s') :=
  match s, s' with
  | .literal x, .literal y => inferInstanceAs (Decidable (x ≠ y))
  | .literal _, .placeholder _ => inferInstanceAs (Decidable False)
  | .placeholder _, .literal _ => inferInstanceAs (Decidable False)
  | .placeholder _, .placeholder _ => inferInstanceAs (Decidable False)

/-- The routes have different numbers of segments, or no host in common, or different literals in
one place. -/
def Route.IsDisjointFrom (r s : Route) : Prop :=
  r.segments.length ≠ s.segments.length ∨
  (∀ host ∈ r.hosts.list, host ∉ s.hosts.list) ∨
  ∃ p ∈ r.segments.zip s.segments, p.1.IsDisjointFrom p.2

instance (r s : Route) : Decidable (r.IsDisjointFrom s) :=
  inferInstanceAs (Decidable (_ ∨ (∀ host ∈ r.hosts.list, _) ∨ ∃ p ∈ r.segments.zip s.segments, _))

theorem Segment.IsDisjointFrom.ne_of_standsFor {s s' : Segment} (h : s.IsDisjointFrom s')
    {b b' : Bindings} {value value' : String} (hs : s.StandsFor b value)
    (hs' : s'.StandsFor b' value') : value ≠ value' := by
  cases s with
  | placeholder _ => contradiction
  | literal x =>
    cases s' with
    | placeholder _ => contradiction
    | literal y =>
      have hx : value = x := hs
      have hy : value' = y := hs'
      rw [hx, hy]
      exact h

/-- What has been written in one way cannot have been written in a disjoint way. -/
theorem Segment.not_isDisjointFrom_of_mem_zip {b b' : Bindings} {ss ss' : List Segment}
    {path : List String} (h : List.Forall₂ (Segment.StandsFor b) ss path)
    (h' : List.Forall₂ (Segment.StandsFor b') ss' path) :
    ∀ p ∈ ss.zip ss', ¬ p.1.IsDisjointFrom p.2 := by
  induction h generalizing ss' with
  | nil => simp
  | cons hs _ ih =>
    obtain ⟨s', ss', hs', hrest, rfl⟩ := List.forall₂_cons_right_iff.mp h'
    rw [List.zip_cons_cons, List.forall_mem_cons]
    exact ⟨fun hdisjoint => hdisjoint.ne_of_standsFor hs hs' rfl, ih hrest⟩

/-- Names that accept one name have a name in common, whatever the case of its letters. -/
theorem Names.exists_mem_of_accepts {names names' : List String} {name : String}
    (h : (ofList names).accepts name = true) (h' : (ofList names').accepts name = true) :
    ∃ n ∈ (ofList names).list, n ∈ (ofList names').list :=
  ⟨_, accepts_ofList_iff.mp h, accepts_ofList_iff.mp h'⟩

namespace Route

theorem StandsFor.forall₂_of_bind {r : Route} {defaultHosts : List String} {d : Declaration}
    (h : r.StandsFor defaultHosts d) {u : Location} {b : Bindings} (hb : r.bind u = .ok b) :
    ∃ b', List.Forall₂ (Segment.StandsFor b') r.segments u.path := by
  obtain ⟨-, hlength, b', hpath, -⟩ := bind_ok_iff.mp hb
  have hnodup := (Template.isWellFormed_of_compile h.segments).names_nodup
  exact ⟨b', standsFor_of_bindPath hnodup hlength hpath⟩

theorem IsDisjointFrom.bind?_eq_none {r s : Route} (hdisjoint : r.IsDisjointFrom s)
    {defaultHosts : List String} {d e : Declaration} (hr : r.StandsFor defaultHosts d)
    (hs : s.StandsFor defaultHosts e) (u : Location) : r.bind? u = none ∨ s.bind? u = none := by
  cases hrb : r.bind? u with
  | none => exact .inl rfl
  | some b =>
    cases hsb : s.bind? u with
    | none => exact .inr rfl
    | some b' =>
      exfalso
      have hrb : r.bind u = .ok b := toOption_eq_some_iff.mp hrb
      have hsb : s.bind u = .ok b' := toOption_eq_some_iff.mp hsb
      obtain ⟨hrhost, hrlength, -⟩ := bind_ok_iff.mp hrb
      obtain ⟨hshost, hslength, -⟩ := bind_ok_iff.mp hsb
      rcases hdisjoint with hlength | hhosts | ⟨p, hp, hsegment⟩
      · exact hlength (hrlength.trans hslength.symm)
      · rw [hr.hosts] at hrhost hhosts
        rw [hs.hosts] at hshost hhosts
        obtain ⟨host, hhost, hhost'⟩ := Names.exists_mem_of_accepts hrhost hshost
        exact hhosts host hhost hhost'
      · obtain ⟨_, hrpath⟩ := hr.forall₂_of_bind hrb
        obtain ⟨_, hspath⟩ := hs.forall₂_of_bind hsb
        exact Segment.not_isDisjointFrom_of_mem_zip hrpath hspath p hp hsegment

end Route

/-- A first match stays if, of two elements that have changed places, at most one matches. -/
theorem findSome?_eq_of_perm {α β : Type} {f : α → Option β} {l l' : List α} (hperm : l.Perm l')
    (hnodup : l.Nodup)
    (h : ∀ a b, [a, b].Sublist l → [b, a].Sublist l' → f a = none ∨ f b = none) :
    l.findSome? f = l'.findSome? f := by
  cases hfirst : l.findSome? f with
  | none =>
    rw [List.findSome?_eq_none_iff] at hfirst
    symm
    rw [List.findSome?_eq_none_iff]
    intro x hx
    exact hfirst x (hperm.mem_iff.mpr hx)
  | some b =>
    obtain ⟨before, a, after, rfl, ha, hbefore⟩ := List.findSome?_eq_some_iff.mp hfirst
    have hmem : a ∈ l' := hperm.mem_iff.mp (List.mem_append_right _ List.mem_cons_self)
    obtain ⟨before', after', rfl⟩ := List.append_of_mem hmem
    have hnodup' := hperm.nodup_iff.mp hnodup
    symm
    rw [List.findSome?_eq_some_iff]
    refine ⟨before', a, after', rfl, ha, ?_⟩
    intro x hx
    have hmem : x ∈ before ++ a :: after := hperm.mem_iff.mpr (List.mem_append_left _ hx)
    rw [List.mem_append, List.mem_cons] at hmem
    rcases hmem with hx' | rfl | hx'
    · exact hbefore x hx'
    · rw [List.nodup_middle, List.nodup_cons] at hnodup'
      exact absurd (List.mem_append_left _ hx) hnodup'.1
    · -- `x` has moved in front of `a`, which matches
      have hax : [a, x].Sublist (before ++ a :: after) :=
        ((List.singleton_sublist.mpr hx').cons_cons a).trans (List.sublist_append_right _ _)
      have hxa : [x, a].Sublist (before' ++ a :: after') :=
        (List.singleton_sublist.mpr hx).append
          (List.singleton_sublist.mpr (List.mem_cons_self (a := a) (l := after')))
      rcases h a x hax hxa with hnone | hnone
      · rw [ha] at hnone
        contradiction
      · exact hnone

namespace Manifest

theorem exists_build_iff_of_perm {schemes defaultHosts : List String} {ds ds' : List Declaration}
    (hperm : ds.Perm ds') :
    (∃ t, build ⟨schemes, defaultHosts, ds⟩ = .ok t) ↔
      ∃ t, build ⟨schemes, defaultHosts, ds'⟩ = .ok t := by
  rw [exists_build_iff, exists_build_iff]
  refine and_congr_right fun _ => and_congr ?_ ?_
  · exact forall_congr' fun d => imp_congr_left hperm.mem_iff
  · exact (hperm.map _).nodup_iff

theorem routes_perm {defaultHosts : List String} {ds ds' : List Declaration} {rs rs' : List Route}
    (h : List.Forall₂ (fun d r => Route.StandsFor r defaultHosts d) ds rs)
    (h' : List.Forall₂ (fun d r => Route.StandsFor r defaultHosts d) ds' rs')
    (hperm : ds.Perm ds') : rs.Perm rs' := by
  obtain ⟨qs, hqs, hqperm⟩ := List.perm_comp_forall₂ hperm.symm h
  rw [routes_unique h' hqs]
  exact hqperm.symm

/-- The order of the declarations has no part in whether there is a table, and as long as those
that change places stand for disjoint routes, it has none in where a location leads. -/
theorem find?_eq_of_perm (schemes defaultHosts : List String) {ds ds' : List Declaration}
    (hperm : ds.Perm ds') :
    ((∃ t, build ⟨schemes, defaultHosts, ds⟩ = .ok t) ↔
      ∃ t, build ⟨schemes, defaultHosts, ds'⟩ = .ok t) ∧
    ∀ t t', build ⟨schemes, defaultHosts, ds⟩ = .ok t →
      build ⟨schemes, defaultHosts, ds'⟩ = .ok t' →
      t.routes.Perm t'.routes ∧
      ((∀ r s, [r, s].Sublist t.routes → [s, r].Sublist t'.routes → r.IsDisjointFrom s) →
        ∀ u, t.find? u = t'.find? u) := by
  refine ⟨exists_build_iff_of_perm hperm, fun t t' ht ht' => ?_⟩
  obtain ⟨-, hschemes, hstands⟩ := build_spec ht
  obtain ⟨-, hschemes', hstands'⟩ := build_spec ht'
  have hroutes : t.routes.Perm t'.routes := routes_perm hstands hstands' hperm
  refine ⟨hroutes, fun hdisjoint u => ?_⟩
  have hnodup : t.routes.Nodup := (wellFormed_of_build ht).names_nodup.of_map
  have hfirst : t.routes.findSome? (fun r => (r.bind? u).map (Deeplink.mk r.name)) =
      t'.routes.findSome? fun r => (r.bind? u).map (Deeplink.mk r.name) := by
    refine findSome?_eq_of_perm hroutes hnodup fun r s hrs hsr => ?_
    obtain ⟨-, _, -, hr, -⟩ := exists_declaration ht (hrs.subset List.mem_cons_self)
    obtain ⟨-, _, -, hs, -⟩ :=
      exists_declaration ht (hrs.subset (List.mem_cons_of_mem _ List.mem_cons_self))
    simpa using (hdisjoint r s hrs hsr).bind?_eq_none hr hs u
  simp only [Table.find?_eq_findSome?, hschemes, hschemes', hfirst]

/-- A page whose first segment no item has. -/
def help : Declaration where
  name := "help"
  template := "/help/\x7btopic\x7d"
  hosts := []
  parameters := [⟨"topic", true⟩]

/-- The route of `Manifest.help` in the shop. -/
def helpRoute : Route where
  name := "help"
  template := "/help/\x7btopic\x7d"
  segments := [.literal "help", .placeholder "topic"]
  hosts := Names.ofList ["example.com"]
  parameters := [⟨"topic", true⟩]

theorem build_shop_help :
    build ⟨shop.schemes, shop.defaultHosts, shop.routes ++ [help]⟩ =
      .ok ⟨shopTable.schemes, shopTable.routes ++ [helpRoute]⟩ := by cbv

theorem build_help_shop :
    build ⟨shop.schemes, shop.defaultHosts, help :: shop.routes⟩ =
      .ok ⟨shopTable.schemes, helpRoute :: shopTable.routes⟩ := by cbv

/-- The items bind the same paths and keep their order, so the page may come last or first. -/
theorem find?_eq_of_perm_shop :
    (shop.routes ++ [help]).Perm (help :: shop.routes) ∧
    ∀ u, Table.find? ⟨shopTable.schemes, shopTable.routes ++ [helpRoute]⟩ u =
      Table.find? ⟨shopTable.schemes, helpRoute :: shopTable.routes⟩ u := by
  have hperm : (shop.routes ++ [help]).Perm (help :: shop.routes) := List.perm_append_singleton _ _
  have hdisjoint : ∀ r s, [r, s].Sublist (shopTable.routes ++ [helpRoute]) →
      [s, r].Sublist (helpRoute :: shopTable.routes) → r.IsDisjointFrom s := by
    have hpairs : (shopTable.routes ++ [helpRoute]).Pairwise fun r s =>
        [s, r].Sublist (helpRoute :: shopTable.routes) → r.IsDisjointFrom s := by decide +kernel
    intro r s hrs
    exact List.pairwise_iff_forall_sublist.mp hpairs hrs
  exact ⟨hperm, ((find?_eq_of_perm shop.schemes shop.defaultHosts hperm).2 _ _ build_shop_help
    build_help_shop).2 hdisjoint⟩

/-- The items bind one location, so that the first of them hides the other. -/
example : ¬ shopTable.routes[0].IsDisjointFrom shopTable.routes[1] := by decide +kernel

end Manifest

end DeepLinks
