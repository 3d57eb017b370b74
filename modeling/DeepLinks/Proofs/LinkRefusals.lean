import DeepLinks.Proofs.BuiltTable
import DeepLinks.Proofs.ExactBinding
import DeepLinks.Proofs.LinkText

/-!
# Why a route has no link

A link is refused for the first placeholder in the path that the values do not fill; if they fill
all of them, for the first mandatory parameter in declaration order that is left to the query and
has no entry. Whether a placeholder is declared, and as what, makes no difference. Other values are
never looked at.
-/

namespace DeepLinks

/-- The values have a text for a name, and it is not empty. -/
def Bindings.Fills (values : Bindings) (name : String) : Prop :=
  ∃ value, values.value? name = some value ∧ value ≠ ""

instance (values : Bindings) (name : String) : Decidable (values.Fills name) :=
  decidable_of_iff ((values.value? name).any (· ≠ "") = true) (by
    unfold Bindings.Fills
    cases values.value? name <;> simp)

namespace Route

/-- A mandatory parameter that the path does not bind has no entry. -/
def Lacks (r : Route) (values : Bindings) (p : Parameter) : Prop :=
  p.isMandatory = true ∧ p.name ∉ r.placeholders ∧ values.find? p.name = none

instance (r : Route) (values : Bindings) (p : Parameter) : Decidable (r.Lacks values p) :=
  inferInstanceAs (Decidable (_ ∧ _ ∧ _))

/-- The error about a placeholder that the values do not fill. -/
def placeholderError (r : Route) (values : Bindings) (name : String) : LinkError :=
  if values.find? name = some (some "") then .emptyPathValue r.name name
  else .missingParameter r.name name

/-- The reasons for which a route has no link for the values. -/
inductive Refuses (r : Route) (values : Bindings) : LinkError → Prop
  /-- Placeholders come first, in the order of the path. -/
  | placeholder {before after : List String} {name : String} :
      r.placeholders = before ++ name :: after → (∀ n ∈ before, values.Fills n) →
      ¬ values.Fills name → Refuses r values (r.placeholderError values name)
  /-- Parameters of the query follow, in the order of the declaration. -/
  | parameter {before after : List Parameter} {p : Parameter} :
      (∀ n ∈ r.placeholders, values.Fills n) → r.parameters = before ++ p :: after →
      (∀ q ∈ before, ¬ r.Lacks values q) → r.Lacks values p →
      Refuses r values (.missingParameter r.name p.name)

variable {r : Route} {values : Bindings}

@[simp] theorem not_lacks_iff {p : Parameter} :
    ¬ r.Lacks values p ↔
      (p.name ∉ r.placeholders → p.isMandatory = true → values.contains p.name = true) := by
  rw [Bindings.contains, Option.isSome_iff_ne_none]
  unfold Lacks
  tauto

theorem Refuses.ne_unknownRoute {e : LinkError} (h : r.Refuses values e) (name : String) :
    e ≠ .unknownRoute name := by
  cases h with
  | placeholder _ _ _ =>
    unfold placeholderError
    split <;> simp
  | parameter _ _ _ _ => simp

@[simp] theorem segmentText_eq_error_iff {s : Segment} {e : LinkError} :
    r.segmentText values s = .error e ↔
      ∃ name, s.name? = some name ∧ ¬ values.Fills name ∧ e = r.placeholderError values name := by
  cases s with
  | literal text => simp [segmentText]
  | placeholder name =>
    simp only [segmentText, Segment.name?_placeholder, Option.some.injEq, exists_eq_left',
      placeholderError, Bindings.Fills, Bindings.value?, eq_comm (a := e)]
    rcases values.find? name with _ | _ | value
    · simp
    · simp
    · by_cases hempty : value = "" <;> simp [hempty]

/-- A path is refused for the first placeholder that is not filled. -/
theorem linkPath_eq_error_iff {e : LinkError} :
    r.linkPath values = .error e ↔
      ∃ before name after, r.placeholders = before ++ name :: after ∧
        (∀ n ∈ before, values.Fills n) ∧ ¬ values.Fills name ∧
        e = r.placeholderError values name := by
  rw [placeholders, exists_split_filterMap_iff (P := values.Fills)
    (S := fun name => ¬ values.Fills name ∧ e = r.placeholderError values name)]
  simp only [linkPath, bind_eq_error_iff, mapM_eq_error_iff, exists_segmentText_iff,
    segmentText_eq_error_iff, pure_eq_ok, reduceCtorEq, and_false, exists_false, or_false]
  rfl

@[simp] theorem queryText_eq_error_iff {p : Parameter} {e : LinkError} :
    r.queryText values p = .error e ↔
      (p.isMandatory = true ∧ values.find? p.name = none) ∧
        e = .missingParameter r.name p.name := by
  unfold queryText
  rw [eq_comm (a := e)]
  rcases values.find? p.name with _ | _ | value
  · cases p.isMandatory <;> simp
  · simp
  · simp

/-- A query is refused for the first parameter that is lacking. -/
theorem linkQuery_eq_error_iff {e : LinkError} :
    r.linkQuery values = .error e ↔
      ∃ before p after, r.parameters = before ++ p :: after ∧ (∀ q ∈ before, ¬ r.Lacks values q) ∧
        r.Lacks values p ∧ e = .missingParameter r.name p.name := by
  have hselect (p q : Parameter) :
      Option.guard (fun p => !r.placeholders.contains p.name) p = some q ↔
        p = q ∧ p.name ∉ r.placeholders := by
    simp [Option.guard_eq_some_iff]
  have hlacks (p : Parameter) :
      (p.name ∉ r.placeholders ∧ p.isMandatory = true ∧ values.find? p.name = none ∧
        e = .missingParameter r.name p.name) ↔
      r.Lacks values p ∧ e = .missingParameter r.name p.name := by
    unfold Lacks
    tauto
  rw [linkQuery, queryParameters, ← List.filterMap_eq_filter]
  simp only [bind_eq_error_iff, mapM_eq_error_iff, exists_queryText_iff, queryText_eq_error_iff,
    pure_eq_ok, reduceCtorEq, and_false, exists_false, or_false]
  rw [exists_split_filterMap_iff
    (P := fun q : Parameter => q.isMandatory = true → values.contains q.name = true)
    (S := fun p : Parameter => (p.isMandatory = true ∧ values.find? p.name = none) ∧
      e = .missingParameter r.name p.name)]
  simp only [hselect, and_imp, forall_eq', and_assoc, exists_eq_left', ← not_lacks_iff,
    hlacks]

/-- Values are refused for one of the reasons listed, and for nothing else. -/
theorem link_eq_error_iff {scheme : String} {e : LinkError} :
    r.link scheme values = .error e ↔ r.Refuses values e := by
  have hlink : r.link scheme values = .error e ↔
      r.linkPath values = .error e ∨
        (∃ path, r.linkPath values = .ok path) ∧ r.linkQuery values = .error e := by
    simp only [link, bind_eq_error_iff, pure_eq_ok, reduceCtorEq, and_false, exists_false, or_false,
      exists_and_right]
  rw [hlink, linkPath_eq_error_iff, exists_linkPath_iff, linkQuery_eq_error_iff]
  constructor
  · rintro (⟨before, name, after, hsplit, hbefore, hopen, rfl⟩ |
      ⟨hfilled, before, p, after, hsplit, hbefore, hlacks, rfl⟩)
    · exact .placeholder hsplit hbefore hopen
    · exact .parameter hfilled hsplit hbefore hlacks
  · intro h
    cases h with
    | placeholder hsplit hbefore hopen =>
      exact .inl ⟨_, _, _, hsplit, hbefore, hopen, rfl⟩
    | parameter hfilled hsplit hbefore hlacks =>
      exact .inr ⟨hfilled, _, _, _, hsplit, hbefore, hlacks, rfl⟩

/-- A link is made from the values of the placeholders and parameters of its route. -/
theorem link_congr {values' : Bindings} (scheme : String)
    (h : ∀ name, name ∈ r.placeholders ∨ name ∈ r.parameters.map (·.name) →
      values.find? name = values'.find? name) :
    r.link scheme values = r.link scheme values' := by
  have hsegments : ∀ s ∈ r.segments, r.segmentText values s = r.segmentText values' s := by
    intro s hs
    cases s with
    | literal text => rfl
    | placeholder name =>
      have hname : name ∈ r.placeholders := List.mem_filterMap.mpr ⟨_, hs, rfl⟩
      simp [segmentText, Bindings.value?, h name (.inl hname)]
  have hparameters : ∀ p ∈ r.queryParameters, r.queryText values p = r.queryText values' p := by
    intro p hp
    have hname : p.name ∈ r.parameters.map (·.name) :=
      List.mem_map_of_mem (mem_queryParameters.mp hp).1
    simp [queryText, h p.name (.inr hname)]
  simp [link, linkPath, linkQuery, mapM_congr hsegments, mapM_congr hparameters]

end Route

namespace Table

/-- When a table gives a link. It knows no route of the name exactly if it has none. The values are
refused by a route for the first placeholder that they do not fill, or else for the first parameter
that is lacking, and they have a link exactly if there is neither. Entries that the route has no
placeholder and no parameter for make no difference. -/
theorem link_exact {m : Manifest} {t : Table} (ht : m.build = .ok t) (name : String)
    (values : Bindings) :
    (t.link name values = .error (.unknownRoute name) ↔ ∀ r ∈ t.routes, r.name ≠ name) ∧
    ∀ r ∈ t.routes, r.name = name →
      (∀ e, t.link name values = .error e ↔ r.Refuses values e) ∧
      ((∃ url, t.link name values = .ok url) ↔
        (∀ n ∈ r.placeholders, values.Fills n) ∧ ∀ p ∈ r.parameters, ¬ r.Lacks values p) ∧
      ∀ values' : Bindings,
        (∀ n, n ∈ r.placeholders ∨ n ∈ r.parameters.map (·.name) →
          values.find? n = values'.find? n) →
        t.link name values = t.link name values' := by
  have hwf := m.wellFormed_of_build ht
  constructor
  · unfold link
    cases hroute : t.route? name with
    | none =>
      rw [route?, List.find?_eq_none] at hroute
      simpa using hroute
    | some r =>
      obtain ⟨hr, hname⟩ := mem_of_route?_eq_some hroute
      refine iff_of_false (fun h => ?_) fun h => h r hr hname
      exact (Route.link_eq_error_iff.mp h).ne_unknownRoute name rfl
  · rintro r hr rfl
    have hlink (values : Bindings) : t.link r.name values = r.link t.primaryScheme values := by
      rw [link, hwf.route?_eq_some hr]
    rw [hlink]
    refine ⟨fun e => Route.link_eq_error_iff, ?_, fun values' h => ?_⟩
    · have hlacks : (∀ p ∈ r.parameters, ¬ r.Lacks values p) ↔
          ∀ p ∈ r.queryParameters, p.isMandatory = true → values.contains p.name = true := by
        simp only [Route.not_lacks_iff, Route.mem_queryParameters, and_imp]
      rw [hlacks]
      exact Route.exists_link_iff
    · rw [hlink]
      exact Route.link_congr t.primaryScheme h

end Table

namespace Manifest

/-- A single page, without default hosts. -/
def pages : Manifest where
  schemes := ["https"]
  defaultHosts := []
  routes := [Declaration.catalog]

/-- The table of `Manifest.pages`. -/
def pagesTable : Table where
  schemes := Names.ofList ["https"]
  routes := [Route.catalog]

theorem build_pages : pages.build = .ok pagesTable := by cbv

end Manifest

namespace Table

/-- An empty placeholder comes before a missing parameter, a bare one in front of it comes first,
and a bare key will do for a parameter. -/
theorem link_exact_catalog :
    Manifest.pages.build = .ok Manifest.pagesTable ∧
    Manifest.pagesTable.link "Catalog" ∅ = .error (.unknownRoute "Catalog") ∧
    Manifest.pagesTable.link "catalog" (Bindings.ofList [("locale", some "en"), ("id", some "")]) =
      .error (.emptyPathValue "catalog" "id") ∧
    Manifest.pagesTable.link "catalog" (Bindings.ofList [("locale", none), ("id", some "")]) =
      .error (.missingParameter "catalog" "locale") ∧
    Manifest.pagesTable.link "catalog"
        (Bindings.ofList [("locale", some "en"), ("id", some "7"), ("raw", none)]) =
      .error (.missingParameter "catalog" "q") ∧
    (∃ url, Manifest.pagesTable.link "catalog"
      (Bindings.ofList [("locale", some "en"), ("id", some "7"), ("q", none)]) = .ok url) ∧
    Manifest.pagesTable.link "catalog"
        (Bindings.ofList [("locale", some "en"), ("id", some "7"), ("q", none)]) =
      Manifest.pagesTable.link "catalog"
        (Bindings.ofList
          [("id", some "7"), ("locale", some "en"), ("q", none), ("utm", none)]) := by
  have hcatalog : Route.catalog ∈ Manifest.pagesTable.routes := List.mem_singleton_self _
  have hlink (values : Bindings) :=
    (link_exact Manifest.build_pages "catalog" values).2 Route.catalog hcatalog rfl
  have hunknown : ∀ r ∈ Manifest.pagesTable.routes, r.name ≠ "Catalog" := by decide +kernel
  have hlocale : Route.catalog.placeholders = [] ++ "locale" :: ["id"] := rfl
  have hid : Route.catalog.placeholders = ["locale"] ++ "id" :: [] := rfl
  have hq : Route.catalog.parameters =
      [⟨"id", true⟩] ++ ⟨"q", true⟩ :: [⟨"page", false⟩, ⟨"raw", false⟩] := rfl
  refine ⟨Manifest.build_pages, (link_exact Manifest.build_pages "Catalog" ∅).1.mpr hunknown,
    ((hlink _).1 _).mpr ?_, ((hlink _).1 _).mpr ?_, ((hlink _).1 _).mpr ?_, (hlink _).2.1.mpr ?_,
    (hlink _).2.2 _ ?_⟩
  · exact .placeholder hid (by decide +kernel) (by decide +kernel)
  · exact .placeholder hlocale (by decide) (by decide +kernel)
  · exact .parameter (by decide +kernel) hq (by decide +kernel) (by decide +kernel)
  · decide +kernel
  · intro n hn
    have hn : n ∈ ["locale", "id"] ++ ["id", "q", "page", "raw"] := List.mem_append.mpr hn
    have hagree : ∀ n ∈ ["locale", "id"] ++ ["id", "q", "page", "raw"],
        (Bindings.ofList [("locale", some "en"), ("id", some "7"), ("q", none)]).find? n =
          (Bindings.ofList [("id", some "7"), ("locale", some "en"), ("q", none),
            ("utm", none)]).find? n := by decide +kernel
    exact hagree n hn

end Table

end DeepLinks
