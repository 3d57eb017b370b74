import DeepLinks.Proofs.Binding
import DeepLinks.Proofs.Faults
import DeepLinks.Proofs.TemplateSegments
import Mathlib

/-!
# What a route asks for and what it binds

A route that has been compiled names each of its placeholders and each of its parameters once. So
no place of the path overwrites another, the query overwrites no place of the path, and what a
route binds can be said name by name.
-/

namespace DeepLinks

namespace Route

theorem compile_eq_ok_iff {defaultHosts : Names} {earlier : List String} {d : Declaration}
    {r : Route} :
    compile defaultHosts earlier d = .ok r ↔
      Text.trim d.name ≠ "" ∧ d.name ∉ earlier ∧ Text.trim d.name = d.name ∧
      ∃ segments, Template.compile d.template = .ok segments ∧
        (if d.hosts.isEmpty then defaultHosts else Names.ofList d.hosts).isEmpty = false ∧
        parameterFault? d.name [] d.parameters = none ∧
        r = ⟨d.name, d.template, segments,
          if d.hosts.isEmpty then defaultHosts else Names.ofList d.hosts, d.parameters⟩ := by
  unfold compile
  by_cases hempty : Text.trim d.name = ""
  · simp [hempty]
  by_cases hdup : d.name ∈ earlier
  · simp [hempty, hdup]
  by_cases hspace : Text.trim d.name ≠ d.name
  · simp [hempty, hdup, hspace]
  rw [if_neg hempty, if_neg hdup, if_neg hspace, and_iff_right hempty, and_iff_right hdup,
    and_iff_right (not_not.mp hspace)]
  generalize (if d.hosts.isEmpty then defaultHosts else Names.ofList d.hosts) = hosts
  cases Template.compile d.template with
  | error cause => simp
  | ok segments =>
    cases hhosts : hosts.isEmpty with
    | true => simp [hhosts]
    | false => cases parameterFault? d.name [] d.parameters <;> simp [hhosts, eq_comm]

/-- Each name of a compiled route is given once by the path and once by the parameters. -/
theorem nodup_of_compile {defaultHosts : Names} {earlier : List String} {d : Declaration}
    {r : Route} (h : compile defaultHosts earlier d = .ok r) :
    r.placeholders.Nodup ∧ (r.parameters.map (·.name)).Nodup := by
  obtain ⟨-, -, -, segments, hsegments, -, hfault, rfl⟩ := compile_eq_ok_iff.mp h
  refine ⟨(Template.isWellFormed_of_compile hsegments).names_nodup, ?_⟩
  rw [parameterFault?_eq_head? [] [] d.parameters rfl (by simp), List.head?_eq_none_iff] at hfault
  exact (Declaration.parameterFaults_eq_nil_iff.mp hfault).2

/-- What a route asks of a location: one of its hosts, the path of its template with every literal
in its place, and a key for every mandatory parameter that is no placeholder. -/
structure Admits (r : Route) (u : Location) : Prop where
  host : ∃ host ∈ r.hosts.list, Text.equalsIgnoringAsciiCase host u.host = true
  length : r.segments.length = u.path.length
  literal : ∀ text value, (.literal text, value) ∈ r.segments.zip u.path → value = text
  mandatory : ∀ p ∈ r.parameters, p.isMandatory = true → p.name ∉ r.placeholders →
    u.query.contains p.name = true

/-- What a route makes of a location: each placeholder is bound to the segment in its place, and
each other parameter to what the query has for it, or to no value if it has nothing. -/
structure Binds (r : Route) (u : Location) (b : Bindings) : Prop where
  names : ∀ k, k ∈ b.names ↔ k ∈ r.placeholders ∨ k ∈ r.parameters.map (·.name)
  placeholder : ∀ name value, (.placeholder name, value) ∈ r.segments.zip u.path →
    b.find? name = some (some value)
  present : ∀ p ∈ r.parameters, p.name ∉ r.placeholders → ∀ value,
    u.query.find? p.name = some value → b.find? p.name = some value
  absent : ∀ p ∈ r.parameters, p.name ∉ r.placeholders →
    u.query.find? p.name = none → b.find? p.name = some none

/-- A path of the right length is bound exactly if the literals stand in their places. -/
theorem exists_bindPath_iff {segments : List Segment} {path : List String}
    (hlength : segments.length = path.length) (b : Bindings) :
    (∃ b', bindPath b segments path = .ok b') ↔
      ∀ text value, (.literal text, value) ∈ segments.zip path → value = text := by
  induction segments generalizing b path with
  | nil => simp [bindPath]
  | cons s segments ih =>
    obtain ⟨value, path, rfl⟩ := List.exists_cons_of_length_eq_add_one hlength.symm
    have hrest : segments.length = path.length := Nat.succ.inj hlength
    cases s with
    | literal text =>
      have hzip : (∀ t v, (.literal t, v) ∈ (Segment.literal text :: segments).zip (value :: path) →
          v = t) ↔ value = text ∧ ∀ t v, (.literal t, v) ∈ segments.zip path → v = t := by
        simp only [List.zip_cons_cons, List.mem_cons, Prod.mk.injEq, Segment.literal.injEq]
        constructor
        · intro h
          exact ⟨h text value (.inl ⟨rfl, rfl⟩), fun t v hzip => h t v (.inr hzip)⟩
        · rintro ⟨hvalue, h⟩ t v (⟨rfl, rfl⟩ | hzip)
          · exact hvalue
          · exact h t v hzip
      rw [hzip, bindPath]
      by_cases htext : text = value
      · simp [htext, ih hrest]
      · simp [htext, Ne.symm htext]
    | placeholder name =>
      simp only [bindPath, ih hrest, List.zip_cons_cons, List.mem_cons, Prod.mk.injEq,
        reduceCtorEq, false_and, false_or]

theorem mem_placeholders_of_mem_zip {r : Route} {path : List String} {name value : String}
    (h : (.placeholder name, value) ∈ r.segments.zip path) : name ∈ r.placeholders :=
  List.mem_filterMap.mpr ⟨_, (List.of_mem_zip h).1, rfl⟩

theorem exists_mem_zip_of_mem_placeholders {r : Route} {path : List String}
    (hlength : r.segments.length = path.length) {name : String} (h : name ∈ r.placeholders) :
    ∃ value, (.placeholder name, value) ∈ r.segments.zip path := by
  obtain ⟨s, hs, hname⟩ := List.mem_filterMap.mp h
  cases s with
  | literal _ => contradiction
  | placeholder other =>
    obtain rfl := Option.some.inj hname
    obtain ⟨i, hi, hget⟩ := List.mem_iff_getElem.mp hs
    have hi' : i < path.length := hlength ▸ hi
    have hizip : i < (r.segments.zip path).length := by
      rw [List.length_zip]
      omega
    refine ⟨path[i], List.mem_iff_getElem.mpr ⟨i, hizip, ?_⟩⟩
    rw [List.getElem_zip, hget]

/-- What a route asks for makes it bind. -/
theorem Admits.exists_bind {r : Route} {u : Location} (h : r.Admits u)
    (hplaceholders : r.placeholders.Nodup) (hparameters : (r.parameters.map (·.name)).Nodup) :
    ∃ b, r.bind u = .ok b := by
  obtain ⟨b', hb'⟩ := (exists_bindPath_iff h.length ∅).mpr h.literal
  have hfind := find?_of_bindPath_empty hplaceholders h.length hb'
  have hmandatory : ∀ p ∈ r.parameters, p.isMandatory = true →
      b'.contains p.name = true ∨ u.query.contains p.name = true := by
    intro p hp hmandatory
    by_cases hname : p.name ∈ r.placeholders
    · exact .inl (Bindings.contains_eq_true_iff.mpr ⟨_, (hfind p.name).trans (if_pos hname)⟩)
    · exact .inr (h.mandatory p hp hmandatory hname)
  obtain ⟨b, hb, -⟩ := exists_bindQuery_eq_ok hparameters hmandatory
  have hhost : r.hosts.accepts u.host = true := by
    obtain ⟨host, hmem, hequal⟩ := h.host
    exact List.any_eq_true.mpr ⟨host, hmem, hequal⟩
  exact ⟨b, bind_ok_iff.mpr ⟨hhost, h.length, b', hb', hb⟩⟩

theorem spec_of_bind_eq_ok {r : Route} {u : Location} {b : Bindings}
    (hplaceholders : r.placeholders.Nodup) (hparameters : (r.parameters.map (·.name)).Nodup)
    (h : r.bind u = .ok b) : r.Admits u ∧ r.Binds u b := by
  obtain ⟨hhost, hlength, b', hpath, hquery⟩ := bind_ok_iff.mp h
  obtain ⟨hstands, hnames⟩ := spec_of_bind hplaceholders hparameters h
  obtain ⟨hmandatory, hfind⟩ := (bindQuery_eq_ok_iff hparameters).mp hquery
  -- the path leaves the other parameters to the query
  have hfresh (k : String) (hk : k ∉ r.placeholders) : b'.find? k = none :=
    (find?_of_bindPath_empty hplaceholders hlength hpath k).trans (if_neg hk)
  have hparameter (p : Parameter) (hp : p ∈ r.parameters) (hname : p.name ∉ r.placeholders) :
      b.find? p.name = some (u.query.value? p.name) := by
    have hmem : p.name ∈ r.parameters.map (·.name) := List.mem_map_of_mem hp
    simp only [hfind, hfresh _ hname, Option.none_or, hmem, ↓reduceIte]
  refine ⟨⟨?_, hlength, ?_, ?_⟩, ⟨?_, ?_, ?_, ?_⟩⟩
  · exact List.any_eq_true.mp hhost
  · exact (exists_bindPath_iff hlength ∅).mp ⟨b', hpath⟩
  · intro p hp hp' hname
    refine (hmandatory p hp hp').resolve_left fun hcontains => ?_
    simp [Bindings.contains, hfresh _ hname] at hcontains
  · intro k
    rw [Bindings.mem_names_iff, Bindings.contains, hnames]
    by_cases hk : k ∈ r.placeholders ∨ k ∈ r.parameters.map (·.name) <;> simp only [hk] <;> simp
  · intro name value hzip
    have hvalue : b.value? name = some value := (List.forall₂_iff_zip.mp hstands).2 hzip
    rw [hnames, if_pos (.inl (mem_placeholders_of_mem_zip hzip)), hvalue]
  · intro p hp hname value hvalue
    rw [hparameter p hp hname, Bindings.value?, hvalue]
    rfl
  · intro p hp hname hvalue
    rw [hparameter p hp hname, Bindings.value?, hvalue]
    rfl

/-- There is one way to bind a path of the right length. -/
theorem Binds.unique {r : Route} {u : Location} {b b' : Bindings}
    (hlength : r.segments.length = u.path.length) (h : r.Binds u b) (h' : r.Binds u b') :
    b = b' := by
  refine Bindings.ext_find? fun k => ?_
  by_cases hk : k ∈ r.placeholders
  · obtain ⟨value, hzip⟩ := exists_mem_zip_of_mem_placeholders hlength hk
    rw [h.placeholder k value hzip, h'.placeholder k value hzip]
  · by_cases hparameter : k ∈ r.parameters.map (·.name)
    · obtain ⟨p, hp, rfl⟩ := List.mem_map.mp hparameter
      cases hquery : u.query.find? p.name with
      | some value => rw [h.present p hp hk value hquery, h'.present p hp hk value hquery]
      | none => rw [h.absent p hp hk hquery, h'.absent p hp hk hquery]
    · have hnone {b : Bindings} (h : r.Binds u b) : b.find? k = none := by
        have hmem := (h.names k).not.mpr (by simp [hk, hparameter])
        rw [Bindings.mem_names_iff] at hmem
        simpa [Bindings.contains] using hmem
      rw [hnone h, hnone h']

/-- A compiled route binds a location exactly if the host is one of its hosts up to the case of
ASCII letters, the path has as many segments as its template with every literal in its place, and
every mandatory parameter that is no placeholder is a key of the query. What it binds are the
placeholders and the parameters and no other names: the placeholders to the segments in their
places, whatever the query says, and the other parameters to what the query says, which is no value
for an optional one that is absent. -/
theorem bind?_eq_some_iff_admits {defaultHosts : Names} {earlier : List String} {d : Declaration}
    {r : Route} (hr : compile defaultHosts earlier d = .ok r) (u : Location) :
    ((∃ b, r.bind? u = some b) ↔ r.Admits u) ∧
    ∀ b, r.bind? u = some b ↔ r.Admits u ∧ r.Binds u b := by
  obtain ⟨hplaceholders, hparameters⟩ := nodup_of_compile hr
  have hspec (b : Bindings) (hb : r.bind? u = some b) : r.Admits u ∧ r.Binds u b :=
    spec_of_bind_eq_ok hplaceholders hparameters (toOption_eq_some_iff.mp hb)
  have hexists (h : r.Admits u) : ∃ b, r.bind? u = some b := by
    obtain ⟨b, hb⟩ := h.exists_bind hplaceholders hparameters
    exact ⟨b, toOption_eq_some_iff.mpr hb⟩
  refine ⟨⟨?_, hexists⟩, fun b => ⟨hspec b, ?_⟩⟩
  · rintro ⟨b, hb⟩
    exact (hspec b hb).1
  · rintro ⟨hadmits, hbinds⟩
    obtain ⟨b', hb'⟩ := hexists hadmits
    have heq : b' = b := (hspec b' hb').2.unique hadmits.length hbinds
    exact heq ▸ hb'

end Route

/-- A page that needs something of its path and something of its query. -/
def Declaration.catalog : Declaration where
  name := "catalog"
  template := "/\x7blocale\x7d/catalog/\x7bid\x7d?q="
  hosts := ["Example.COM"]
  parameters := [⟨"id", true⟩, ⟨"q", true⟩, ⟨"page", false⟩, ⟨"raw", false⟩]

namespace Route

/-- The route of `Declaration.catalog`. -/
def catalog : Route where
  name := "catalog"
  template := Declaration.catalog.template
  segments := [.placeholder "locale", .literal "catalog", .placeholder "id"]
  hosts := Names.ofList ["example.com"]
  parameters := Declaration.catalog.parameters

/-- The query has an entry with the name of a placeholder, a bare key, and none for one of the
parameters. -/
theorem bind?_eq_some_iff_admits_catalog :
    compile (Names.ofList []) [] Declaration.catalog = .ok catalog ∧
    (∃ b, catalog.bind? ⟨"https", "EXAMPLE.com", ["en", "catalog", "7"],
      Bindings.ofList [("id", some "9"), ("q", some "a b"), ("raw", none)]⟩ = some b) ∧
    ∀ b, catalog.bind? ⟨"https", "EXAMPLE.com", ["en", "catalog", "7"],
        Bindings.ofList [("id", some "9"), ("q", some "a b"), ("raw", none)]⟩ = some b →
      b.find? "id" = some (some "7") ∧ b.find? "raw" = some none ∧ b.find? "page" = some none ∧
        "utm" ∉ b.names := by
  have hcompile : compile (Names.ofList []) [] Declaration.catalog = .ok catalog := by cbv
  obtain ⟨hexists, hbind⟩ := bind?_eq_some_iff_admits hcompile ⟨"https", "EXAMPLE.com",
    ["en", "catalog", "7"], Bindings.ofList [("id", some "9"), ("q", some "a b"), ("raw", none)]⟩
  refine ⟨hcompile, hexists.mpr ⟨by decide +kernel, rfl, ?_, by decide +kernel⟩, fun b hb => ?_⟩
  · intro text value hzip
    obtain ⟨rfl, rfl⟩ : text = "catalog" ∧ value = "catalog" := by simpa [catalog] using hzip
    rfl
  · obtain ⟨-, hbinds⟩ := (hbind b).mp hb
    refine ⟨hbinds.placeholder "id" "7" (by decide), hbinds.present ⟨"raw", false⟩ (by decide)
      (by decide) none (by decide +kernel), hbinds.absent ⟨"page", false⟩ (by decide)
      (by decide) (by decide +kernel), fun hutm => ?_⟩
    exact absurd ((hbinds.names "utm").mp hutm) (by decide)

end Route

end DeepLinks
