import DeepLinks.Link
import DeepLinks.Proofs.Outcomes
import DeepLinks.Url.Path

/-!
# The text of a link

A link is made of one text per segment and one per query entry. `Route.link_eq_ok_iff` takes it
apart again: the path is rendered from pieces, of which the root has a single empty one, and the
query joins the entries that are there. `Route.exists_link_iff` says when there is a link at all.
-/

namespace DeepLinks

/-- The pieces of a path with the given texts for its segments. -/
def linkPieces (texts : List String) : List Url.Path.Segment :=
  if texts = [] then [[]] else texts.map String.toList

/-- The query with the given texts for its entries. -/
def linkQuery? (entries : List String) : Option (List Char) :=
  if entries = [] then none else some (['&'].intercalate (entries.map String.toList))

/-- The entries that the values have for the parameters. -/
def queryEntries (values : Bindings) (ps : List Parameter) : List (String × Option String) :=
  ps.filterMap fun p => (values.find? p.name).map (p.name, ·)

/-- What a link writes for an entry. -/
def entryText : String × Option String → String
  | (name, none) => name
  | (name, some value) => name ++ "=" ++ Percent.encode value

@[simp] theorem toList_entryText_some (name value : String) :
    (entryText (name, some value)).toList =
      name.toList ++ '=' :: (Percent.encode value).toList := by
  simp [entryText, String.toList_append]

@[simp] theorem mem_queryEntries_iff {values : Bindings} {ps : List Parameter}
    {e : String × Option String} :
    e ∈ queryEntries values ps ↔ ∃ p ∈ ps, p.name = e.1 ∧ values.find? p.name = some e.2 := by
  simp only [queryEntries, List.mem_filterMap, Option.map_eq_some_iff, Prod.ext_iff]
  constructor
  · rintro ⟨p, hp, value, hvalue, hname, rfl⟩
    exact ⟨p, hp, hname, hvalue⟩
  · rintro ⟨p, hp, hname, hvalue⟩
    exact ⟨p, hp, e.2, hvalue, hname, rfl⟩

@[simp] theorem linkPieces_ne_nil (texts : List String) : linkPieces texts ≠ [] := by
  unfold linkPieces
  split
  · exact List.cons_ne_nil _ _
  · rename_i h
    rw [ne_eq, List.map_eq_nil_iff]
    exact h

theorem forall_mem_linkPieces {P : List Char → Prop} {texts : List String} (hroot : P [])
    (h : ∀ text ∈ texts, P text.toList) : ∀ p ∈ linkPieces texts, P p := by
  unfold linkPieces
  split
  · simpa using hroot
  · rw [List.forall_mem_map]
    exact h

theorem forall_mem_head?_linkPieces {P : List Char → Prop} {texts : List String} (hroot : P [])
    (h : ∀ text ∈ texts.head?, P text.toList) : ∀ p ∈ (linkPieces texts).head?, P p := by
  unfold linkPieces
  split
  · simpa using hroot
  · simpa using h

theorem forall_mem_getLast?_linkPieces {P : List Char → Prop} {texts : List String}
    (hroot : P []) (h : ∀ text ∈ texts.getLast?, P text.toList) :
    ∀ p ∈ (linkPieces texts).getLast?, P p := by
  unfold linkPieces
  split
  · simpa using hroot
  · simpa using h

/-- Apart from the piece of the root, the pieces are the texts. -/
theorem filter_linkPieces {texts : List String} (h : ∀ text ∈ texts, text ≠ "") :
    (linkPieces texts).filter (· ≠ []) = texts.map String.toList := by
  unfold linkPieces
  split
  · rename_i hnil
    rw [hnil]
    rfl
  · rw [List.filter_eq_self, List.forall_mem_map]
    intro text htext
    simpa using h text htext

namespace Route

variable {r : Route} {values : Bindings}

@[simp] theorem mem_queryParameters {p : Parameter} :
    p ∈ r.queryParameters ↔ p ∈ r.parameters ∧ p.name ∉ r.placeholders := by
  simp [queryParameters]

theorem linkPath_eq_ok_iff {path : String} :
    r.linkPath values = .ok path ↔
      ∃ texts, List.Forall₂ (fun s text => r.segmentText values s = .ok text) r.segments texts ∧
        path = String.ofList (Url.Path.render (linkPieces texts)) := by
  have htext (texts : List String) :
      (if texts.isEmpty then "/" else String.join (texts.map ("/" ++ ·))) =
        String.ofList (Url.Path.render (linkPieces texts)) := by
    rw [← String.toList_inj, String.toList_ofList]
    cases texts with
    | nil => rfl
    | cons text texts => simp [linkPieces, Url.Path.render, List.flatMap_map]
  simp only [linkPath, bind_eq_ok_iff, mapM_eq_ok_iff, pure_eq_ok, Except.ok.injEq, htext,
    eq_comm (a := path)]

theorem linkQuery_eq_ok_iff {query : String} :
    r.linkQuery values = .ok query ↔
      ∃ entries,
        List.Forall₂ (fun p entry => r.queryText values p = .ok entry) r.queryParameters entries ∧
        query = String.ofList ((linkQuery? (entries.filterMap id)).elim [] ('?' :: ·)) := by
  have htext (entries : List String) :
      (if entries.isEmpty then "" else "?" ++ "&".intercalate entries) =
        String.ofList ((linkQuery? entries).elim [] ('?' :: ·)) := by
    rw [← String.toList_inj, String.toList_ofList]
    cases entries with
    | nil => rfl
    | cons entry entries =>
      simp [linkQuery?, String.toList_intercalate]
  simp only [linkQuery, bind_eq_ok_iff, mapM_eq_ok_iff, pure_eq_ok, Except.ok.injEq, htext,
    eq_comm (a := query)]

theorem link_eq_ok_iff {scheme url : String} :
    r.link scheme values = .ok url ↔
      ∃ texts entries,
        List.Forall₂ (fun s text => r.segmentText values s = .ok text) r.segments texts ∧
        List.Forall₂ (fun p entry => r.queryText values p = .ok entry) r.queryParameters entries ∧
        url = scheme ++ "://" ++ r.hosts.first ++
          String.ofList (Url.Path.render (linkPieces texts) ++
            (linkQuery? (entries.filterMap id)).elim [] ('?' :: ·)) := by
  simp only [link, bind_eq_ok_iff, linkPath_eq_ok_iff, linkQuery_eq_ok_iff, pure_eq_ok,
    Except.ok.injEq]
  constructor
  · rintro ⟨_, ⟨texts, htexts, rfl⟩, _, ⟨entries, hentries, rfl⟩, rfl⟩
    exact ⟨texts, entries, htexts, hentries, by simp [String.append_assoc]⟩
  · rintro ⟨texts, entries, htexts, hentries, rfl⟩
    exact ⟨_, ⟨texts, htexts, rfl⟩, _, ⟨entries, hentries, rfl⟩, by simp [String.append_assoc]⟩

/-- A literal is written as it is, and a placeholder as the encoding of its value. -/
theorem segmentText_eq_ok_iff {s : Segment} {text : String} :
    r.segmentText values s = .ok text ↔
      s = .literal text ∨ ∃ name value, s = .placeholder name ∧ values.value? name = some value ∧
        value ≠ "" ∧ text = Percent.encode value := by
  cases s with
  | literal literal => simp [segmentText]
  | placeholder name =>
    unfold segmentText
    cases hvalue : values.value? name with
    | none => simp [hvalue]
    | some value => simp [hvalue, ite_error_eq_ok_iff, eq_comm (a := text)]

@[simp] theorem exists_segmentText_iff {s : Segment} :
    (∃ text, r.segmentText values s = .ok text) ↔
      ∀ name, s.name? = some name → ∃ value, values.value? name = some value ∧ value ≠ "" := by
  cases s with
  | literal text => simp [segmentText]
  | placeholder name => simp [segmentText_eq_ok_iff]

/-- The text of an entry is written for each parameter that has one, and a mandatory one has to. -/
theorem queryText_eq_ok_iff {p : Parameter} {entry : Option String} :
    r.queryText values p = .ok entry ↔
      (p.isMandatory = true → values.contains p.name = true) ∧
      entry = ((values.find? p.name).map (p.name, ·)).map entryText := by
  unfold queryText Bindings.contains
  rw [eq_comm (a := entry)]
  cases values.find? p.name with
  | none => simp [ite_error_eq_ok_iff]
  | some value => cases value <;> simp [entryText]

@[simp] theorem exists_queryText_iff {p : Parameter} :
    (∃ entry, r.queryText values p = .ok entry) ↔
      (p.isMandatory = true → values.contains p.name = true) := by
  simp [queryText_eq_ok_iff]

/-- The query of a link holds the entries that the values have, and nothing else. -/
theorem filterMap_queryText {ps : List Parameter} {entries : List (Option String)}
    (h : List.Forall₂ (fun p entry => r.queryText values p = .ok entry) ps entries) :
    entries.filterMap id = (queryEntries values ps).map entryText := by
  have hentries : ps.map (fun p => ((values.find? p.name).map (p.name, ·)).map entryText) =
      entries := by
    rw [← List.forall₂_eq_eq_eq, List.forall₂_map_left_iff]
    exact h.imp fun p entry hp => (queryText_eq_ok_iff.mp hp).2.symm
  rw [← hentries, List.filterMap_map, queryEntries, List.map_filterMap]
  rfl

/-- A path can be written if every placeholder has a value that is not empty. -/
@[simp] theorem exists_linkPath_iff :
    (∃ path, r.linkPath values = .ok path) ↔
      ∀ name ∈ r.placeholders, ∃ value, values.value? name = some value ∧ value ≠ "" := by
  have htexts : (∃ path, r.linkPath values = .ok path) ↔
      ∃ texts, List.Forall₂ (fun s text => r.segmentText values s = .ok text) r.segments texts := by
    simp only [linkPath_eq_ok_iff]
    rw [exists_comm]
    simp only [exists_and_left, exists_eq, and_true]
  rw [htexts, exists_forall₂_iff]
  simp only [exists_segmentText_iff, placeholders, List.mem_filterMap]
  exact ⟨fun h name ⟨s, hs, hname⟩ => h s hs name hname,
    fun h s hs name hname => h name ⟨s, hs, hname⟩⟩

/-- A query can be written if every mandatory parameter has an entry. -/
@[simp] theorem exists_linkQuery_iff :
    (∃ query, r.linkQuery values = .ok query) ↔
      ∀ p ∈ r.queryParameters, p.isMandatory = true → values.contains p.name = true := by
  have hentries : (∃ query, r.linkQuery values = .ok query) ↔
      ∃ entries,
        List.Forall₂ (fun p entry => r.queryText values p = .ok entry) r.queryParameters
          entries := by
    simp only [linkQuery_eq_ok_iff]
    rw [exists_comm]
    simp only [exists_and_left, exists_eq, and_true]
  rw [hentries, exists_forall₂_iff]
  simp only [exists_queryText_iff]

/-- A link is refused for nothing but a placeholder without a value that is not empty, and a
mandatory parameter without an entry. -/
@[simp] theorem exists_link_iff {scheme : String} :
    (∃ url, r.link scheme values = .ok url) ↔
      (∀ name ∈ r.placeholders, ∃ value, values.value? name = some value ∧ value ≠ "") ∧
      ∀ p ∈ r.queryParameters, p.isMandatory = true → values.contains p.name = true := by
  rw [← exists_linkPath_iff, ← exists_linkQuery_iff]
  simp only [link, bind_eq_ok_iff, pure_eq_ok, Except.ok.injEq]
  constructor
  · rintro ⟨_, path, hpath, query, hquery, -⟩
    exact ⟨⟨path, hpath⟩, ⟨query, hquery⟩⟩
  · rintro ⟨⟨path, hpath⟩, ⟨query, hquery⟩⟩
    exact ⟨_, path, hpath, query, hquery, rfl⟩

end Route

end DeepLinks
