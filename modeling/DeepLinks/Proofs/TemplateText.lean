import DeepLinks.Proofs.TemplateSegments

/-!
# Templates of given segments

A path is written from its segments with a slash between any two of them, and as many more slashes
as one likes; a template may go on after a question mark. Compiling reads exactly these texts, and
of these the ones whose segments are well-formed: segments and templates are inverse to each other.
-/

namespace DeepLinks.Template

/-- A path of these segments: they stand in order, parted by slashes, and there may be more slashes
before, between and after them. -/
inductive IsPath : List Segment → List Char → Prop
  | nil : IsPath [] []
  | slash {segments : List Segment} {path : List Char} :
      IsPath segments path → IsPath segments ('/' :: path)
  | segment {s : Segment} {segments : List Segment} {path : List Char} :
      IsPath segments path → (∀ c ∈ path.head?, c = '/') →
      IsPath (s :: segments) (s.display.toList ++ path)

/-- A template of these segments: a path of them, and any text after a question mark. -/
def Writes (segments : List Segment) (template : String) : Prop :=
  ∃ path, IsPath segments path ∧
    (template.toList = path ∨ ∃ query, template.toList = path ++ '?' :: query)

@[simp] theorem toList_display_segment (piece : List Char) :
    (segment piece).display.toList = piece := by
  cases h : segment piece with
  | literal text =>
    have htext := segment_eq_literal h
    simp [Segment.display, htext]
  | placeholder name => exact (segment_eq_placeholder_iff.mp h).symm

/-- A literal that does not read as a placeholder is read as itself. -/
theorem segment_toList {text : String}
    (h : ∀ name, text ≠ (Segment.placeholder name).display) :
    segment text.toList = .literal text := by
  cases hsegment : segment text.toList with
  | literal other =>
    have hother := segment_eq_literal hsegment
    simp [hother]
  | placeholder name =>
    have hdisplay := segment_eq_placeholder_iff.mp hsegment
    exact absurd (String.toList_inj.mp hdisplay) (h name)

namespace IsWellFormed

variable {segments : List Segment}

theorem segment_display (h : IsWellFormed segments) {s : Segment} (hs : s ∈ segments) :
    segment s.display.toList = s := by
  cases s with
  | literal text => exact segment_toList (h.literal text hs).2.2.2
  | placeholder name => exact segment_eq_placeholder_iff.mpr rfl

/-- The text of a segment is a piece of a path. -/
theorem display_spec (h : IsWellFormed segments) {s : Segment} (hs : s ∈ segments) :
    s.display.toList ≠ [] ∧ '/' ∉ s.display.toList ∧ '?' ∉ s.display.toList := by
  cases s with
  | literal text =>
    obtain ⟨hne, hslash, hquestion, -⟩ := h.literal text hs
    have hnil : text.toList ≠ [] := by simpa using hne
    exact ⟨hnil, hslash, hquestion⟩
  | placeholder name =>
    obtain ⟨-, hslash, hquestion⟩ := h.placeholder name hs
    simp [Segment.display, hslash, hquestion]

end IsWellFormed

theorem pieces_append_of_head? {p s : List Char} (hp : '/' ∉ p) (hne : p ≠ [])
    (hs : ∀ c ∈ s.head?, c = '/') :
    (Text.pieces '/' (p ++ s)).filter (· ≠ []) = p :: (Text.pieces '/' s).filter (· ≠ []) := by
  cases s with
  | nil => simp [Text.pieces_of_not_mem hp, hne]
  | cons c s =>
    have hc : c = '/' := hs c rfl
    subst hc
    simp [Text.pieces_append hp, hne]

/-- The pieces of a path are the texts of its segments. -/
theorem IsPath.filter_pieces {segments : List Segment} {path : List Char}
    (h : IsPath segments path)
    (hwf : ∀ s ∈ segments, s.display.toList ≠ [] ∧ '/' ∉ s.display.toList) :
    (Text.pieces '/' path).filter (· ≠ []) = segments.map fun s => s.display.toList := by
  induction h with
  | nil => simp
  | slash _ ih => simpa using ih hwf
  | @segment s segments path _ hhead ih =>
    obtain ⟨⟨hne, hslash⟩, hrest⟩ := List.forall_mem_cons.mp hwf
    rw [pieces_append_of_head? hslash hne hhead, ih hrest, List.map_cons]

theorem IsPath.not_mem {segments : List Segment} {path : List Char} (h : IsPath segments path)
    (hwf : ∀ s ∈ segments, '?' ∉ s.display.toList) : '?' ∉ path := by
  induction h with
  | nil => simp
  | slash _ ih => simpa using ih hwf
  | segment _ _ ih =>
    obtain ⟨hs, hrest⟩ := List.forall_mem_cons.mp hwf
    simp [hs, ih hrest]

/-- Joined pieces are a path of what they stand for. -/
theorem isPath_intercalate (ps : List (List Char)) :
    IsPath ((ps.filter (· ≠ [])).map segment) (['/'].intercalate ps) := by
  induction ps with
  | nil => exact .nil
  | cons p ps ih =>
    by_cases hp : p = []
    · cases ps with
      | nil => simpa [hp] using IsPath.nil
      | cons q qs => simpa [hp, List.intercalate_cons_cons] using ih.slash
    · have hsegment (rest : List Char) (hrest : IsPath ((ps.filter (· ≠ [])).map segment) rest)
          (hhead : ∀ c ∈ rest.head?, c = '/') :
          IsPath (((p :: ps).filter (· ≠ [])).map segment) (p ++ rest) := by
        have hpath := hrest.segment (s := segment p) hhead
        rw [toList_display_segment] at hpath
        simpa [hp] using hpath
      cases ps with
      | nil => simpa using hsegment [] .nil (by simp)
      | cons q qs =>
        rw [List.intercalate_cons_cons, List.append_assoc]
        exact hsegment _ ih.slash (by simp)

/-- Every text is a path of what its pieces stand for. -/
theorem isPath_map_segment (path : List Char) :
    IsPath (((Text.pieces '/' path).filter (· ≠ [])).map segment) path := by
  have h := isPath_intercalate (Text.pieces '/' path)
  rwa [Text.intercalate_pieces] at h

theorem pathPart_of_not_mem {template : String} {path : List Char} (hpath : '?' ∉ path)
    (h : template.toList = path ∨ ∃ query, template.toList = path ++ '?' :: query) :
    pathPart template = path := by
  unfold pathPart
  rcases h with h | ⟨query, h⟩
  · rw [h, Text.takeWhile_of_not_mem hpath]
  · rw [h, Text.takeWhile_append_of_not_mem hpath]

/-- A template is its path, or goes on with a question mark. -/
theorem toList_eq_pathPart (template : String) :
    template.toList = pathPart template ∨
      ∃ query, template.toList = pathPart template ++ '?' :: query := by
  have hsplit := List.takeWhile_append_dropWhile (p := (· ≠ '?')) (l := template.toList)
  cases hrest : template.toList.dropWhile (· ≠ '?') with
  | nil =>
    rw [hrest, List.append_nil] at hsplit
    exact .inl hsplit.symm
  | cons c query =>
    have hc := List.head?_dropWhile_not (· ≠ '?') template.toList
    rw [hrest] at hc hsplit
    have hquestion : c = '?' := by simpa using hc
    subst hquestion
    exact .inr ⟨query, hsplit.symm⟩

/-- Pieces without a fault compile to what they stand for. -/
theorem compileAfter_eq_ok {template : String} {names : List String} {pieces : List (List Char)}
    (hnodup : ((pieces.map segment).filterMap Segment.name?).Nodup)
    (hnames : ∀ name ∈ (pieces.map segment).filterMap Segment.name?, name ≠ "" ∧ name ∉ names) :
    compileAfter template names pieces = .ok (pieces.map segment) := by
  induction pieces generalizing names with
  | nil => rfl
  | cons p ps ih =>
    rw [List.map_cons] at hnodup hnames ⊢
    rw [compileAfter]
    cases hp : segment p with
    | literal text =>
      simp only [hp, List.filterMap_cons, Segment.name?_literal] at hnodup hnames
      simp [ih hnodup hnames]
    | placeholder name =>
      simp only [hp, List.filterMap_cons, Segment.name?_placeholder, List.nodup_cons,
        List.forall_mem_cons] at hnodup hnames
      obtain ⟨hfresh, hnodup⟩ := hnodup
      obtain ⟨⟨hne, hnew⟩, hnames⟩ := hnames
      have hrest : ∀ other ∈ (ps.map segment).filterMap Segment.name?,
          other ≠ "" ∧ other ∉ name :: names := by
        intro other hother
        obtain ⟨hothers, hold⟩ := hnames other hother
        have hdistinct : other ≠ name := fun heq => hfresh (heq ▸ hother)
        simp [hothers, hold, hdistinct]
      simp [hne, hnew, ih hnodup hrest]

/-- A template compiles to segments exactly if they are well-formed and the template is written
from them: their texts joined by slashes, with more slashes anywhere around them, and with any text
after a question mark. -/
theorem compile_eq_ok_iff_writes (template : String) (segments : List Segment) :
    compile template = .ok segments ↔ IsWellFormed segments ∧ Writes segments template := by
  constructor
  · intro h
    refine ⟨isWellFormed_of_compile h, pathPart template, ?_, toList_eq_pathPart template⟩
    rw [compile_eq_map h]
    exact isPath_map_segment (pathPart template)
  · rintro ⟨hwf, path, hpath, htemplate⟩
    have hquestion : '?' ∉ path := hpath.not_mem fun s hs => (hwf.display_spec hs).2.2
    have hpieces : pathPieces template = segments.map fun s => s.display.toList := by
      rw [pathPieces, pathPart_of_not_mem hquestion htemplate]
      refine hpath.filter_pieces fun s hs => ?_
      obtain ⟨hne, hslash, -⟩ := hwf.display_spec hs
      exact ⟨hne, hslash⟩
    have hsegments : (pathPieces template).map segment = segments := by
      rw [hpieces, List.map_map]
      exact (List.map_congr_left fun s hs => hwf.segment_display hs).trans (List.map_id segments)
    have hnames : ∀ name ∈ segments.filterMap Segment.name?, name ≠ "" ∧ name ∉ [] := by
      intro name hname
      obtain ⟨s, hs, hsname⟩ := List.mem_filterMap.mp hname
      cases s with
      | literal _ => contradiction
      | placeholder other =>
        obtain rfl := Option.some.inj hsname
        exact ⟨(hwf.placeholder other hs).1, List.not_mem_nil⟩
    rw [← hsegments] at hnames ⊢
    exact compileAfter_eq_ok (hsegments.symm ▸ hwf.names_nodup) hnames

end DeepLinks.Template
