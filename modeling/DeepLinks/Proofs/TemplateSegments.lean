import DeepLinks.Proofs.Outcomes
import DeepLinks.Template
import Mathlib.Data.List.TakeWhile

/-!
# Segments of a template

Compiling a template only looks for faults: what it gives is the row of what its pieces stand for.
A row without faults is well-formed.
-/

namespace DeepLinks.Template

/-- The segments that templates can have: literals and names are pieces of a path, a literal does
not read as a placeholder, and no name is given twice. -/
structure IsWellFormed (segments : List Segment) : Prop where
  literal : ∀ text, .literal text ∈ segments →
    text ≠ "" ∧ '/' ∉ text.toList ∧ '?' ∉ text.toList ∧
      ∀ name, text ≠ (Segment.placeholder name).display
  placeholder : ∀ name, .placeholder name ∈ segments →
    name ≠ "" ∧ '/' ∉ name.toList ∧ '?' ∉ name.toList
  names_nodup : (segments.filterMap Segment.name?).Nodup

theorem compileAfter_eq_map {template : String} {names : List String} {pieces : List (List Char)}
    {segments : List Segment} (h : compileAfter template names pieces = .ok segments) :
    segments = pieces.map segment := by
  induction pieces generalizing names segments with
  | nil => exact (Except.ok.inj h).symm
  | cons p ps ih =>
    unfold compileAfter at h
    cases hp : segment p with
    | literal text =>
      simp only [hp, bind_eq_ok_iff, pure_eq_ok, Except.ok.injEq] at h
      obtain ⟨rest, hrest, rfl⟩ := h
      rw [List.map_cons, hp, ← ih hrest]
    | placeholder name =>
      simp only [hp, ite_error_eq_ok_iff, bind_eq_ok_iff, pure_eq_ok, Except.ok.injEq] at h
      obtain ⟨-, -, rest, hrest, rfl⟩ := h
      rw [List.map_cons, hp, ← ih hrest]

theorem compile_eq_map {template : String} {segments : List Segment}
    (h : compile template = .ok segments) : segments = (pathPieces template).map segment :=
  compileAfter_eq_map h

theorem segment_eq_literal {piece : List Char} {text : String}
    (h : segment piece = .literal text) : text = String.ofList piece := by
  unfold segment at h
  split at h
  · contradiction
  · exact (Segment.literal.inj h).symm

@[simp] theorem inBraces?_eq_some_iff {piece name : List Char} :
    inBraces? piece = some name ↔ piece = '\x7b' :: (name ++ ['\x7d']) := by
  unfold inBraces?
  split
  · rename_i s
    rw [List.cons.injEq]
    simp only [Option.ite_none_right_eq_some, Option.some.injEq, List.getLast?_eq_some_iff,
      true_and]
    constructor
    · rintro ⟨⟨t, rfl⟩, rfl⟩
      rw [List.dropLast_concat]
    · rintro rfl
      exact ⟨⟨name, rfl⟩, List.dropLast_concat⟩
  · rename_i h
    simp only [reduceCtorEq, false_iff]
    exact h _

theorem segment_eq_placeholder_iff {piece : List Char} {name : String} :
    segment piece = .placeholder name ↔ piece = (Segment.placeholder name).display.toList := by
  have hdisplay : (Segment.placeholder name).display.toList =
      '\x7b' :: (name.toList ++ ['\x7d']) := by
    simp [Segment.display, String.toList_append]
  rw [hdisplay, ← inBraces?_eq_some_iff]
  unfold segment
  cases inBraces? piece with
  | none => simp
  | some s =>
    rw [Segment.placeholder.injEq, Option.some.injEq, ← String.toList_inj, String.toList_ofList]

theorem not_mem_of_mem_pathPieces {template : String} {piece : List Char}
    (h : piece ∈ pathPieces template) : piece ≠ [] ∧ '/' ∉ piece ∧ '?' ∉ piece := by
  rw [pathPieces, List.mem_filter, decide_eq_true_eq] at h
  refine ⟨h.2, Text.not_mem_of_mem_pieces h.1, fun hc => ?_⟩
  have hpath : '?' ∈ pathPart template := Text.mem_of_mem_pieces h.1 hc
  simpa using List.mem_takeWhile_imp hpath

/-- The names that are given are new ones. -/
theorem names_of_compileAfter {template : String} {names : List String}
    {pieces : List (List Char)} {segments : List Segment}
    (h : compileAfter template names pieces = .ok segments) :
    (segments.filterMap Segment.name?).Nodup ∧
      ∀ name ∈ segments.filterMap Segment.name?, name ≠ "" ∧ name ∉ names := by
  induction pieces generalizing names segments with
  | nil =>
    rw [← Except.ok.inj h]
    simp
  | cons p ps ih =>
    unfold compileAfter at h
    cases hp : segment p with
    | literal text =>
      simp only [hp, bind_eq_ok_iff, pure_eq_ok, Except.ok.injEq] at h
      obtain ⟨rest, hrest, rfl⟩ := h
      simpa [List.filterMap_cons] using ih hrest
    | placeholder name =>
      simp only [hp, ite_error_eq_ok_iff, bind_eq_ok_iff, pure_eq_ok, Except.ok.injEq] at h
      obtain ⟨hne, hfresh, rest, hrest, rfl⟩ := h
      obtain ⟨hnodup, hnames⟩ := ih hrest
      simp only [List.filterMap_cons, Segment.name?_placeholder, List.nodup_cons,
        List.forall_mem_cons]
      refine ⟨⟨fun hmem => (hnames name hmem).2 List.mem_cons_self, hnodup⟩, ⟨hne, hfresh⟩, ?_⟩
      intro other hother
      obtain ⟨hother, hold⟩ := hnames other hother
      exact ⟨hother, fun hmem => hold (List.mem_cons_of_mem _ hmem)⟩

theorem isWellFormed_of_compile {template : String} {segments : List Segment}
    (h : compile template = .ok segments) : IsWellFormed segments := by
  have hpiece {s : Segment} (hs : s ∈ segments) :
      ∃ piece ∈ pathPieces template, segment piece = s := by
    rw [compile_eq_map h] at hs
    exact List.mem_map.mp hs
  have hnames := names_of_compileAfter h
  refine ⟨fun text htext => ?_, fun name hname => ?_, hnames.1⟩
  · obtain ⟨piece, hmem, hsegment⟩ := hpiece htext
    obtain ⟨hne, hslash, hquestion⟩ := not_mem_of_mem_pathPieces hmem
    obtain rfl := segment_eq_literal hsegment
    rw [String.toList_ofList]
    refine ⟨by simpa using hne, hslash, hquestion, fun name hname => ?_⟩
    have hbraces : piece = (Segment.placeholder name).display.toList := by
      rw [← hname, String.toList_ofList]
    rw [segment_eq_placeholder_iff.mpr hbraces] at hsegment
    contradiction
  · obtain ⟨piece, hmem, hsegment⟩ := hpiece hname
    obtain ⟨-, hslash, hquestion⟩ := not_mem_of_mem_pathPieces hmem
    have hsub : ∀ c ∈ name.toList, c ∈ piece := by
      rw [segment_eq_placeholder_iff.mp hsegment]
      intro c hc
      simp [Segment.display, hc]
    refine ⟨(hnames.2 name ?_).1, fun hc => hslash (hsub _ hc), fun hc => hquestion (hsub _ hc)⟩
    exact List.mem_filterMap.mpr ⟨_, hname, rfl⟩

end DeepLinks.Template
