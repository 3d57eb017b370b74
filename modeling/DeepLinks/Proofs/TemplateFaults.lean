import DeepLinks.Proofs.TemplateText
import Mathlib.Data.List.Duplicate
import Mathlib.Data.List.Induction

/-!
# Faults of a template

A template has a fault if one of its pieces is a pair of braces with nothing between them, or if two
of them are the same placeholder. Compiling goes from left to right and keeps the names it has seen,
so what it reports is the first piece that is wrong after the ones before it. The text after the
first question mark has no part in it.
-/

namespace DeepLinks.Template

/-- The piece that is the placeholder of a name. -/
def placeholderPiece (name : String) : List Char :=
  (Segment.placeholder name).display.toList

/-- Some piece is an empty placeholder, or two pieces are the same placeholder with a name. -/
def HasFault (pieces : List (List Char)) : Prop :=
  placeholderPiece "" ∈ pieces ∨
    ∃ name, name ≠ "" ∧ List.Duplicate (placeholderPiece name) pieces

theorem HasFault.append {before : List (List Char)} (h : HasFault before)
    (after : List (List Char)) : HasFault (before ++ after) := by
  rcases h with hempty | ⟨name, hne, hduplicate⟩
  · exact .inl (List.mem_append_left after hempty)
  · exact .inr ⟨name, hne, hduplicate.mono_sublist (List.sublist_append_left before after)⟩

section Compile

variable {template : String} {names : List String} {before : List (List Char)}

end Compile

variable {template : String}

end DeepLinks.Template
