import DeepLinks.Proofs.Outcomes
import DeepLinks.Url.Basic
import Mathlib.Data.List.TakeWhile

/-!
# What the text of a scheme may hold

A scheme that has been read is in lower case and is read again as itself, whatever follows its
colon.
-/

namespace DeepLinks.Url

def isSchemeChar (c : Char) : Bool :=
  Text.isAsciiAlpha c || Text.isAsciiDigit c || c == '+' || c == '-' || c == '.'

/-- A letter and further characters of schemes, in lower case. -/
def IsScheme : List Char → Prop
  | [] => False
  | c :: cs =>
    Text.isAsciiAlpha c = true ∧ ∀ d ∈ c :: cs, isSchemeChar d = true ∧ Text.asciiLower d = d

theorem toNat_of_isSchemeChar {c : Char} (h : isSchemeChar c = true) :
    0x20 < c.toNat ∧ c.toNat < 0x7F := by
  simp only [isSchemeChar, Bool.or_eq_true, beq_iff_eq] at h
  rcases h with (((h | h) | rfl) | rfl) | rfl
  · have := Text.toNat_of_isAsciiAlpha h
    omega
  · have := Text.toNat_of_isAsciiDigit h
    omega
  all_goals decide

theorem isSchemeChar_of_isAsciiAlpha {c : Char} (h : Text.isAsciiAlpha c = true) :
    isSchemeChar c = true := by
  simp [isSchemeChar, h]

/-- Going to lower case stays within the characters of schemes, and letters stay letters. -/
theorem asciiLower_of_isSchemeChar {c : Char} (h : isSchemeChar c = true) :
    isSchemeChar (Text.asciiLower c) = true ∧
    Text.asciiLower (Text.asciiLower c) = Text.asciiLower c ∧
    (Text.isAsciiAlpha c = true → Text.isAsciiAlpha (Text.asciiLower c) = true) := by
  have all : ∀ n ∈ List.range 0x7F, isSchemeChar (Char.ofNat n) = true →
      isSchemeChar (Text.asciiLower (Char.ofNat n)) = true ∧
      Text.asciiLower (Text.asciiLower (Char.ofNat n)) = Text.asciiLower (Char.ofNat n) ∧
      (Text.isAsciiAlpha (Char.ofNat n) = true →
        Text.isAsciiAlpha (Text.asciiLower (Char.ofNat n)) = true) := by decide +kernel
  have hc := all c.toNat (List.mem_range.mpr (toNat_of_isSchemeChar h).2)
  rw [Char.ofNat_toNat] at hc
  exact hc h

theorem IsScheme.space_lt {scheme : List Char} (h : IsScheme scheme) : ∀ c ∈ scheme, ' ' < c := by
  cases scheme with
  | nil => contradiction
  | cons d ds => exact fun c hc => (toNat_of_isSchemeChar (h.2 c hc).1).1

theorem isScheme_of_scheme? {s scheme rest : List Char} (h : scheme? s = some (scheme, rest)) :
    IsScheme scheme := by
  cases s with
  | nil => contradiction
  | cons c cs =>
    unfold scheme? at h
    dsimp only at h
    split at h
    · rename_i hc
      split at h
      · rw [Option.some.injEq, Prod.mk.injEq] at h
        obtain ⟨rfl, -⟩ := h
        have hread : ∀ d ∈ c :: cs.takeWhile isSchemeChar, isSchemeChar d = true := by
          rw [List.forall_mem_cons]
          exact ⟨isSchemeChar_of_isAsciiAlpha hc,
            fun d hd => List.mem_takeWhile_imp (p := isSchemeChar) hd⟩
        refine ⟨(asciiLower_of_isSchemeChar (isSchemeChar_of_isAsciiAlpha hc)).2.2 hc, ?_⟩
        rw [← List.map_cons, List.forall_mem_map]
        intro d hd
        have hlower := asciiLower_of_isSchemeChar (hread d hd)
        exact ⟨hlower.1, hlower.2.1⟩
      · contradiction
    · contradiction

theorem scheme?_append {scheme : List Char} (h : IsScheme scheme) (rest : List Char) :
    scheme? (scheme ++ ':' :: rest) = some (scheme, rest) := by
  cases scheme with
  | nil => contradiction
  | cons c cs =>
    obtain ⟨hc, hall⟩ := h
    have hchars : ∀ d ∈ cs, isSchemeChar d = true :=
      fun d hd => (hall d (List.mem_cons_of_mem _ hd)).1
    have hcolon : isSchemeChar ':' = false := by decide
    have htake : (cs ++ ':' :: rest).takeWhile isSchemeChar = cs := by
      simp [List.takeWhile_append_of_pos hchars, hcolon]
    have hdrop : (cs ++ ':' :: rest).dropWhile isSchemeChar = ':' :: rest := by
      simp [List.dropWhile_append_of_pos hchars, hcolon]
    have hlower : (c :: cs).map Text.asciiLower = c :: cs := by
      rw [List.map_congr_left fun d hd => (hall d hd).2, List.map_id']
    rw [List.cons_append]
    have hchar : (fun c => Text.isAsciiAlpha c || Text.isAsciiDigit c || c == '+' || c == '-' ||
        c == '.') = isSchemeChar := rfl
    unfold scheme?
    dsimp only
    rw [hchar, if_pos hc, hdrop, htake, hlower]
    rfl

end DeepLinks.Url
