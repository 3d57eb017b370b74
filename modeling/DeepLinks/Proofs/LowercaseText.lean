import DeepLinks.Names
import Mathlib.Data.Nat.Notation

/-!
# Lower case and ASCII letters

No lowercase form holds a capital ASCII letter, whatever its character. So a list of names, which
are in lower case, accepts a name exactly if it holds that name with its ASCII letters in lower
case: lists that accept the same name have a name in common.
-/

namespace DeepLinks

namespace Text

theorem asciiLower_of_lt {c : Char} (h : 'Z'.toNat < c.toNat) : asciiLower c = c := by
  have hcapital : ¬ ('A' ≤ c ∧ c ≤ 'Z') := by
    rintro ⟨-, hle⟩
    have hle : c.toNat ≤ 'Z'.toNat := hle
    omega
  rw [asciiLower, if_neg hcapital]

theorem asciiLower_ofNat {n : ℕ} (h : 'Z'.toNat < n) :
    asciiLower (Char.ofNat n) = Char.ofNat n := by
  by_cases hvalid : n.isValidChar
  · have hvalue : (Char.ofNat n).toNat = n := by
      rw [Char.ofNat, dif_pos hvalid]
      rfl
    apply asciiLower_of_lt
    rw [hvalue]
    exact h
  · rw [Char.ofNat, dif_neg hvalid]
    decide

@[simp] theorem asciiLower_asciiLower (c : Char) : asciiLower (asciiLower c) = asciiLower c := by
  by_cases hcapital : 'A' ≤ c ∧ c ≤ 'Z'
  · have hle : 'A'.toNat ≤ c.toNat := hcapital.1
    have hA : 'A'.toNat = 65 := rfl
    have hZ : 'Z'.toNat = 90 := rfl
    have hlower : asciiLower c = Char.ofNat (c.toNat + 32) := if_pos hcapital
    rw [hlower]
    apply asciiLower_ofNat
    omega
  · have hself : asciiLower c = c := if_neg hcapital
    rw [hself, hself]

end Text

namespace Unicode

/-- What holds of the words of a text holds of the runs that they write. -/
theorem forall_run_ofText {P : Run → Prop} {text : String} (s : List Char)
    (htext : text = String.ofList s)
    (h : ∀ word ∈ (s.splitBy fun a b => !words.isGap a && !words.isGap b).filter
      fun w => !w.any words.isGap, P (Run.ofWord word)) :
    ∀ r ∈ (CodeMap.ofText text).runs, P r := by
  intro r hr
  rw [CodeMap.ofText, words, htext, String.toList_ofList] at hr
  obtain ⟨word, hword, rfl⟩ := List.mem_map.mp hr
  exact h word hword

set_option maxRecDepth 100000 in
theorem lt_of_mem_targets_lowercaseForms :
    ∀ r ∈ lowercaseForms.runs, ∀ t ∈ r.targets, 'Z'.toNat < t := by
  -- evaluated on the characters of the table, since taking them from the text one by one is slow
  unfold lowercaseForms
  refine forall_run_ofText ?s ?text ?words
  case text => exact rfl
  case words => decide +kernel

theorem Run.exists_le_of_mem_image {r : Run} {n m : ℕ} (h : m ∈ r.image n) :
    ∃ t ∈ r.targets, t ≤ m := by
  unfold image at h
  split at h
  · rename_i t ht
    rw [List.mem_singleton.mp h, ht]
    exact ⟨t, List.mem_singleton_self t, Nat.le_add_right t _⟩
  · exact ⟨m, h, Nat.le_refl m⟩

theorem asciiLower_of_mem_lowercaseForms {c : Char} {form : List Char}
    (h : lowercaseForms.find? c = some form) : ∀ d ∈ form, Text.asciiLower d = d := by
  obtain ⟨r, hr, rfl⟩ := Option.map_eq_some_iff.mp h
  intro d hd
  obtain ⟨m, hm, rfl⟩ := List.mem_map.mp hd
  obtain ⟨t, ht, hle⟩ := Run.exists_le_of_mem_image hm
  have hlt := lt_of_mem_targets_lowercaseForms r (List.mem_of_find?_eq_some hr) t ht
  exact Text.asciiLower_ofNat (Nat.lt_of_lt_of_le hlt hle)

end Unicode

namespace Text

theorem asciiLower_of_mem_lowerChar {c d : Char} (h : d ∈ lowerChar c) : asciiLower d = d := by
  unfold lowerChar at h
  split at h
  · rw [List.mem_singleton.mp h]
    exact asciiLower_asciiLower c
  · rename_i hascii
    split at h
    · rw [List.mem_cons, List.mem_singleton] at h
      rcases h with rfl | rfl <;> decide
    · cases hform : Unicode.lowercaseForms.find? c with
      | none =>
        rw [hform, Option.getD_none, List.mem_singleton] at h
        rw [h]
        have hZ : 'Z'.toNat = 90 := rfl
        exact asciiLower_of_lt (by omega)
      | some form =>
        rw [hform, Option.getD_some] at h
        exact Unicode.asciiLower_of_mem_lowercaseForms hform d h

theorem asciiLower_of_mem_lowerAfter {before s : List Char} {d : Char}
    (h : d ∈ lowerAfter before s) : asciiLower d = d := by
  induction s generalizing before with
  | nil => contradiction
  | cons c s ih =>
    unfold lowerAfter at h
    rcases List.mem_append.mp h with h | h
    · split at h
      · rw [List.mem_singleton.mp h]
        split <;> decide
      · exact asciiLower_of_mem_lowerChar h
    · exact ih h

/-- A text in lower case is left alone when its ASCII letters are put in lower case. -/
@[simp] theorem map_asciiLower_lowercase (s : String) :
    (lowercase s).toList.map asciiLower = (lowercase s).toList := by
  rw [lowercase, String.toList_ofList]
  have hself : ∀ d ∈ lowerAfter [] s.toList, asciiLower d = id d :=
    fun d hd => asciiLower_of_mem_lowerAfter hd
  rw [List.map_congr_left hself, List.map_id]

end Text

theorem Names.accepts_ofList_iff {names : List String} {name : String} :
    (ofList names).accepts name = true ↔
      String.ofList (name.toList.map Text.asciiLower) ∈ (ofList names).list := by
  have hlower : ∀ m ∈ (ofList names).list, m.toList.map Text.asciiLower = m.toList := by
    intro m hm
    rw [list_ofList, mem_distinct] at hm
    obtain ⟨n, -, rfl⟩ := List.mem_map.mp hm
    exact Text.map_asciiLower_lowercase n
  rw [accepts_iff]
  constructor
  · rintro ⟨m, hm, heq⟩
    rw [← heq, hlower m hm, String.ofList_toList]
    exact hm
  · intro h
    refine ⟨_, h, ?_⟩
    rw [hlower _ h, String.toList_ofList]

end DeepLinks
