/-!
# Hexadecimal digits
-/

namespace DeepLinks.Hex

/-- The value of a hexadecimal digit in either case. -/
def digit? (c : Char) : Option Nat :=
  if '0' ≤ c ∧ c ≤ '9' then some (c.toNat - '0'.toNat)
  else if 'a' ≤ c ∧ c ≤ 'f' then some (c.toNat - 'a'.toNat + 10)
  else if 'A' ≤ c ∧ c ≤ 'F' then some (c.toNat - 'A'.toNat + 10)
  else none

/-- The digit of a value below sixteen, letters in upper case. -/
def upper (n : Nat) : Char :=
  if n < 10 then Char.ofNat ('0'.toNat + n) else Char.ofNat ('A'.toNat + n - 10)

/-- The digit of a value below sixteen, letters in lower case. -/
def lower (n : Nat) : Char :=
  if n < 10 then Char.ofNat ('0'.toNat + n) else Char.ofNat ('a'.toNat + n - 10)

@[simp] theorem digit?_upper {n : Nat} (h : n < 16) : digit? (upper n) = some n := by
  have all : ∀ m ∈ List.range 16, digit? (upper m) = some m := by decide
  exact all n (List.mem_range.mpr h)

@[simp] theorem digit?_lower {n : Nat} (h : n < 16) : digit? (lower n) = some n := by
  have all : ∀ m ∈ List.range 16, digit? (lower m) = some m := by decide
  exact all n (List.mem_range.mpr h)

/-- A hexadecimal digit is written in one of two ways. -/
theorem digit?_eq_some {c : Char} {n : Nat} (h : digit? c = some n) :
    n < 16 ∧ (c = upper n ∨ c = lower n) := by
  have hchar (k : Nat) (hk : c.toNat = k) : c = Char.ofNat k := by rw [← hk, Char.ofNat_toNat]
  have hle (a b : Char) : a ≤ b ↔ a.toNat ≤ b.toNat := Iff.rfl
  have h0 : '0'.toNat = 48 := rfl
  have h9 : '9'.toNat = 57 := rfl
  have ha : 'a'.toNat = 97 := rfl
  have hf : 'f'.toNat = 102 := rfl
  have hA : 'A'.toNat = 65 := rfl
  have hF : 'F'.toNat = 70 := rfl
  simp only [digit?, hle, h0, h9, ha, hf, hA, hF] at h
  unfold upper lower
  split at h
  · rw [Option.some.injEq] at h
    have hn : n < 10 := by omega
    refine ⟨by omega, .inl ?_⟩
    rw [if_pos hn]
    exact hchar _ (by omega)
  · split at h
    · rw [Option.some.injEq] at h
      have hn : ¬ n < 10 := by omega
      refine ⟨by omega, .inr ?_⟩
      rw [if_neg hn]
      exact hchar _ (by omega)
    · split at h
      · rw [Option.some.injEq] at h
        have hn : ¬ n < 10 := by omega
        refine ⟨by omega, .inl ?_⟩
        rw [if_neg hn]
        exact hchar _ (by omega)
      · cases h

/-- The number that a row of digits writes in the given base. -/
def valueIn (base : Nat) (digits : List Nat) : Nat :=
  digits.foldl (fun n d => n * base + d) 0

/-- A number in hexadecimal, without leading zeros. -/
def ofNat (n : Nat) : List Char :=
  if n < 16 then [lower n] else ofNat (n / 16) ++ [lower (n % 16)]

end DeepLinks.Hex
