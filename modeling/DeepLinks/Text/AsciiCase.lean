/-!
# Letter case of ASCII letters

Comparison that takes `A` to `Z` for `a` to `z` and every other character for itself.
-/

namespace DeepLinks.Text

/-- The lower-case letter for an upper-case ASCII letter, any other character itself. -/
def asciiLower (c : Char) : Char :=
  if 'A' ≤ c ∧ c ≤ 'Z' then Char.ofNat (c.toNat + 32) else c

def isAsciiAlpha (c : Char) : Bool :=
  ('a' ≤ c && c ≤ 'z') || ('A' ≤ c && c ≤ 'Z')

def isAsciiDigit (c : Char) : Bool :=
  '0' ≤ c && c ≤ '9'

/-- Whether two texts agree up to the case of ASCII letters. -/
def equalsIgnoringAsciiCase (s t : String) : Bool :=
  s.toList.map asciiLower == t.toList.map asciiLower

@[simp] theorem equalsIgnoringAsciiCase_iff {s t : String} :
    equalsIgnoringAsciiCase s t = true ↔ s.toList.map asciiLower = t.toList.map asciiLower := by
  simp [equalsIgnoringAsciiCase]

theorem toNat_of_isAsciiAlpha {c : Char} (h : isAsciiAlpha c = true) :
    0x41 ≤ c.toNat ∧ c.toNat ≤ 0x7A := by
  have hle (a b : Char) : a ≤ b ↔ a.toNat ≤ b.toNat := Iff.rfl
  simp only [isAsciiAlpha, Bool.or_eq_true, Bool.and_eq_true, decide_eq_true_eq, hle] at h
  have : 'a'.toNat = 0x61 := rfl
  have : 'z'.toNat = 0x7A := rfl
  have : 'A'.toNat = 0x41 := rfl
  have : 'Z'.toNat = 0x5A := rfl
  omega

theorem toNat_of_isAsciiDigit {c : Char} (h : isAsciiDigit c = true) :
    0x30 ≤ c.toNat ∧ c.toNat ≤ 0x39 := by
  have hle (a b : Char) : a ≤ b ↔ a.toNat ≤ b.toNat := Iff.rfl
  simp only [isAsciiDigit, Bool.and_eq_true, decide_eq_true_eq, hle] at h
  exact h

end DeepLinks.Text
