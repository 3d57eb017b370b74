import DeepLinks.Proofs.PercentCodec

/-!
# Canonical encodings

A text has many encodings: any byte may be escaped, and an escape may have letters of either case.
One of them is canonical. It leaves unreserved characters alone and escapes all other bytes in upper
case, and it is the one that `Percent.encode` writes.
-/

namespace DeepLinks

namespace Hex

/-- A hexadecimal digit that is no lower case letter. -/
def IsUpperDigit (c : Char) : Prop :=
  ('0' ≤ c ∧ c ≤ '9') ∨ ('A' ≤ c ∧ c ≤ 'F')

instance (c : Char) : Decidable (IsUpperDigit c) :=
  inferInstanceAs (Decidable (_ ∨ _))

theorem isUpperDigit_upper {n : Nat} (h : n < 16) : IsUpperDigit (upper n) := by
  have all : ∀ m ∈ List.range 16, IsUpperDigit (upper m) := by decide
  exact all n (List.mem_range.mpr h)

/-- Upper case leaves one way to write a digit. -/
theorem IsUpperDigit.eq_upper {c : Char} {n : Nat} (hc : IsUpperDigit c)
    (h : digit? c = some n) : c = upper n := by
  have all : ∀ m ∈ List.range 16, IsUpperDigit (lower m) → lower m = upper m := by decide
  obtain ⟨hn, hupper | hlower⟩ := digit?_eq_some h
  · exact hupper
  · rw [hlower] at hc ⊢
    exact all n (List.mem_range.mpr hn) hc

end Hex

namespace Percent

/-- Texts of unreserved characters, and of escapes in upper case of bytes that are no such
character. -/
inductive IsCanonical : List Char → Prop
  | nil : IsCanonical []
  | unreserved {c : Char} {s : List Char} :
      isUnreserved c = true → IsCanonical s → IsCanonical (c :: s)
  | escape {hi lo : Char} {m n : Nat} {s : List Char} :
      Hex.IsUpperDigit hi → Hex.digit? hi = some m →
      Hex.IsUpperDigit lo → Hex.digit? lo = some n →
      isUnreserved (Char.ofNat (16 * m + n)) = false →
      IsCanonical s → IsCanonical ('%' :: hi :: lo :: s)

theorem isCanonical_encodeByte_append (b : UInt8) {s : List Char} (h : IsCanonical s) :
    IsCanonical (encodeByte b ++ s) := by
  have hlt := b.toNat_lt
  have hhi : b.toNat / 16 < 16 := by omega
  have hlo : b.toNat % 16 < 16 := by omega
  have hbyte : 16 * (b.toNat / 16) + b.toNat % 16 = b.toNat := Nat.div_add_mod b.toNat 16
  unfold encodeByte
  split
  · rename_i hb
    exact .unreserved hb h
  · rename_i hb
    apply IsCanonical.escape (Hex.isUpperDigit_upper hhi) (Hex.digit?_upper hhi)
      (Hex.isUpperDigit_upper hlo) (Hex.digit?_upper hlo) _ h
    rw [hbyte, ← Bool.not_eq_true]
    exact hb

theorem encodeByte_of_digits {hi lo : Char} {m n : Nat} (hhi : Hex.IsUpperDigit hi)
    (hm : Hex.digit? hi = some m) (hlo : Hex.IsUpperDigit lo) (hn : Hex.digit? lo = some n)
    (h : isUnreserved (Char.ofNat (16 * m + n)) = false) :
    encodeByte (UInt8.ofNat (16 * m + n)) = ['%', hi, lo] := by
  have hm16 := (Hex.digit?_eq_some hm).1
  have hn16 := (Hex.digit?_eq_some hn).1
  have hbyte : (UInt8.ofNat (16 * m + n)).toNat = 16 * m + n :=
    UInt8.toNat_ofNat_of_lt' (show 16 * m + n < 256 by omega)
  have hdiv : (16 * m + n) / 16 = m := by omega
  have hmod : (16 * m + n) % 16 = n := by omega
  rw [encodeByte, hbyte, if_neg (by simp [h]), escape, hbyte, hdiv, hmod, ← hhi.eq_upper hm,
    ← hlo.eq_upper hn]

/-- Canonical texts are written byte by byte. -/
theorem isCanonical_iff {s : List Char} :
    IsCanonical s ↔ ∃ bs : List UInt8, s = bs.flatMap encodeByte := by
  constructor
  · intro h
    induction h with
    | nil => exact ⟨[], rfl⟩
    | @unreserved c s hc _ ih =>
      obtain ⟨bs, rfl⟩ := ih
      have hlt := (toNat_of_isUnreserved hc).2
      obtain ⟨b, -, rfl⟩ := exists_byte_of_lt (c := c) (by omega)
      refine ⟨b :: bs, ?_⟩
      simp [encodeByte, hc]
    | @escape hi lo m n s hhi hm hlo hn hbyte _ ih =>
      obtain ⟨bs, rfl⟩ := ih
      refine ⟨UInt8.ofNat (16 * m + n) :: bs, ?_⟩
      rw [List.flatMap_cons, encodeByte_of_digits hhi hm hlo hn hbyte]
      rfl
  · rintro ⟨bs, rfl⟩
    induction bs with
    | nil => exact .nil
    | cons b bs ih =>
      rw [List.flatMap_cons]
      exact isCanonical_encodeByte_append b ih

/-- Encoding and decoding are inverse to each other on canonical texts: what is encoded is canonical
and decoded to the same text again, and a canonical text that is decoded to a text is its encoding.
A plus sign makes no difference, whether or not it means a space. -/
theorem encode_eq_iff (plusAsSpace : Bool) (s t : String) :
    encode s = t ↔ IsCanonical t.toList ∧ decode plusAsSpace t = .ok s := by
  constructor
  · rintro rfl
    refine ⟨?_, decode_encode plusAsSpace s⟩
    rw [encode, String.toList_ofList]
    exact isCanonical_iff.mpr ⟨bytesOf s.toList, rfl⟩
  · rintro ⟨ht, hdecode⟩
    obtain ⟨bs, hbs⟩ := isCanonical_iff.mp ht
    have hbytes : bs = bytesOf s.toList := by
      rw [decode_eq_ok_iff, hbs, decodeBytes?_flatMap_encodeByte] at hdecode
      exact Option.some.inj hdecode
    rw [encode, ← hbytes, ← hbs, String.ofList_toList]

end Percent

end DeepLinks
