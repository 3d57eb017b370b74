import DeepLinks.Percent

/-!
# Reading encoded texts

`Percent.encode` writes one chunk per byte, and decoding reads each chunk back as that byte,
whether or not a plus sign means a space: no chunk holds one. Hence `decode_encode`, and with it
that different texts are encoded differently. The text of an encoding consists of unreserved
characters and percent signs, so it never holds a separator. Decoding in turn is determined by the
bytes of the result, `decode_eq_ok_iff`.
-/

namespace DeepLinks.Percent

/-- A character that satisfies a condition is none that does not. -/
theorem ne_of_holds {p : Char → Bool} {c d : Char} (hc : p c = true) (hd : p d = false) :
    c ≠ d := by
  rintro rfl
  rw [hc] at hd
  contradiction

theorem contains_eq_false_of_holds {p : Char → Bool} {cs : List Char} {c : Char} (hc : p c = true)
    (hcs : cs.all (!p ·) = true) : cs.contains c = false := by
  rw [← Bool.not_eq_true, List.contains_iff_mem]
  intro hmem
  have hp := List.all_eq_true.mp hcs c hmem
  rw [hc] at hp
  contradiction

theorem toNat_of_isUnreserved {c : Char} (h : isUnreserved c = true) :
    0x20 < c.toNat ∧ c.toNat < 0x7F := by
  have hrange {a b : Char} (ha : 0x20 < a.toNat) (hb : b.toNat < 0x7F) (h : a ≤ c ∧ c ≤ b) :
      0x20 < c.toNat ∧ c.toNat < 0x7F :=
    ⟨Nat.lt_of_lt_of_le ha h.1, Nat.lt_of_le_of_lt h.2 hb⟩
  rcases isUnreserved_iff.mp h with h | h | h | rfl | rfl | rfl | rfl
  · exact hrange (by decide) (by decide) h
  · exact hrange (by decide) (by decide) h
  · exact hrange (by decide) (by decide) h
  all_goals decide

/-- The characters that an encoding is made of. -/
def isEncoded (c : Char) : Bool :=
  isUnreserved c || c == '%'

theorem isEncoded_of_isUnreserved {c : Char} (h : isUnreserved c = true) : isEncoded c = true := by
  rw [isEncoded, h, Bool.true_or]

theorem toNat_of_isEncoded {c : Char} (h : isEncoded c = true) :
    0x20 < c.toNat ∧ c.toNat < 0x7F := by
  rw [isEncoded, Bool.or_eq_true, beq_iff_eq] at h
  rcases h with h | rfl
  · exact toNat_of_isUnreserved h
  · decide

theorem isUnreserved_upper {n : Nat} (h : n < 16) : isUnreserved (Hex.upper n) = true := by
  have all : ∀ m ∈ List.range 16, isUnreserved (Hex.upper m) = true := by decide
  exact all n (List.mem_range.mpr h)

theorem isEncoded_of_mem_escape {b : UInt8} {c : Char} (h : c ∈ escape b) :
    isEncoded c = true := by
  have hlt := b.toNat_lt
  simp only [escape, List.mem_cons, List.not_mem_nil, or_false] at h
  rcases h with rfl | rfl | rfl
  · decide
  · exact isEncoded_of_isUnreserved (isUnreserved_upper (by omega))
  · exact isEncoded_of_isUnreserved (isUnreserved_upper (by omega))

theorem isEncoded_of_mem_encodeByte {b : UInt8} {c : Char} (h : c ∈ encodeByte b) :
    isEncoded c = true := by
  unfold encodeByte at h
  split at h
  · rename_i hb
    rw [List.mem_singleton.mp h]
    exact isEncoded_of_isUnreserved hb
  · exact isEncoded_of_mem_escape h

theorem isEncoded_of_mem_encode {s : String} {c : Char} (h : c ∈ (encode s).toList) :
    isEncoded c = true := by
  rw [encode, String.toList_ofList, List.mem_flatMap] at h
  obtain ⟨b, -, hc⟩ := h
  exact isEncoded_of_mem_encodeByte hc

@[simp] theorem bytesOf_nil : bytesOf [] = [] := rfl

@[simp] theorem bytesOf_cons (c : Char) (s : List Char) :
    bytesOf (c :: s) = String.utf8EncodeChar c ++ bytesOf s :=
  List.flatMap_cons

@[simp] theorem toNat_ofNat_toNat (b : UInt8) : (Char.ofNat b.toNat).toNat = b.toNat := by
  have hlt := b.toNat_lt
  rw [Char.ofNat, dif_pos (.inl (by omega))]
  rfl

/-- Every ASCII character is the character of a byte. -/
theorem exists_byte_of_lt {c : Char} (h : c.toNat < 128) :
    ∃ b : UInt8, b.toNat < 128 ∧ Char.ofNat b.toNat = c := by
  have hb : (UInt8.ofNat c.toNat).toNat = c.toNat :=
    UInt8.toNat_ofNat_of_lt' (show c.toNat < 256 by omega)
  exact ⟨UInt8.ofNat c.toNat, by omega, by rw [hb, Char.ofNat_toNat]⟩

theorem utf8EncodeChar_ofNat_toNat {b : UInt8} (h : b.toNat < 128) :
    String.utf8EncodeChar (Char.ofNat b.toNat) = [b] := by
  have hval := toNat_ofNat_toNat b
  have hsize : (Char.ofNat b.toNat).utf8Size = 1 := by
    rw [Char.utf8Size_eq_one_iff, UInt32.le_iff_toNat_le]
    exact Nat.le_of_lt_succ (by omega : (Char.ofNat b.toNat).toNat < 128)
  rw [String.utf8EncodeChar_eq_singleton hsize, List.cons.injEq]
  refine ⟨?_, rfl⟩
  rw [← UInt8.toNat_inj, UInt32.toNat_toUInt8]
  exact (congrArg (· % 256) hval).trans (Nat.mod_eq_of_lt (by omega))

theorem utf8EncodeChar_of_isUnreserved {b : UInt8} (h : isUnreserved (Char.ofNat b.toNat) = true) :
    String.utf8EncodeChar (Char.ofNat b.toNat) = [b] := by
  have hlt := (toNat_of_isUnreserved h).2
  rw [toNat_ofNat_toNat] at hlt
  exact utf8EncodeChar_ofNat_toNat (by omega)

/-- A row of bytes begins with the bytes of one character at most. -/
theorem utf8EncodeChar_append_inj {c d : Char} {bs es : List UInt8}
    (h : String.utf8EncodeChar c ++ bs = String.utf8EncodeChar d ++ es) : c = d ∧ bs = es := by
  have hfirst (c : Char) (bs : List UInt8) :
      ByteArray.utf8DecodeChar? (String.utf8EncodeChar c ++ bs).toByteArray 0 = some c := by
    rw [List.toByteArray_append]
    exact ByteArray.utf8DecodeChar?_utf8EncodeChar_append
  have hc : c = d := Option.some.inj ((hfirst c bs).symm.trans (h ▸ hfirst d es))
  subst hc
  exact ⟨rfl, List.append_cancel_left h⟩

@[simp] theorem decodeBytes?_cons_of_ne (plusAsSpace : Bool) {c : Char} (h : c ≠ '%')
    (s : List Char) :
    decodeBytes? plusAsSpace (c :: s) =
      (decodeBytes? plusAsSpace s).map
        ((if plusAsSpace && c == '+' then [0x20] else String.utf8EncodeChar c) ++ ·) := by
  conv => lhs; unfold decodeBytes?
  rw [if_neg h]
  cases decodeBytes? plusAsSpace s <;> rfl

theorem decodeBytes?_percent_cons (plusAsSpace : Bool) {hi lo : Char} {h l : Nat}
    (hhi : Hex.digit? hi = some h) (hlo : Hex.digit? lo = some l) (s : List Char) :
    decodeBytes? plusAsSpace ('%' :: hi :: lo :: s) =
      (decodeBytes? plusAsSpace s).map (UInt8.ofNat (16 * h + l) :: ·) := by
  rw [decodeBytes?, if_pos rfl, hhi, hlo]
  cases decodeBytes? plusAsSpace s <;> rfl

@[simp] theorem decodeBytes?_escape_append (plusAsSpace : Bool) (b : UInt8) (s : List Char) :
    decodeBytes? plusAsSpace (escape b ++ s) = (decodeBytes? plusAsSpace s).map (b :: ·) := by
  have hlt := b.toNat_lt
  have hhi := Hex.digit?_upper (show b.toNat / 16 < 16 by omega)
  have hlo := Hex.digit?_upper (show b.toNat % 16 < 16 by omega)
  have hbyte : UInt8.ofNat (16 * (b.toNat / 16) + b.toNat % 16) = b := by
    rw [Nat.div_add_mod, UInt8.ofNat_toNat]
  have hcons := decodeBytes?_percent_cons plusAsSpace hhi hlo s
  rw [hbyte] at hcons
  exact hcons

/-- A chunk is read as the byte that it was written for. -/
@[simp] theorem decodeBytes?_encodeByte_append (plusAsSpace : Bool) (b : UInt8) (s : List Char) :
    decodeBytes? plusAsSpace (encodeByte b ++ s) =
      (decodeBytes? plusAsSpace s).map (b :: ·) := by
  unfold encodeByte
  split
  · rename_i hb
    have hpercent : Char.ofNat b.toNat ≠ '%' := ne_of_holds hb (by decide)
    have hplus : Char.ofNat b.toNat ≠ '+' := ne_of_holds hb (by decide)
    simp [hpercent, hplus, utf8EncodeChar_of_isUnreserved hb]
  · exact decodeBytes?_escape_append plusAsSpace b s

@[simp] theorem decodeBytes?_flatMap_encodeByte (plusAsSpace : Bool) (bs : List UInt8) :
    decodeBytes? plusAsSpace (bs.flatMap encodeByte) = some bs := by
  induction bs with
  | nil => rfl
  | cons b bs ih => rw [List.flatMap_cons, decodeBytes?_encodeByte_append, ih]; rfl

/-- What a text with a first character is decoded to: a byte for an escape, the bytes of the
character for any other. -/
theorem decodeBytes?_cons_eq_some {plusAsSpace : Bool} {c : Char} {s : List Char}
    {bs : List UInt8} (h : decodeBytes? plusAsSpace (c :: s) = some bs) :
    (∃ hi lo rest m n es, c = '%' ∧ s = hi :: lo :: rest ∧ Hex.digit? hi = some m ∧
      Hex.digit? lo = some n ∧ decodeBytes? plusAsSpace rest = some es ∧
      bs = UInt8.ofNat (16 * m + n) :: es) ∨
    ∃ es, c ≠ '%' ∧ decodeBytes? plusAsSpace s = some es ∧
      bs = (if plusAsSpace && c == '+' then [0x20] else String.utf8EncodeChar c) ++ es := by
  by_cases hc : c = '%'
  · subst hc
    unfold decodeBytes? at h
    rw [if_pos rfl] at h
    split at h
    · rename_i hi lo rest
      simp only [Option.bind_eq_bind, Option.bind_eq_some_iff, Option.some.injEq] at h
      obtain ⟨m, hm, n, hn, es, hes, rfl⟩ := h
      exact .inl ⟨hi, lo, rest, m, n, es, rfl, rfl, hm, hn, hes, rfl⟩
    · contradiction
  · rw [decodeBytes?_cons_of_ne plusAsSpace hc, Option.map_eq_some_iff] at h
    obtain ⟨es, hes, rfl⟩ := h
    exact .inr ⟨es, hc, hes, rfl⟩

/-- Only the empty text is decoded to no bytes. -/
theorem eq_nil_of_decodeBytes?_eq_nil {plusAsSpace : Bool} {s : List Char}
    (h : decodeBytes? plusAsSpace s = some []) : s = [] := by
  cases s with
  | nil => rfl
  | cons c s =>
    rcases decodeBytes?_cons_eq_some h with ⟨_, _, _, _, _, _, -, -, -, -, -, hbs⟩ | ⟨_, -, -, hbs⟩
    · contradiction
    · have hchunk := (List.append_eq_nil_iff.mp hbs.symm).1
      split at hchunk
      · contradiction
      · exact absurd hchunk String.utf8EncodeChar_ne_nil

/-- A text that stands for itself is read as its own bytes. -/
theorem decodeBytes?_of_isLiteral {plusAsSpace : Bool} {s : List Char}
    (h : isLiteral plusAsSpace s = true) : decodeBytes? plusAsSpace s = some (bytesOf s) := by
  induction s with
  | nil => rfl
  | cons c s ih =>
    simp only [isLiteral, List.contains_cons, Bool.and_eq_true, Bool.not_eq_true',
      Bool.or_eq_false_iff, Bool.and_eq_false_iff, beq_eq_false_iff_ne] at h
    obtain ⟨⟨hc, hs⟩, hplus⟩ := h
    have hrest : isLiteral plusAsSpace s = true := by
      simp only [isLiteral, hs, Bool.not_false, Bool.true_and, Bool.not_eq_true',
        Bool.and_eq_false_iff]
      exact hplus.imp_right And.right
    have hspace : (plusAsSpace && c == '+') = false := by
      rw [Bool.and_eq_false_iff, beq_eq_false_iff_ne]
      exact hplus.imp_right fun h => Ne.symm h.1
    rw [decodeBytes?_cons_of_ne plusAsSpace (Ne.symm hc), ih hrest, hspace]
    rfl

@[simp] theorem fromUTF8?_bytesOf (s : String) :
    String.fromUTF8? ⟨(bytesOf s.toList).toArray⟩ = some s := by
  have hbytes : (⟨(bytesOf s.toList).toArray⟩ : ByteArray) = s.toByteArray := by
    rw [ByteArray.ext_iff, ← String.utf8Encode_toList, List.utf8Encode, List.data_toByteArray]
    rfl
  rw [hbytes, String.fromUTF8?, dif_pos s.isValidUTF8]
  rfl

@[simp] theorem fromUTF8?_eq_some_iff {bs : List UInt8} {s : String} :
    String.fromUTF8? ⟨bs.toArray⟩ = some s ↔ bs = bytesOf s.toList := by
  constructor
  · intro h
    have hs := fromUTF8?_bytesOf s
    unfold String.fromUTF8? at h hs
    split at h
    · split at hs
      · rw [Option.some.injEq] at h hs
        have hbytes := congrArg String.toByteArray (h.trans hs.symm)
        simpa [String.fromUTF8] using hbytes
      · contradiction
    · contradiction
  · rintro rfl
    exact fromUTF8?_bytesOf s

/-- The shortcut for texts without escapes changes nothing. -/
theorem decode_eq_decodeAll (plusAsSpace : Bool) (s : String) :
    decode plusAsSpace s = decodeAll plusAsSpace s := by
  unfold decode
  split
  · rename_i h
    simp only [decodeAll, decodeBytes?_of_isLiteral h, fromUTF8?_bytesOf]
  · rfl

@[simp] theorem decode_encode (plusAsSpace : Bool) (s : String) :
    decode plusAsSpace (encode s) = .ok s := by
  simp only [decode_eq_decodeAll, decodeAll, encode, String.toList_ofList,
    decodeBytes?_flatMap_encodeByte, fromUTF8?_bytesOf]

theorem decode_eq_ok_iff {plusAsSpace : Bool} {s t : String} :
    decode plusAsSpace s = .ok t ↔ decodeBytes? plusAsSpace s.toList = some (bytesOf t.toList) := by
  rw [decode_eq_decodeAll, decodeAll]
  cases decodeBytes? plusAsSpace s.toList with
  | none => simp
  | some bs =>
    dsimp only
    rw [Option.some.injEq, ← fromUTF8?_eq_some_iff]
    cases String.fromUTF8? ⟨bs.toArray⟩ <;> simp

/-- Only the empty text is decoded to the empty text. -/
theorem ne_empty_of_decode {plusAsSpace : Bool} {s t : String} (h : decode plusAsSpace s = .ok t)
    (hs : s ≠ "") : t ≠ "" := by
  rintro rfl
  rw [decode_eq_ok_iff] at h
  exact hs (String.toList_eq_nil_iff.mp (eq_nil_of_decodeBytes?_eq_nil h))

theorem encode_injective {s t : String} (h : encode s = encode t) : s = t := by
  have hs := decode_encode false s
  rw [h, decode_encode] at hs
  exact (Except.ok.inj hs).symm

@[simp] theorem encode_eq_empty_iff {s : String} : encode s = "" ↔ s = "" := by
  have hempty : encode "" = "" := rfl
  refine ⟨fun h => encode_injective (h.trans hempty.symm), ?_⟩
  rintro rfl
  exact hempty

end DeepLinks.Percent
