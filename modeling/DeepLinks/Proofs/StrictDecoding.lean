import DeepLinks.Proofs.PercentCodec

/-!
# What strict decoding accepts

A text is decoded if two hexadecimal digits stand behind every percent sign in it and the bytes that
it denotes are UTF-8. `Percent.Denotes` says which bytes these are, byte by byte and with no regard
to characters: a byte of a character beyond ASCII is neither a percent sign nor a plus sign.
-/

namespace DeepLinks

namespace Hex

theorem toNat_lt_of_digit? {c : Char} {n : Nat} (h : digit? c = some n) : c.toNat < 128 := by
  have all : ∀ m ∈ List.range 16, (upper m).toNat < 128 ∧ (lower m).toNat < 128 := by decide
  obtain ⟨hn, hc⟩ := digit?_eq_some h
  have hm := all n (List.mem_range.mpr hn)
  rcases hc with rfl | rfl
  · exact hm.1
  · exact hm.2

end Hex

namespace Percent

/-- The bytes that an encoded text stands for, given as bytes as well: escapes are replaced by the
bytes they name, plus signs by spaces if that is what they mean, and all else stays. -/
inductive Denotes (plusAsSpace : Bool) : List UInt8 → List UInt8 → Prop
  | nil : Denotes plusAsSpace [] []
  | escape {hi lo : UInt8} {m n : Nat} {s bs : List UInt8} :
      Hex.digit? (Char.ofNat hi.toNat) = some m → Hex.digit? (Char.ofNat lo.toNat) = some n →
      Denotes plusAsSpace s bs →
      Denotes plusAsSpace (0x25 :: hi :: lo :: s) (UInt8.ofNat (16 * m + n) :: bs)
  | plus {s bs : List UInt8} :
      plusAsSpace = true → Denotes plusAsSpace s bs →
      Denotes plusAsSpace (0x2B :: s) (0x20 :: bs)
  | byte {b : UInt8} {s bs : List UInt8} :
      b ≠ 0x25 → (plusAsSpace = true → b ≠ 0x2B) → Denotes plusAsSpace s bs →
      Denotes plusAsSpace (b :: s) (b :: bs)

/-- Two hexadecimal digits stand at the beginning of a text. -/
def StartsWithDigits (s : List Char) : Prop :=
  ∃ hi lo rest m n, s = hi :: lo :: rest ∧ Hex.digit? hi = some m ∧ Hex.digit? lo = some n

@[simp] theorem startsWithDigits_cons_cons_iff {hi lo : Char} {s : List Char} :
    StartsWithDigits (hi :: lo :: s) ↔
      (Hex.digit? hi).isSome = true ∧ (Hex.digit? lo).isSome = true := by
  simp only [Option.isSome_iff_exists]
  constructor
  · rintro ⟨_, _, _, m, n, hs, hm, hn⟩
    cases hs
    exact ⟨⟨m, hm⟩, ⟨n, hn⟩⟩
  · rintro ⟨⟨m, hm⟩, ⟨n, hn⟩⟩
    exact ⟨hi, lo, s, m, n, rfl, hm, hn⟩

instance : (s : List Char) → Decidable (StartsWithDigits s)
  | hi :: lo :: _ => decidable_of_iff ((Hex.digit? hi).isSome ∧ (Hex.digit? lo).isSome)
      startsWithDigits_cons_cons_iff.symm
  | [] => isFalse (by simp [StartsWithDigits])
  | [_] => isFalse (by simp [StartsWithDigits])

/-- Some percent sign is not directly followed by two hexadecimal digits. -/
def HasBrokenEscape (s : List Char) : Prop :=
  ∃ before after, s = before ++ '%' :: after ∧ ¬ StartsWithDigits after

/-- A character beyond ASCII has no byte of an ASCII character. -/
theorem le_toNat_of_mem_utf8EncodeChar {c : Char} (hc : 128 ≤ c.toNat) :
    ∀ b ∈ String.utf8EncodeChar c, 128 ≤ b.toNat := by
  have hmark (a b : UInt8) (hb : 128 ≤ b.toNat) : 128 ≤ (a ||| b).toNat := by
    rw [UInt8.toNat_or]
    exact Nat.le_trans hb Nat.right_le_or
  obtain h1 | h2 | h3 | h4 := Char.utf8Size_eq c
  · have hle : c.toNat ≤ 127 := UInt32.le_iff_toNat_le.mp (Char.utf8Size_eq_one_iff.mp h1)
    omega
  · rw [String.utf8EncodeChar_eq_cons_cons h2]
    simp only [List.forall_mem_cons]
    exact ⟨hmark _ _ (by decide), hmark _ _ (by decide), by simp⟩
  · rw [String.utf8EncodeChar_eq_cons_cons_cons h3]
    simp only [List.forall_mem_cons]
    exact ⟨hmark _ _ (by decide), hmark _ _ (by decide), hmark _ _ (by decide), by simp⟩
  · rw [String.utf8EncodeChar_eq_cons_cons_cons_cons h4]
    simp only [List.forall_mem_cons]
    exact ⟨hmark _ _ (by decide), hmark _ _ (by decide), hmark _ _ (by decide),
      hmark _ _ (by decide), by simp⟩

/-- A byte below 128 belongs to the ASCII character with its number, and to no other. -/
theorem eq_of_mem_utf8EncodeChar {c : Char} {b : UInt8} (h : b ∈ String.utf8EncodeChar c)
    (hb : b.toNat < 128) : c = Char.ofNat b.toNat := by
  have hc : c.toNat < 128 := by
    apply Nat.lt_of_not_le
    intro hge
    have hle := le_toNat_of_mem_utf8EncodeChar hge b h
    omega
  obtain ⟨a, ha, rfl⟩ := exists_byte_of_lt hc
  rw [utf8EncodeChar_ofNat_toNat ha, List.mem_singleton] at h
  rw [h]

/-- The ASCII characters of a text can be read off its bytes. -/
theorem eq_cons_of_bytesOf_eq_cons {s : List Char} {b : UInt8} {bs : List UInt8}
    (h : bytesOf s = b :: bs) (hb : b.toNat < 128) :
    ∃ rest, s = Char.ofNat b.toNat :: rest ∧ bytesOf rest = bs := by
  cases s with
  | nil => contradiction
  | cons c rest =>
    rw [bytesOf_cons] at h
    obtain ⟨first, others, hfirst⟩ :=
      List.exists_cons_of_ne_nil (String.utf8EncodeChar_ne_nil (c := c))
    have hmem : b ∈ String.utf8EncodeChar c := by
      rw [hfirst, List.cons_append, List.cons.injEq] at h
      rw [hfirst, h.1]
      exact List.mem_cons_self
    obtain rfl := eq_of_mem_utf8EncodeChar hmem hb
    rw [utf8EncodeChar_ofNat_toNat hb, List.singleton_append, List.cons.injEq] at h
    exact ⟨rest, rfl, h.2⟩

section Denotes

variable {plusAsSpace : Bool}

@[simp] theorem denotes_nil_iff {bs : List UInt8} : Denotes plusAsSpace [] bs ↔ bs = [] := by
  constructor
  · intro h
    cases h
    rfl
  · rintro rfl
    exact .nil

/-- Bytes that are neither a percent sign nor a plus sign for a space stay as they are. -/
theorem denotes_append_iff {chunk s bs : List UInt8}
    (h : ∀ b ∈ chunk, b ≠ 0x25 ∧ (plusAsSpace = true → b ≠ 0x2B)) :
    Denotes plusAsSpace (chunk ++ s) bs ↔ ∃ es, Denotes plusAsSpace s es ∧ bs = chunk ++ es := by
  induction chunk generalizing bs with
  | nil => simp
  | cons b chunk ih =>
    obtain ⟨⟨hpercent, hplus⟩, hchunk⟩ := List.forall_mem_cons.mp h
    rw [List.cons_append]
    constructor
    · intro hd
      generalize htail : chunk ++ s = tail at hd
      cases hd with
      | escape _ _ _ => exact absurd rfl hpercent
      | plus hspace _ => exact absurd rfl (hplus hspace)
      | byte _ _ hrest =>
        subst htail
        obtain ⟨es, hes, rfl⟩ := (ih hchunk).mp hrest
        exact ⟨es, hes, rfl⟩
    · rintro ⟨es, hes, rfl⟩
      exact .byte hpercent hplus ((ih hchunk).mpr ⟨es, hes, rfl⟩)

/-- A percent sign denotes a byte together with the two digits behind it. -/
theorem denotes_bytesOf_percent_cons_iff {s : List Char} {bs : List UInt8} :
    Denotes plusAsSpace (bytesOf ('%' :: s)) bs ↔
      ∃ hi lo rest m n es, s = hi :: lo :: rest ∧ Hex.digit? hi = some m ∧
        Hex.digit? lo = some n ∧ Denotes plusAsSpace (bytesOf rest) es ∧
        bs = UInt8.ofNat (16 * m + n) :: es := by
  have hascii (b : UInt8) {n : Nat} (h : Hex.digit? (Char.ofNat b.toNat) = some n) :
      b.toNat < 128 := by
    have hlt := Hex.toNat_lt_of_digit? h
    rwa [toNat_ofNat_toNat] at hlt
  have hpercent : bytesOf ('%' :: s) = 0x25 :: bytesOf s := rfl
  rw [hpercent]
  constructor
  · intro h
    generalize hbytes : bytesOf s = x at h
    cases h with
    | escape hm hn hrest =>
      obtain ⟨s, rfl, hs⟩ := eq_cons_of_bytesOf_eq_cons hbytes (hascii _ hm)
      obtain ⟨rest, rfl, rfl⟩ := eq_cons_of_bytesOf_eq_cons hs (hascii _ hn)
      exact ⟨_, _, rest, _, _, _, rfl, hm, hn, hrest, rfl⟩
    | byte hne _ _ => exact absurd rfl hne
  · rintro ⟨hi, lo, rest, m, n, es, rfl, hm, hn, hrest, rfl⟩
    obtain ⟨h, hh, rfl⟩ := exists_byte_of_lt (Hex.toNat_lt_of_digit? hm)
    obtain ⟨l, hl, rfl⟩ := exists_byte_of_lt (Hex.toNat_lt_of_digit? hn)
    simp only [bytesOf_cons, utf8EncodeChar_ofNat_toNat hh, utf8EncodeChar_ofNat_toNat hl]
    exact .escape hm hn hrest

/-- Any other character denotes its bytes, or a space. -/
theorem denotes_bytesOf_cons_iff {c : Char} (hc : c ≠ '%') {s : List Char} {bs : List UInt8} :
    Denotes plusAsSpace (bytesOf (c :: s)) bs ↔
      ∃ es, Denotes plusAsSpace (bytesOf s) es ∧
        bs = (if plusAsSpace && c == '+' then [0x20] else String.utf8EncodeChar c) ++ es := by
  by_cases hplus : (plusAsSpace && c == '+') = true
  · obtain ⟨hspace, hc⟩ := Bool.and_eq_true_iff.mp hplus
    rw [beq_iff_eq] at hc
    subst hc
    have hbytes : bytesOf ('+' :: s) = 0x2B :: bytesOf s := rfl
    rw [if_pos hplus, hbytes]
    constructor
    · intro h
      cases h with
      | plus _ hrest => exact ⟨_, hrest, rfl⟩
      | byte _ hne _ => exact absurd rfl (hne hspace)
    · rintro ⟨es, hes, rfl⟩
      exact .plus hspace hes
  · rw [if_neg hplus, bytesOf_cons]
    apply denotes_append_iff
    intro b hb
    refine ⟨?_, fun hspace => ?_⟩
    · rintro rfl
      exact hc (eq_of_mem_utf8EncodeChar hb (by decide))
    · rintro rfl
      obtain rfl := eq_of_mem_utf8EncodeChar hb (by decide)
      exact hplus (by rw [hspace]; rfl)

end Denotes

theorem decodeBytes?_percent_cons_eq_some_iff {plusAsSpace : Bool} {s : List Char}
    {bs : List UInt8} :
    decodeBytes? plusAsSpace ('%' :: s) = some bs ↔
      ∃ hi lo rest m n es, s = hi :: lo :: rest ∧ Hex.digit? hi = some m ∧
        Hex.digit? lo = some n ∧ decodeBytes? plusAsSpace rest = some es ∧
        bs = UInt8.ofNat (16 * m + n) :: es := by
  constructor
  · intro h
    rcases decodeBytes?_cons_eq_some h with ⟨hi, lo, rest, m, n, es, -, hread⟩ | ⟨_, hne, -⟩
    · exact ⟨hi, lo, rest, m, n, es, hread⟩
    · exact absurd rfl hne
  · rintro ⟨hi, lo, rest, m, n, es, rfl, hm, hn, hrest, rfl⟩
    rw [decodeBytes?_percent_cons plusAsSpace hm hn, hrest]
    rfl

/-- Reading character by character gives the bytes that the bytes of a text denote. -/
theorem decodeBytes?_eq_some_iff {plusAsSpace : Bool} {s : List Char} {bs : List UInt8} :
    decodeBytes? plusAsSpace s = some bs ↔ Denotes plusAsSpace (bytesOf s) bs := by
  induction s using decodeBytes?.induct generalizing bs with
  | case1 =>
    rw [decodeBytes?, Option.some.injEq, eq_comm]
    exact denotes_nil_iff.symm
  | case2 hi lo rest ih =>
    rw [decodeBytes?_percent_cons_eq_some_iff, denotes_bytesOf_percent_cons_iff]
    constructor
    · rintro ⟨_, _, _, m, n, es, hs, hm, hn, hrest, rfl⟩
      cases hs
      exact ⟨hi, lo, rest, m, n, es, rfl, hm, hn, ih.mp hrest, rfl⟩
    · rintro ⟨_, _, _, m, n, es, hs, hm, hn, hrest, rfl⟩
      cases hs
      exact ⟨hi, lo, rest, m, n, es, rfl, hm, hn, ih.mpr hrest, rfl⟩
  | case3 s hshort =>
    rw [decodeBytes?_percent_cons_eq_some_iff, denotes_bytesOf_percent_cons_iff]
    constructor
    · rintro ⟨hi, lo, rest, _, _, _, hs, -⟩
      exact absurd hs (hshort hi lo rest)
    · rintro ⟨hi, lo, rest, _, _, _, hs, -⟩
      exact absurd hs (hshort hi lo rest)
  | case4 c s hc ih =>
    rw [decodeBytes?_cons_of_ne plusAsSpace hc, Option.map_eq_some_iff,
      denotes_bytesOf_cons_iff hc]
    simp only [ih, eq_comm (a := bs)]

theorem hasBrokenEscape_cons_iff {c : Char} {s : List Char} :
    HasBrokenEscape (c :: s) ↔ (c = '%' ∧ ¬ StartsWithDigits s) ∨ HasBrokenEscape s := by
  constructor
  · rintro ⟨before, after, hsplit, hafter⟩
    cases before with
    | nil =>
      obtain ⟨rfl, rfl⟩ := List.cons.inj hsplit
      exact .inl ⟨rfl, hafter⟩
    | cons _ before =>
      obtain ⟨rfl, rfl⟩ := List.cons.inj hsplit
      exact .inr ⟨before, after, rfl, hafter⟩
  · rintro (⟨rfl, hs⟩ | ⟨before, after, rfl, hafter⟩)
    · exact ⟨[], s, rfl, hs⟩
    · exact ⟨c :: before, after, rfl, hafter⟩

theorem hasBrokenEscape_cons_iff_of_digit {c : Char} {n : Nat} (hc : Hex.digit? c = some n)
    {s : List Char} : HasBrokenEscape (c :: s) ↔ HasBrokenEscape s := by
  have hne : c ≠ '%' := by
    rintro rfl
    contradiction
  rw [hasBrokenEscape_cons_iff]
  simp only [hne, false_and, false_or]

theorem decodeBytes?_eq_none_of_not_startsWithDigits (plusAsSpace : Bool) {s : List Char}
    (h : ¬ StartsWithDigits s) : decodeBytes? plusAsSpace ('%' :: s) = none := by
  rw [Option.eq_none_iff_forall_ne_some]
  intro bs hbs
  obtain ⟨hi, lo, rest, m, n, _, hs, hm, hn, -⟩ := decodeBytes?_percent_cons_eq_some_iff.mp hbs
  exact h ⟨hi, lo, rest, m, n, hs, hm, hn⟩

/-- Reading fails exactly if some percent sign begins no escape. The digits of an escape are skipped
with it, but none of them is a percent sign. -/
@[simp] theorem decodeBytes?_eq_none_iff {plusAsSpace : Bool} {s : List Char} :
    decodeBytes? plusAsSpace s = none ↔ HasBrokenEscape s := by
  have hbroken {s : List Char} (h : ¬ StartsWithDigits s) :
      decodeBytes? plusAsSpace ('%' :: s) = none ↔ HasBrokenEscape ('%' :: s) :=
    iff_of_true (decodeBytes?_eq_none_of_not_startsWithDigits plusAsSpace h)
      (hasBrokenEscape_cons_iff.mpr (.inl ⟨rfl, h⟩))
  induction s using decodeBytes?.induct with
  | case1 => simp [decodeBytes?, HasBrokenEscape]
  | case2 hi lo rest ih =>
    by_cases h : StartsWithDigits (hi :: lo :: rest)
    · obtain ⟨_, _, _, m, n, hs, hm, hn⟩ := id h
      cases hs
      simp only [decodeBytes?_percent_cons plusAsSpace hm hn, Option.map_eq_none_iff,
        hasBrokenEscape_cons_iff, hasBrokenEscape_cons_iff_of_digit hm,
        hasBrokenEscape_cons_iff_of_digit hn]
      simp only [h, not_true_eq_false, and_false, false_or]
      exact ih
    · exact hbroken h
  | case3 s hshort =>
    apply hbroken
    rintro ⟨hi, lo, rest, _, _, hs, -⟩
    exact hshort hi lo rest hs
  | case4 c s hc ih =>
    rw [decodeBytes?_cons_of_ne plusAsSpace hc, Option.map_eq_none_iff, hasBrokenEscape_cons_iff]
    simp only [hc, false_and, false_or]
    exact ih

theorem exists_fromUTF8?_iff {bs : List UInt8} :
    (∃ t, String.fromUTF8? ⟨bs.toArray⟩ = some t) ↔ ByteArray.IsValidUTF8 ⟨bs.toArray⟩ := by
  unfold String.fromUTF8?
  split
  · rename_i h
    exact iff_of_true ⟨_, rfl⟩ h
  · rename_i h
    refine iff_of_false ?_ h
    rintro ⟨t, ht⟩
    contradiction

theorem decode_eq_malformed_iff {plusAsSpace : Bool} {s : String} :
    decode plusAsSpace s = .error (.malformed s) ↔ HasBrokenEscape s.toList := by
  rw [← decodeBytes?_eq_none_iff, decode_eq_decodeAll, decodeAll]
  cases decodeBytes? plusAsSpace s.toList with
  | none => simp
  | some bs => cases h : String.fromUTF8? ⟨bs.toArray⟩ <;> simp [h]

theorem decode_eq_notUtf8_iff {plusAsSpace : Bool} {s : String} {bs : List UInt8}
    (h : Denotes plusAsSpace (bytesOf s.toList) bs) :
    decode plusAsSpace s = .error (.notUtf8 s) ↔ ¬ ByteArray.IsValidUTF8 ⟨bs.toArray⟩ := by
  rw [decode_eq_decodeAll, decodeAll, decodeBytes?_eq_some_iff.mpr h, ← exists_fromUTF8?_iff]
  cases htext : String.fromUTF8? ⟨bs.toArray⟩ <;> simp [htext]

theorem decode_eq_ok_iff_of_denotes {plusAsSpace : Bool} {s t : String} {bs : List UInt8}
    (h : Denotes plusAsSpace (bytesOf s.toList) bs) :
    decode plusAsSpace s = .ok t ↔ bytesOf t.toList = bs := by
  rw [decode_eq_ok_iff, decodeBytes?_eq_some_iff.mpr h, Option.some.injEq, eq_comm]

/-- What becomes of any text. It is refused as malformed exactly if some percent sign in it is not
directly followed by two digits; otherwise it denotes one row of bytes. If these are not UTF-8 it is
refused for that, and if they are it is decoded to the text that has these bytes, which is empty
only if there was nothing to decode. Texts that stand for themselves are no exception. -/
theorem decode_exact (plusAsSpace : Bool) (s : String) :
    (decode plusAsSpace s = .error (.malformed s) ↔ HasBrokenEscape s.toList) ∧
    (¬ HasBrokenEscape s.toList ↔ ∃ bs, Denotes plusAsSpace (bytesOf s.toList) bs) ∧
    (∀ bs, Denotes plusAsSpace (bytesOf s.toList) bs →
      (∀ other, Denotes plusAsSpace (bytesOf s.toList) other → other = bs) ∧
      (decode plusAsSpace s = .error (.notUtf8 s) ↔ ¬ ByteArray.IsValidUTF8 ⟨bs.toArray⟩) ∧
      (ByteArray.IsValidUTF8 ⟨bs.toArray⟩ →
        ∃ t, decode plusAsSpace s = .ok t ∧ bytesOf t.toList = bs ∧ (t = "" → s = ""))) ∧
    decode plusAsSpace s = decodeAll plusAsSpace s := by
  refine ⟨decode_eq_malformed_iff, ?_, fun bs hbs => ⟨fun other hother => ?_,
    decode_eq_notUtf8_iff hbs, fun hvalid => ?_⟩, decode_eq_decodeAll plusAsSpace s⟩
  · rw [← @decodeBytes?_eq_none_iff plusAsSpace, ← ne_eq, Option.ne_none_iff_exists']
    simp only [decodeBytes?_eq_some_iff]
  · rw [← decodeBytes?_eq_some_iff] at hbs hother
    exact Option.some.inj (hother.symm.trans hbs)
  · obtain ⟨t, ht⟩ := exists_fromUTF8?_iff.mpr hvalid
    have hbytes : bytesOf t.toList = bs := (fromUTF8?_eq_some_iff.mp ht).symm
    have hdecode := (decode_eq_ok_iff_of_denotes hbs).mpr hbytes
    exact ⟨t, hdecode, hbytes,
      fun hempty => Decidable.not_not.mp fun hs => ne_empty_of_decode hdecode hs hempty⟩

end Percent

end DeepLinks
