import DeepLinks.Proofs.EscapedText
import DeepLinks.Proofs.StrictDecoding
import Mathlib

/-!
# The size of encoded texts

The size of a text is the number of bytes that it is decoded to: an escape counts as one byte, and
any other character with its own bytes. Encoding a text keeps its size. Taking characters away that
no escape is written with makes a text smaller, and reading takes away no others.
-/

namespace DeepLinks.Percent

theorem isEncoded_of_digit? {c : Char} {n : Nat} (h : Hex.digit? c = some n) :
    isEncoded c = true := by
  have all : ∀ m ∈ List.range 16,
      isEncoded (Hex.upper m) = true ∧ isEncoded (Hex.lower m) = true := by decide
  obtain ⟨hn, hc⟩ := Hex.digit?_eq_some h
  have hm := all n (List.mem_range.mpr hn)
  rcases hc with rfl | rfl
  · exact hm.1
  · exact hm.2

theorem ne_percent_of_digit? {c : Char} {n : Nat} (h : Hex.digit? c = some n) : c ≠ '%' := by
  rintro rfl
  contradiction

theorem utf8Size_of_digit? {c : Char} {n : Nat} (h : Hex.digit? c = some n) : c.utf8Size = 1 := by
  rw [Char.utf8Size_eq_one_iff, UInt32.le_iff_toNat_le]
  exact Nat.le_of_lt_succ (Hex.toNat_lt_of_digit? h)

/-- How many bytes a text is decoded to. The percent sign of an escape does not count, and neither
does one of its digits. -/
def size : List Char → Nat
  | [] => 0
  | c :: s => if c = '%' ∧ StartsWithDigits s then size s - 1 else c.utf8Size + size s

@[simp] theorem size_nil : size [] = 0 := rfl

theorem size_cons_of_startsWithDigits {s : List Char} (h : StartsWithDigits s) :
    size ('%' :: s) = size s - 1 :=
  if_pos ⟨rfl, h⟩

theorem size_cons_of_not {c : Char} {s : List Char} (h : ¬ (c = '%' ∧ StartsWithDigits s)) :
    size (c :: s) = c.utf8Size + size s :=
  if_neg h

@[simp] theorem size_cons_of_ne {c : Char} (h : c ≠ '%') (s : List Char) :
    size (c :: s) = c.utf8Size + size s :=
  size_cons_of_not fun hescape => h hescape.1

/-- A character counts with its bytes at most. -/
theorem size_cons_le (c : Char) (s : List Char) : size (c :: s) ≤ c.utf8Size + size s := by
  rw [size]
  split <;> omega

theorem StartsWithDigits.two_le_size {s : List Char} (h : StartsWithDigits s) : 2 ≤ size s := by
  obtain ⟨hi, lo, rest, m, n, rfl, hm, hn⟩ := h
  simp only [size_cons_of_ne (ne_percent_of_digit? hm), size_cons_of_ne (ne_percent_of_digit? hn),
    utf8Size_of_digit? hm, utf8Size_of_digit? hn]
  omega

@[simp] theorem size_percent_cons {hi lo : Char} {m n : Nat} (hhi : Hex.digit? hi = some m)
    (hlo : Hex.digit? lo = some n) (s : List Char) : size ('%' :: hi :: lo :: s) = 1 + size s := by
  have hsize : size (hi :: lo :: s) = 2 + size s := by
    rw [size_cons_of_ne (ne_percent_of_digit? hhi), size_cons_of_ne (ne_percent_of_digit? hlo),
      utf8Size_of_digit? hhi, utf8Size_of_digit? hlo]
    omega
  rw [size_cons_of_startsWithDigits ⟨hi, lo, s, m, n, rfl, hhi, hlo⟩, hsize]
  omega

theorem length_bytesOf_cons (c : Char) (s : List Char) :
    (bytesOf (c :: s)).length = c.utf8Size + (bytesOf s).length := by
  simp [bytesOf_cons]

theorem size_le_length_bytesOf (s : List Char) : size s ≤ (bytesOf s).length := by
  induction s with
  | nil => simp
  | cons c s ih =>
    have hcons := size_cons_le c s
    rw [length_bytesOf_cons]
    omega

/-- An escape makes a text larger than its size. -/
theorem size_append_percent_lt (before : List Char) {after : List Char}
    (h : StartsWithDigits after) :
    size (before ++ '%' :: after) < (bytesOf (before ++ '%' :: after)).length := by
  induction before with
  | nil =>
    have hsize := size_le_length_bytesOf after
    have htwo := h.two_le_size
    rw [List.nil_append, size_cons_of_startsWithDigits h, length_bytesOf_cons]
    omega
  | cons c before ih =>
    have hcons := size_cons_le c (before ++ '%' :: after)
    rw [List.cons_append, length_bytesOf_cons]
    omega

/-- What is decoded has the size of its text. -/
theorem length_of_decodeBytes? {plusAsSpace : Bool} {s : List Char} {bs : List UInt8}
    (h : decodeBytes? plusAsSpace s = some bs) : bs.length = size s := by
  induction s using decodeBytes?.induct generalizing bs with
  | case1 =>
    obtain rfl := Option.some.inj h
    rfl
  | case2 hi lo rest ih =>
    obtain ⟨_, _, _, m, n, es, hs, hm, hn, hes, rfl⟩ := decodeBytes?_percent_cons_eq_some_iff.mp h
    cases hs
    rw [size_percent_cons hm hn, List.length_cons, ih hes, Nat.add_comm]
  | case3 s hshort =>
    obtain ⟨hi, lo, rest, _, _, _, hs, -⟩ := decodeBytes?_percent_cons_eq_some_iff.mp h
    exact absurd hs (hshort hi lo rest)
  | case4 c s hc ih =>
    rw [decodeBytes?_cons_of_ne plusAsSpace hc, Option.map_eq_some_iff] at h
    obtain ⟨es, hes, rfl⟩ := h
    have hchunk : (if plusAsSpace && c == '+' then [0x20] else String.utf8EncodeChar c).length =
        c.utf8Size := by
      split
      · rename_i hplus
        obtain ⟨-, hplus⟩ := Bool.and_eq_true_iff.mp hplus
        rw [beq_iff_eq.mp hplus]
        rfl
      · simp
    rw [size_cons_of_ne hc, List.length_append, hchunk, ih hes]

theorem length_of_decode {plusAsSpace : Bool} {s : List Char} {t : String}
    (h : decode plusAsSpace (String.ofList s) = .ok t) : (bytesOf t.toList).length = size s := by
  rw [decode_eq_ok_iff, String.toList_ofList] at h
  exact length_of_decodeBytes? h

@[simp] theorem size_encode (s : String) : size (encode s).toList = (bytesOf s.toList).length :=
  have hdecode : decode true (String.ofList (encode s).toList) = .ok s := by simp
  (length_of_decode hdecode).symm

@[simp] theorem size_escape_append (b : UInt8) (s : List Char) :
    size (escape b ++ s) = 1 + size s := by
  have hlt := b.toNat_lt
  exact size_percent_cons (Hex.digit?_upper (by omega)) (Hex.digit?_upper (by omega)) s

@[simp] theorem size_flatMap_escape_append (bs : List UInt8) (s : List Char) :
    size (bs.flatMap escape ++ s) = bs.length + size s := by
  induction bs with
  | nil => simp
  | cons b bs ih => simp [ih]; omega

/-- Digits do not reach over a character that no escape is written with. -/
@[simp] theorem startsWithDigits_append_cons_iff {c : Char} (hc : isEncoded c = false)
    {s t : List Char} :
    StartsWithDigits (s ++ c :: t) ↔ StartsWithDigits s := by
  constructor
  · rintro ⟨hi, lo, rest, m, n, hs, hm, hn⟩
    have hne {d : Char} {k : Nat} (hd : Hex.digit? d = some k) : c ≠ d :=
      (ne_of_holds (isEncoded_of_digit? hd) hc).symm
    match s with
    | [] => exact absurd (List.cons.inj hs).1 (hne hm)
    | [_] => exact absurd (List.cons.inj (List.cons.inj hs).2).1 (hne hn)
    | d :: e :: s =>
      obtain ⟨hd, hs⟩ := List.cons.inj hs
      obtain ⟨he, -⟩ := List.cons.inj hs
      exact ⟨d, e, s, m, n, rfl, hd ▸ hm, he ▸ hn⟩
  · rintro ⟨hi, lo, rest, m, n, rfl, hm, hn⟩
    exact ⟨hi, lo, rest ++ c :: t, m, n, rfl, hm, hn⟩

/-- A character that no escape is written with parts a text in two. -/
theorem size_append_cons {c : Char} (hc : isEncoded c = false) (s t : List Char) :
    size (s ++ c :: t) = size s + (c.utf8Size + size t) := by
  have hne : c ≠ '%' := by
    rintro rfl
    contradiction
  induction s with
  | nil => simp [size_cons_of_ne hne]
  | cons d s ih =>
    rw [List.cons_append]
    by_cases h : d = '%' ∧ StartsWithDigits s
    · obtain ⟨rfl, hs⟩ := h
      have hsize := hs.two_le_size
      rw [size_cons_of_startsWithDigits hs,
        size_cons_of_startsWithDigits ((startsWithDigits_append_cons_iff hc).mpr hs), ih]
      omega
    · rw [size_cons_of_not h, size_cons_of_not (by rwa [startsWithDigits_append_cons_iff hc]), ih]
      omega

section EscapeWhere

variable {p : Char → Bool} (hp : ∀ c, isEncoded c = true → p c = false)
include hp

theorem escapeWhere_cons_of_isEncoded {c : Char} (hc : isEncoded c = true) (s : List Char) :
    Url.escapeWhere p (c :: s) = c :: Url.escapeWhere p s := by
  have hascii := toNat_of_isEncoded hc
  have hrange : ¬ (c.toNat < 0x20 ∨ 0x7E < c.toNat) := by omega
  simp only [not_or] at hrange
  simp [Url.escapeWhere, hp c hc, hrange.1, hrange.2]

@[simp] theorem startsWithDigits_escapeWhere_iff {s : List Char} :
    StartsWithDigits (Url.escapeWhere p s) ↔ StartsWithDigits s := by
  constructor
  · rintro ⟨hi, lo, rest, m, n, hs, hm, hn⟩
    obtain ⟨t, rfl, ht⟩ := Url.exists_of_escapeWhere_eq_cons (ne_percent_of_digit? hm) hs
    obtain ⟨s, rfl, -⟩ := Url.exists_of_escapeWhere_eq_cons (ne_percent_of_digit? hn) ht
    exact ⟨hi, lo, s, m, n, rfl, hm, hn⟩
  · rintro ⟨hi, lo, rest, m, n, rfl, hm, hn⟩
    rw [escapeWhere_cons_of_isEncoded hp (isEncoded_of_digit? hm),
      escapeWhere_cons_of_isEncoded hp (isEncoded_of_digit? hn)]
    exact ⟨hi, lo, _, m, n, rfl, hm, hn⟩

/-- Escaping characters that no escape is written with leaves the size as it is, or completes an
escape. -/
theorem size_escapeWhere_le (s : List Char) : size (Url.escapeWhere p s) ≤ size s := by
  induction s with
  | nil => exact le_rfl
  | cons c s ih =>
    by_cases hescape : c = '%' ∧ StartsWithDigits s
    · obtain ⟨rfl, hs⟩ := hescape
      rw [escapeWhere_cons_of_isEncoded hp (by decide), size_cons_of_startsWithDigits hs,
        size_cons_of_startsWithDigits ((startsWithDigits_escapeWhere_iff hp).mpr hs)]
      omega
    · rw [size_cons_of_not hescape]
      rcases Url.escapeWhere_cons p c s with hc | hc
      · have hcons := size_cons_le c (Url.escapeWhere p s)
        rw [hc]
        omega
      · rw [hc, size_flatMap_escape_append, String.length_utf8EncodeChar]
        omega

/-- No escape of a text is read as it is written. -/
theorem percent_not_mem_of_decode_escapeWhere {text : String}
    (h : decode true (String.ofList (Url.escapeWhere p text.toList)) = .ok text) :
    '%' ∉ text.toList := by
  intro hmem
  obtain ⟨before, after, hsplit⟩ := List.append_of_mem hmem
  have hlength := length_of_decode h
  have hsize := size_escapeWhere_le hp text.toList
  have hdigits : StartsWithDigits after := by
    by_contra hnot
    have hbroken : HasBrokenEscape (Url.escapeWhere p text.toList) := by
      refine ⟨Url.escapeWhere p before, Url.escapeWhere p after, ?_, ?_⟩
      · rw [hsplit, Url.escapeWhere, List.flatMap_append]
        exact congrArg _ (escapeWhere_cons_of_isEncoded hp (by decide) after)
      · rwa [startsWithDigits_escapeWhere_iff hp]
    rw [decode_eq_ok_iff, String.toList_ofList, decodeBytes?_eq_none_iff.mpr hbroken] at h
    contradiction
  have hlt := size_append_percent_lt before hdigits
  rw [← hsplit] at hlt
  omega

/-- What is read as it is written, escaped or not, has nothing to decode. -/
theorem decode_escapeWhere_iff (hplus : p '+' = false) {text : String} :
    decode true (String.ofList (Url.escapeWhere p text.toList)) = .ok text ↔
      '%' ∉ text.toList ∧ '+' ∉ text.toList := by
  constructor
  · intro h
    have hpercent := percent_not_mem_of_decode_escapeWhere hp h
    refine ⟨hpercent, fun hmem => ?_⟩
    rw [Url.decode_escapeWhere hplus hpercent, Except.ok.injEq] at h
    rw [← h, String.toList_ofList, List.mem_map] at hmem
    obtain ⟨c, -, hc⟩ := hmem
    split at hc <;> contradiction
  · rintro ⟨hpercent, hnot⟩
    have hkeep : text.toList.map (fun c => if c = '+' then ' ' else c) = text.toList :=
      (List.map_congr_left fun c hc => if_neg (ne_of_mem_of_not_mem hc hnot)).trans
        (List.map_id _)
    rw [Url.decode_escapeWhere hplus hpercent, hkeep, String.ofList_toList]

end EscapeWhere

theorem StartsWithDigits.map {f : Char → Char} (hf : ∀ c, isEncoded c = true → f c = c)
    {s : List Char} (h : StartsWithDigits s) : StartsWithDigits (s.map f) := by
  obtain ⟨hi, lo, rest, m, n, rfl, hm, hn⟩ := h
  refine ⟨hi, lo, rest.map f, m, n, ?_, hm, hn⟩
  simp [hf _ (isEncoded_of_digit? hm), hf _ (isEncoded_of_digit? hn)]

theorem StartsWithDigits.filter {p : Char → Bool} (hp : ∀ c, isEncoded c = true → p c = true)
    {s : List Char} (h : StartsWithDigits s) : StartsWithDigits (s.filter p) := by
  obtain ⟨hi, lo, rest, m, n, rfl, hm, hn⟩ := h
  refine ⟨hi, lo, rest.filter p, m, n, ?_, hm, hn⟩
  simp [hp _ (isEncoded_of_digit? hm), hp _ (isEncoded_of_digit? hn)]

/-- A change of single characters that no escape is written with, none of which grows. -/
theorem size_map_le {f : Char → Char} (hf : ∀ c, isEncoded c = true → f c = c)
    (hsize : ∀ c, (f c).utf8Size ≤ c.utf8Size) (s : List Char) : size (s.map f) ≤ size s := by
  induction s with
  | nil => exact le_rfl
  | cons c s ih =>
    rw [List.map_cons]
    by_cases hescape : c = '%' ∧ StartsWithDigits s
    · obtain ⟨rfl, hs⟩ := hescape
      rw [hf _ (by decide), size_cons_of_startsWithDigits hs,
        size_cons_of_startsWithDigits (hs.map hf)]
      omega
    · have hcons := size_cons_le (f c) (s.map f)
      have hc := hsize c
      rw [size_cons_of_not hescape]
      omega

/-- The text stays as it is, or gets smaller. -/
def Shrinks (s t : List Char) : Prop :=
  t = s ∨ size t < size s

theorem Shrinks.refl (s : List Char) : Shrinks s s :=
  .inl rfl

theorem Shrinks.size_le {s t : List Char} (h : Shrinks s t) : size t ≤ size s := by
  rcases h with rfl | h <;> omega

theorem Shrinks.trans {s t u : List Char} (h : Shrinks s t) (h' : Shrinks t u) : Shrinks s u := by
  rcases h with rfl | h
  · exact h'
  · have hsize := h'.size_le
    exact .inr (by omega)

/-- Cutting a text before a character that no escape is written with makes it smaller. -/
theorem shrinks_append {s t : List Char} (ht : ∀ c ∈ t.head?, isEncoded c = false) :
    Shrinks (s ++ t) s := by
  cases t with
  | nil => exact .inl (List.append_nil s).symm
  | cons c t =>
    have hpos := c.utf8Size_pos
    right
    rw [size_append_cons (ht c rfl)]
    omega

theorem shrinks_takeWhile {p : Char → Bool} (hp : ∀ c, isEncoded c = true → p c = true)
    (s : List Char) : Shrinks s (s.takeWhile p) := by
  have hrest : ∀ c ∈ (s.dropWhile p).head?, isEncoded c = false := by
    intro c hc
    have hnot := List.head?_dropWhile_not p s
    rw [Option.mem_def.mp hc] at hnot
    by_contra hencoded
    simp [hp c (by simpa using hencoded)] at hnot
  simpa using shrinks_append (s := s.takeWhile p) hrest

/-- Dropping characters that no escape is written with makes a text smaller. -/
theorem shrinks_filter {p : Char → Bool} (hp : ∀ c, isEncoded c = true → p c = true)
    (s : List Char) : Shrinks s (s.filter p) := by
  induction s with
  | nil => exact .refl _
  | cons c s ih =>
    by_cases hc : p c = true
    · rw [List.filter_cons_of_pos hc]
      rcases ih with heq | hlt
      · exact .inl (by rw [heq])
      · right
        by_cases hescape : c = '%' ∧ StartsWithDigits s
        · obtain ⟨rfl, hs⟩ := hescape
          have hdigits := hs.filter hp
          have hsize := hdigits.two_le_size
          rw [size_cons_of_startsWithDigits hs, size_cons_of_startsWithDigits hdigits]
          omega
        · have hcons := size_cons_le c (s.filter p)
          rw [size_cons_of_not hescape]
          omega
    · have hne : c ≠ '%' := by
        rintro rfl
        exact hc (hp _ (by decide))
      have hsize := ih.size_le
      have hpos := c.utf8Size_pos
      right
      rw [List.filter_cons_of_neg hc, size_cons_of_ne hne]
      omega

end DeepLinks.Percent
