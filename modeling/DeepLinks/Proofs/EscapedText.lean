import DeepLinks.Proofs.PercentCodec
import DeepLinks.Url.Escape

/-!
# Escaped texts

Reading a part of a URL writes each of its characters as itself or as the escapes of its bytes.
Nothing is lost: a text without percent signs is decoded as it would be if it had not been escaped,
and one that has been changed holds a percent sign.
-/

namespace DeepLinks.Url

theorem escapeWhere_eq_self {p : Char → Bool} {s : List Char}
    (h : ∀ c ∈ s, 0x20 ≤ c.toNat ∧ c.toNat ≤ 0x7E ∧ p c = false) : escapeWhere p s = s := by
  unfold escapeWhere
  induction s with
  | nil => rfl
  | cons c s ih =>
    obtain ⟨⟨hlow, hhigh, hp⟩, hs⟩ := List.forall_mem_cons.mp h
    have hkeep : ¬ (c.toNat < 0x20 || 0x7E < c.toNat || p c) = true := by
      simp only [hp, Bool.or_false, Bool.or_eq_true, decide_eq_true_eq]
      omega
    rw [List.flatMap_cons, if_neg hkeep, ih hs, List.singleton_append]

/-- A character is written as itself, or as the escapes of its bytes. -/
theorem escapeWhere_cons (p : Char → Bool) (c : Char) (s : List Char) :
    escapeWhere p (c :: s) = c :: escapeWhere p s ∨
      escapeWhere p (c :: s) =
        (String.utf8EncodeChar c).flatMap Percent.escape ++ escapeWhere p s := by
  unfold escapeWhere
  rw [List.flatMap_cons]
  split
  · exact .inr rfl
  · exact .inl rfl

/-- What has been escaped holds the characters that are left alone and those of escapes. -/
theorem of_mem_escapeWhere {p : Char → Bool} {s : List Char} {c : Char}
    (h : c ∈ escapeWhere p s) :
    (c ∈ s ∧ 0x20 ≤ c.toNat ∧ c.toNat ≤ 0x7E ∧ p c = false) ∨ Percent.isEncoded c = true := by
  obtain ⟨d, hd, hc⟩ := List.mem_flatMap.mp h
  split at hc
  · obtain ⟨b, -, hc⟩ := List.mem_flatMap.mp hc
    exact .inr (Percent.isEncoded_of_mem_escape hc)
  · rename_i hkeep
    obtain rfl := List.mem_singleton.mp hc
    simp only [Bool.or_eq_true, decide_eq_true_eq, not_or, Bool.not_eq_true] at hkeep
    exact .inl ⟨hd, by omega, by omega, hkeep.2⟩

theorem percent_mem_flatMap_escape (c : Char) :
    '%' ∈ (String.utf8EncodeChar c).flatMap Percent.escape := by
  obtain ⟨b, bs, hbs⟩ := List.exists_cons_of_ne_nil (String.utf8EncodeChar_ne_nil (c := c))
  rw [hbs, List.flatMap_cons]
  exact List.mem_append_left _ List.mem_cons_self

/-- A text that has not been left alone shows it. -/
theorem escapeWhere_eq_self_of_not_mem {p : Char → Bool} {s : List Char}
    (h : '%' ∉ escapeWhere p s) : escapeWhere p s = s := by
  induction s with
  | nil => rfl
  | cons c s ih =>
    rcases escapeWhere_cons p c s with hc | hc
    · rw [hc] at h ⊢
      rw [ih fun hs => h (List.mem_cons_of_mem _ hs)]
    · rw [hc] at h
      exact absurd (List.mem_append_left _ (percent_mem_flatMap_escape c)) h

@[simp] theorem escapeWhere_eq_nil_iff {p : Char → Bool} {s : List Char} :
    escapeWhere p s = [] ↔ s = [] := by
  constructor
  · intro h
    have hself := escapeWhere_eq_self_of_not_mem (p := p) (s := s) (by simp [h])
    exact hself.symm.trans h
  · rintro rfl
    rfl

@[simp] theorem decodeBytes?_flatMap_escape_append (plusAsSpace : Bool) (bs : List UInt8)
    (s : List Char) :
    Percent.decodeBytes? plusAsSpace (bs.flatMap Percent.escape ++ s) =
      (Percent.decodeBytes? plusAsSpace s).map (bs ++ ·) := by
  induction bs with
  | nil => simp
  | cons b bs ih =>
    simp [ih, Function.comp_def]

/-- A text without percent signs is decoded to itself with its plus signs as spaces, however it has
been escaped. -/
theorem decode_escapeWhere {p : Char → Bool} (hp : p '+' = false) {s : List Char} (h : '%' ∉ s) :
    Percent.decode true (String.ofList (escapeWhere p s)) =
      .ok (String.ofList (s.map fun c => if c = '+' then ' ' else c)) := by
  rw [Percent.decode_eq_ok_iff, String.toList_ofList, String.toList_ofList]
  induction s with
  | nil => rfl
  | cons c s ih =>
    obtain ⟨hpercent, hs⟩ := List.ne_and_not_mem_of_not_mem_cons h
    have hbytes := ih hs
    by_cases hplus : c = '+'
    · subst hplus
      have hkeep : escapeWhere p ('+' :: s) = '+' :: escapeWhere p s := by simp [escapeWhere, hp]
      have hspace : String.utf8EncodeChar ' ' = [0x20] := by decide
      simp [hkeep, hbytes, hspace]
    · rcases escapeWhere_cons p c s with hc | hc
      · simp [hc, hpercent.symm, hbytes, hplus]
      · simp [hc, hbytes, hplus]

/-- What begins with a character other than a percent sign has not been escaped there. -/
theorem exists_of_escapeWhere_eq_cons {p : Char → Bool} {s t : List Char} {c : Char}
    (hc : c ≠ '%') (h : escapeWhere p s = c :: t) :
    ∃ rest, s = c :: rest ∧ escapeWhere p rest = t := by
  cases s with
  | nil => contradiction
  | cons d s =>
    rcases escapeWhere_cons p d s with hd | hd
    · rw [hd] at h
      obtain ⟨rfl, rfl⟩ := List.cons.inj h
      exact ⟨s, rfl, rfl⟩
    · obtain ⟨b, bs, hbs⟩ := List.exists_cons_of_ne_nil (String.utf8EncodeChar_ne_nil (c := d))
      rw [hd, hbs] at h
      exact absurd (List.cons.inj h).1.symm hc

end DeepLinks.Url
