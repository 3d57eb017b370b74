import DeepLinks.Proofs.Outcomes
import DeepLinks.Proofs.PercentCodec
import DeepLinks.Url.Host

/-!
# What the text of a host may hold

Reading a host writes it anew: as an address, as a domain name in ASCII form, or with escapes.
Whatever the way, no character of the result ends an authority or is dropped from a URL. Of the
characters that no host may hold, only the brackets and the colon of an address occur.
-/

namespace DeepLinks

open Percent (isUnreserved)

theorem Hex.isUnreserved_of_mem_ofNat (n : Nat) : ∀ c ∈ Hex.ofNat n, isUnreserved c = true := by
  have all : ∀ m ∈ List.range 16, isUnreserved (Hex.lower m) = true := by decide
  induction n using Hex.ofNat.induct with
  | case1 n hn =>
    rw [Hex.ofNat, if_pos hn, List.forall_mem_singleton]
    exact all n (List.mem_range.mpr hn)
  | case2 n hn ih =>
    rw [Hex.ofNat, if_neg hn, List.forall_mem_append, List.forall_mem_singleton]
    exact ⟨ih, all _ (List.mem_range.mpr (Nat.mod_lt _ (by decide)))⟩

namespace Url

theorem Ipv4.isUnreserved_of_mem_render (address : Nat) :
    ∀ c ∈ Ipv4.render address, isUnreserved c = true := by
  unfold render
  refine Text.forall_mem_intercalate (by decide) ?_
  rw [List.forall_mem_map]
  intro n _ c hc
  have hdigit := Nat.isDigit_of_mem_toDigits (by decide) (by decide) hc
  simp only [Char.isDigit, Bool.and_eq_true, decide_eq_true_eq] at hdigit
  exact Percent.isUnreserved_iff.mpr (.inr (.inr (.inl hdigit)))

theorem Ipv6.of_mem_render (groups : List Nat) :
    ∀ c ∈ Ipv6.render groups, isUnreserved c = true ∨ c = ':' := by
  have hjoin (gs : List Nat) :
      ∀ c ∈ [':'].intercalate (gs.map Hex.ofNat), isUnreserved c = true ∨ c = ':' := by
    refine Text.forall_mem_intercalate (.inr rfl) ?_
    rw [List.forall_mem_map]
    exact fun n _ c hc => .inl (Hex.isUnreserved_of_mem_ofNat n c hc)
  unfold render
  dsimp only
  split
  · rw [List.forall_mem_append, List.forall_mem_append]
    exact ⟨⟨hjoin _, by simp⟩, hjoin _⟩
  · exact hjoin _

end Url

namespace Idna

theorem Punycode.isUnreserved_digitChar {d : Nat} (h : d < 36) :
    isUnreserved (digitChar d) = true := by
  have all : ∀ e ∈ List.range 36, isUnreserved (digitChar e) = true := by decide
  exact all d (List.mem_range.mpr h)

theorem Punycode.isUnreserved_of_mem_digits (bias k n : Nat) :
    ∀ c ∈ digits bias k n, isUnreserved c = true := by
  have hle (k : Nat) := threshold_le bias k
  induction k, n using digits.induct bias with
  | case1 k n t hn =>
    have := hle k
    rw [digits, if_pos hn, List.forall_mem_singleton]
    exact isUnreserved_digitChar (by omega)
  | case2 k n t hn ih =>
    have ht : t ≤ 26 := hle k
    have hmod : (n - t) % (36 - t) < 36 - t := Nat.mod_lt _ (by omega)
    have hdigit : t + (n - t) % (36 - t) < 36 := by omega
    rw [digits, if_neg hn, List.forall_mem_cons]
    exact ⟨isUnreserved_digitChar hdigit, ih⟩

theorem Punycode.isUnreserved_of_mem_pass {basic code : Nat} {e : Encoder} {d : Char}
    (h : ∀ c ∈ e.output, isUnreserved c = true) :
    ∀ c ∈ (e.pass basic code d).output, isUnreserved c = true := by
  unfold Encoder.pass
  split
  · exact h
  · split
    · rw [List.forall_mem_append]
      exact ⟨h, isUnreserved_of_mem_digits _ _ _⟩
    · exact h

theorem Punycode.isUnreserved_of_mem_run {label : List Char} {basic : Nat} {codes : List Nat}
    {next : Nat} {e : Encoder} (h : ∀ c ∈ e.output, isUnreserved c = true) :
    ∀ c ∈ (Encoder.run label basic codes next e).output, isUnreserved c = true := by
  have hfold (code : Nat) (cs : List Char) (e : Encoder)
      (he : ∀ c ∈ e.output, isUnreserved c = true) :
      ∀ c ∈ (cs.foldl (Encoder.pass basic code) e).output, isUnreserved c = true := by
    induction cs generalizing e with
    | nil => exact he
    | cons d cs ih => exact ih _ (isUnreserved_of_mem_pass he)
  induction codes generalizing next e with
  | nil => exact h
  | cons code codes ih => exact ih (hfold code label _ h)

/-- Besides characters of the label only digits and the hyphen are written. -/
theorem Punycode.of_mem_encode {label : List Char} {c : Char} (h : c ∈ encode label) :
    c ∈ label ∨ isUnreserved c = true := by
  simp only [encode, List.mem_append] at h
  rcases h with (h | h) | h
  · exact .inl ((List.mem_filter.mp h).1)
  · split at h
    · contradiction
    · rw [List.mem_singleton.mp h]
      exact .inr (by decide)
  · exact .inr (isUnreserved_of_mem_run (by simp) c h)

theorem Label.of_mem_toAscii {l : Label} {c : Char} (h : c ∈ l.toAscii) :
    c ∈ l ∨ isUnreserved c = true := by
  have hmark : asciiMark.all isUnreserved = true := by decide
  unfold toAscii at h
  split at h
  · exact .inl h
  · rcases List.mem_append.mp h with h | h
    · exact .inr (List.all_eq_true.mp hmark c h)
    · exact Punycode.of_mem_encode h

theorem of_mem_toAscii? {isForbidden : Char → Bool} {domain ascii : List Char}
    (h : toAscii? isForbidden domain = some ascii) :
    ∀ c ∈ ascii, isForbidden c = false ∨ isUnreserved c = true := by
  unfold toAscii? at h
  split at h
  · dsimp only at h
    split at h
    · contradiction
    · rename_i hany
      rw [← Option.some.inj h]
      rw [Bool.not_eq_true, List.any_eq_false] at hany
      exact fun c hc => .inl (Bool.not_eq_true _ ▸ hany c hc)
  · simp only [Option.bind_eq_bind, Option.bind_eq_some_iff, Option.guard_eq_some', Option.pure_def,
      Option.some.injEq, Bool.not_eq_true', List.any_eq_false] at h
    obtain ⟨ls, -, _, -, _, -, _, hallowed, rfl⟩ := h
    refine Text.forall_mem_intercalate (.inr (by decide)) ?_
    rw [List.forall_mem_map]
    intro l hl c hc
    refine (Label.of_mem_toAscii hc).imp_left fun hc => ?_
    cases hforbidden : isForbidden c with
    | false => rfl
    | true => exact absurd (List.any_eq_true.mpr ⟨c, hc, hforbidden⟩) (hallowed l hl)

end Idna

namespace Url.Host

/-- What a host may hold after it has been read. -/
def mayHold (c : Char) : Bool :=
  (0x20 < c.toNat && !isForbidden c) || ['[', ':', ']'].contains c

/-- The text of a host. -/
structure IsText (host : List Char) : Prop where
  ne_nil : host ≠ []
  mayHold : ∀ c ∈ host, mayHold c = true

theorem mayHold_of_not_isForbidden {c : Char} (hle : 0x20 ≤ c.toNat) (h : isForbidden c = false) :
    mayHold c = true := by
  have hne : c.toNat ≠ 0x20 := by
    intro heq
    rw [← Char.ofNat_toNat c, heq] at h
    revert h
    decide
  have hlt : 0x20 < c.toNat := by omega
  simp [mayHold, h, hlt]

theorem mayHold_of_isEncoded {c : Char} (h : Percent.isEncoded c = true) : mayHold c = true := by
  have hlt := (Percent.toNat_of_isEncoded h).1
  have hforbidden : isForbidden c = false := Percent.contains_eq_false_of_holds h (by decide)
  exact mayHold_of_not_isForbidden (by omega) hforbidden

theorem mayHold_of_isUnreserved {c : Char} (h : isUnreserved c = true) : mayHold c = true :=
  mayHold_of_isEncoded (Percent.isEncoded_of_isUnreserved h)

theorem mayHold_of_mem_bracketed {s host : List Char} (h : bracketed s = .ok host) :
    ∀ c ∈ host, mayHold c = true := by
  unfold bracketed at h
  split at h
  · rename_i groups _ _
    rw [← Except.ok.inj h]
    simp only [List.forall_mem_append, List.forall_mem_cons]
    refine ⟨⟨by decide, fun c hc => ?_⟩, by decide, by simp⟩
    rcases Ipv6.of_mem_render groups c hc with hc | rfl
    · exact mayHold_of_isUnreserved hc
    · decide
  · contradiction

theorem mayHold_of_mem_domain {s host : List Char} (h : domain s = .ok host) :
    ∀ c ∈ host, mayHold c = true := by
  unfold domain at h
  split at h
  · contradiction
  · rename_i name _
    split at h
    · contradiction
    · contradiction
    · rename_i ascii _ hascii
      split at h
      · split at h
        · rename_i address _
          rw [← Except.ok.inj h]
          exact fun c hc => mayHold_of_isUnreserved (Ipv4.isUnreserved_of_mem_render address c hc)
        · contradiction
      · rw [← Except.ok.inj h]
        intro c hc
        rcases Idna.of_mem_toAscii? hascii c hc with hc | hc
        · simp only [isForbiddenInDomain, Bool.or_eq_false_iff, decide_eq_false_iff_not] at hc
          exact mayHold_of_not_isForbidden (Nat.not_lt.mp hc.1.1.2) hc.1.1.1
        · exact mayHold_of_isUnreserved hc

theorem mayHold_of_mem_parse {s host : List Char} (h : parse s = .ok host) :
    ∀ c ∈ host, mayHold c = true := by
  unfold parse at h
  split at h
  · exact mayHold_of_mem_bracketed h
  · exact mayHold_of_mem_domain h

theorem ne_nil_of_parse {s host : List Char} (h : parse s = .ok host) : host ≠ [] := by
  unfold parse at h
  split at h
  · unfold bracketed at h
    split at h
    · rw [← Except.ok.inj h]
      simp
    · contradiction
  · unfold domain at h
    split at h
    · contradiction
    · split at h
      · contradiction
      · contradiction
      · rename_i hne _
        split at h
        · split at h
          · rw [← Except.ok.inj h]
            simp [Ipv4.render]
          · contradiction
        · rw [← Except.ok.inj h]
          exact hne

theorem isText_of_parse {s host : List Char} (h : parse s = .ok host) : IsText host :=
  ⟨ne_nil_of_parse h, mayHold_of_mem_parse h⟩

theorem mayHold_of_mem_parseOpaque {s host : List Char} (h : parseOpaque s = .ok host) :
    ∀ c ∈ host, mayHold c = true := by
  unfold parseOpaque at h
  split at h
  · exact mayHold_of_mem_bracketed h
  · split at h
    · contradiction
    · rename_i hany
      rw [Bool.not_eq_true, List.any_eq_false] at hany
      rw [← Except.ok.inj h, escapeWhere]
      simp only [List.forall_mem_flatMap]
      intro d hd c hc
      split at hc
      · obtain ⟨b, -, hc⟩ := List.mem_flatMap.mp hc
        exact mayHold_of_isEncoded (Percent.isEncoded_of_mem_escape hc)
      · rename_i hescaped
        simp only [Bool.or_false, Bool.or_eq_true, decide_eq_true_eq, not_or] at hescaped
        rw [List.mem_singleton.mp hc]
        exact mayHold_of_not_isForbidden (Nat.not_lt.mp hescaped.1) (Bool.not_eq_true _ ▸ hany d hd)

end Url.Host

end DeepLinks
