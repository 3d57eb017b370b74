import DeepLinks.Proofs.PercentCodec
import DeepLinks.Url.Path

/-!
# Dot segments

A piece of a path is a dot segment exactly if it is decoded to one or two dots, however the dots
are written. Resolving a path leaves none of them.
-/

namespace DeepLinks.Url.Path

theorem plainDots_cons_of_ne {c : Char} (h : c ≠ '%') (s : List Char) :
    plainDots (c :: s) = c :: plainDots s := by
  conv => lhs; unfold plainDots
  split
  · rename_i heq
    exact absurd (List.cons.inj heq).1 h
  · rename_i heq
    exact absurd (List.cons.inj heq).1 h
  · rename_i heq
    obtain ⟨rfl, rfl⟩ := List.cons.inj heq
    rfl
  · contradiction

@[simp] theorem bytes_of_dot : String.utf8EncodeChar '.' = [0x2E] := by decide

/-- A text that begins with the byte of a dot begins with a dot, written in one of three ways. -/
theorem plainDots_of_decodeBytes?_cons {plusAsSpace : Bool} {s : List Char} {bs : List UInt8}
    (h : Percent.decodeBytes? plusAsSpace s = some (0x2E :: bs)) :
    ∃ rest, Percent.decodeBytes? plusAsSpace rest = some bs ∧
      plainDots s = '.' :: plainDots rest := by
  cases s with
  | nil => simp [Percent.decodeBytes?] at h
  | cons c s =>
    rcases Percent.decodeBytes?_cons_eq_some h with
      ⟨hi, lo, rest, m, n, es, rfl, rfl, hhi, hlo, hrest, hbs⟩ | ⟨es, hc, hs, hbs⟩
    · obtain ⟨hbyte, rfl⟩ := List.cons.inj hbs
      obtain ⟨hm, hhi⟩ := Hex.digit?_eq_some hhi
      obtain ⟨hn, hlo⟩ := Hex.digit?_eq_some hlo
      have hvalue : 16 * m + n = 46 := by
        have hnat := congrArg UInt8.toNat hbyte
        rw [UInt8.toNat_ofNat', Nat.mod_eq_of_lt (by omega)] at hnat
        exact hnat.symm
      obtain rfl : m = 2 := by omega
      obtain rfl : n = 14 := by omega
      have htwo : hi = '2' := by rcases hhi with rfl | rfl <;> decide
      subst htwo
      refine ⟨rest, hrest, ?_⟩
      rcases hlo with rfl | rfl
      · rfl
      · rfl
    · have hplus : ¬ (plusAsSpace && c == '+') = true := by
        intro hplus
        rw [if_pos hplus] at hbs
        exact absurd (List.cons.inj hbs).1 (by decide)
      rw [if_neg hplus, ← List.singleton_append, ← bytes_of_dot] at hbs
      obtain ⟨rfl, rfl⟩ := Percent.utf8EncodeChar_append_inj hbs
      exact ⟨s, hs, plainDots_cons_of_ne hc s⟩

/-- However they are written, dots are decoded to dots, and nothing else is. -/
theorem plainDots_eq_replicate_iff (plusAsSpace : Bool) {s : List Char} {n : Nat} :
    plainDots s = List.replicate n '.' ↔
      Percent.decodeBytes? plusAsSpace s = some (List.replicate n 0x2E) := by
  constructor
  · intro h
    fun_induction plainDots s generalizing n with
    | case1 s ih =>
      cases n with
      | zero => contradiction
      | succ n =>
        rw [Percent.decodeBytes?_percent_cons plusAsSpace rfl rfl, ih (List.cons.inj h).2]
        rfl
    | case2 s ih =>
      cases n with
      | zero => contradiction
      | succ n =>
        rw [Percent.decodeBytes?_percent_cons plusAsSpace rfl rfl, ih (List.cons.inj h).2]
        rfl
    | case3 c s _ _ ih =>
      cases n with
      | zero => contradiction
      | succ n =>
        obtain ⟨rfl, hs⟩ := List.cons.inj h
        rw [Percent.decodeBytes?_cons_of_ne plusAsSpace (by decide), ih hs, bytes_of_dot]
        simp [List.replicate_succ]
    | case4 =>
      cases n with
      | zero => rfl
      | succ n => contradiction
  · intro h
    induction n generalizing s with
    | zero =>
      rw [Percent.eq_nil_of_decodeBytes?_eq_nil h]
      rfl
    | succ n ih =>
      obtain ⟨rest, hrest, hs⟩ := plainDots_of_decodeBytes?_cons h
      rw [hs, ih hrest]
      rfl

theorem isSelf_iff {s : Segment} :
    isSelf s = true ↔ Percent.decode true (String.ofList s) = .ok "." := by
  simpa [isSelf, Percent.decode_eq_ok_iff] using plainDots_eq_replicate_iff true (s := s) (n := 1)

theorem isParent_iff {s : Segment} :
    isParent s = true ↔ Percent.decode true (String.ofList s) = .ok ".." := by
  simpa [isParent, Percent.decode_eq_ok_iff] using
    plainDots_eq_replicate_iff true (s := s) (n := 2)

/-- A piece that is decoded to something else than dots is no dot segment. -/
theorem not_dots_of_decode {s : Segment} {value : String}
    (h : Percent.decode true (String.ofList s) = .ok value) (hself : value ≠ ".")
    (hparent : value ≠ "..") : isSelf s = false ∧ isParent s = false := by
  simp [← Bool.not_eq_true, isSelf_iff, isParent_iff, h, hself, hparent]

theorem resolve_eq_self {segments : List Segment}
    (h : ∀ s ∈ segments, isSelf s = false ∧ isParent s = false) : resolve segments = segments := by
  have happend (before : List Segment) :
      resolveAfter before segments = before.reverse ++ segments := by
    induction segments generalizing before with
    | nil => simp [resolveAfter]
    | cons s segments ih =>
      obtain ⟨⟨hself, hparent⟩, hsegments⟩ := List.forall_mem_cons.mp h
      simp [resolveAfter, hself, hparent, ih hsegments]
  exact happend []

/-- Resolving a path keeps some of its segments, none of them a dot segment, and adds empty
ones. -/
theorem forall_mem_resolveAfter {P : Segment → Prop} (hempty : P [])
    {before segments : List Segment}
    (hbefore : ∀ s ∈ before, P s)
    (hsegments : ∀ s ∈ segments, isSelf s = false → isParent s = false → P s) :
    ∀ s ∈ resolveAfter before segments, P s := by
  induction segments generalizing before with
  | nil => simpa [resolveAfter] using hbefore
  | cons s segments ih =>
    obtain ⟨hs, hsegments⟩ := List.forall_mem_cons.mp hsegments
    have hclose {before : List Segment} (hbefore : ∀ s ∈ before, P s) :
        ∀ s ∈ (if segments.isEmpty then [] :: before else before), P s := by
      split
      · exact List.forall_mem_cons.mpr ⟨hempty, hbefore⟩
      · exact hbefore
    have hparent : ∀ s ∈ parent before, P s := by
      intro s hs
      refine hbefore s ?_
      unfold parent at hs
      split at hs
      · exact hs
      · split at hs
        · exact hs
        · exact List.mem_cons_of_mem _ hs
    rw [resolveAfter]
    dsimp only
    split
    · exact ih (hclose hparent) hsegments
    · rename_i hparent
      split
      · exact ih (hclose hbefore) hsegments
      · rename_i hself
        rw [Bool.not_eq_true] at hparent hself
        exact ih (List.forall_mem_cons.mpr ⟨hs hself hparent, hbefore⟩) hsegments

theorem parent_sublist (before : List Segment) : (parent before).Sublist before := by
  unfold parent
  split
  · exact .slnil
  · split
    · exact .refl _
    · exact List.sublist_cons_self _ _

/-- Apart from empty ones, resolving only takes segments away. -/
theorem filter_resolveAfter_sublist (before segments : List Segment) :
    ((resolveAfter before segments).filter (· ≠ [])).Sublist
      ((before.reverse ++ segments).filter (· ≠ [])) := by
  induction segments generalizing before with
  | nil => simp [resolveAfter]
  | cons s segments ih =>
    have hclose {kept : List Segment} (h : kept.Sublist before) :
        (((if segments.isEmpty then [] :: kept else kept).reverse ++ segments).filter
          (· ≠ [])).Sublist ((before.reverse ++ s :: segments).filter (· ≠ [])) := by
      have hkept : ((if segments.isEmpty then [] :: kept else kept).reverse ++ segments).filter
          (· ≠ []) = (kept.reverse ++ segments).filter (· ≠ []) := by
        split <;> simp
      rw [hkept]
      exact (h.reverse.append (List.sublist_cons_self s segments)).filter _
    rw [resolveAfter]
    dsimp only
    split
    · exact (ih _).trans (hclose (parent_sublist before))
    · split
      · exact (ih _).trans (hclose (.refl before))
      · simpa using ih (s :: before)

theorem filter_resolve_sublist (segments : List Segment) :
    ((resolve segments).filter (· ≠ [])).Sublist segments :=
  (filter_resolveAfter_sublist [] segments).trans List.filter_sublist

/-- A path whose segments hold no slash, and of which none is a dot segment. -/
def IsResolved (path : String) : Prop :=
  ∃ segments : List Segment, path = String.ofList (render segments) ∧
    ∀ s ∈ segments, '/' ∉ s ∧ isSelf s = false ∧ isParent s = false

end DeepLinks.Url.Path
