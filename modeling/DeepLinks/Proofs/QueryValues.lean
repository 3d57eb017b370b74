import DeepLinks.Proofs.LinkText
import DeepLinks.Proofs.LocationPath
import DeepLinks.Proofs.PlainUrls

/-!
# Values in a query

The values in the query of a link are encodings, and reading the query leaves them alone: it drops,
escapes and cuts off other characters only. So what stands between an `=` and the next `&` can be
decoded, whatever the names before it have become, as long as no name holds an `=` itself.
-/

namespace DeepLinks

open Percent (isEncoded)

/-- An encoding stands after every `=`, up to the next `&`. -/
def EncodesValues (s : List Char) : Prop :=
  ∀ t, '=' :: t <:+ s → ∃ value, t.takeWhile (· ≠ '&') = (Percent.encode value).toList

theorem encodesValues_nil : EncodesValues [] := by
  intro t ht
  cases List.suffix_nil.mp ht

theorem encodesValues_cons_iff {c : Char} {s : List Char} :
    EncodesValues (c :: s) ↔
      (c = '=' → ∃ value, s.takeWhile (· ≠ '&') = (Percent.encode value).toList) ∧
      EncodesValues s := by
  unfold EncodesValues
  constructor
  · intro h
    refine ⟨?_, fun t ht => h t (List.suffix_cons_iff.mpr (.inr ht))⟩
    rintro rfl
    exact h s List.suffix_rfl
  · rintro ⟨hc, hs⟩ t ht
    rcases List.suffix_cons_iff.mp ht with heq | ht
    · obtain ⟨rfl, rfl⟩ := List.cons.inj heq
      exact hc rfl
    · exact hs t ht

theorem EncodesValues.of_cons {c : Char} {s : List Char} (h : EncodesValues (c :: s)) :
    EncodesValues s :=
  (encodesValues_cons_iff.mp h).2

theorem encodesValues_append {l s : List Char} (h : '=' ∉ l) (hs : EncodesValues s) :
    EncodesValues (l ++ s) := by
  induction l with
  | nil => exact hs
  | cons c l ih =>
    obtain ⟨hc, hl⟩ := List.ne_and_not_mem_of_not_mem_cons h
    exact encodesValues_cons_iff.mpr ⟨fun heq => absurd heq.symm hc, ih hl⟩

theorem encodesValues_of_not_mem {s : List Char} (h : '=' ∉ s) : EncodesValues s := by
  rw [← List.append_nil s]
  exact encodesValues_append h encodesValues_nil

theorem EncodesValues.append_cons {s t : List Char} (hs : EncodesValues s)
    (ht : EncodesValues t) : EncodesValues (s ++ '&' :: t) := by
  induction s with
  | nil => exact encodesValues_cons_iff.mpr ⟨fun hc => absurd hc (by decide), ht⟩
  | cons c s ih =>
    obtain ⟨hvalue, hs⟩ := encodesValues_cons_iff.mp hs
    refine encodesValues_cons_iff.mpr ⟨fun hc => ?_, ih hs⟩
    have htake : (s ++ '&' :: t).takeWhile (· ≠ '&') = s.takeWhile (· ≠ '&') := by
      rw [List.takeWhile_append, List.takeWhile_cons_of_neg (by simp), List.append_nil]
      split
      · rename_i hlength
        exact ((List.takeWhile_prefix _).eq_of_length hlength).symm
      · rfl
    rw [List.append_eq, htake]
    exact hvalue hc

theorem encodesValues_intercalate {ps : List (List Char)} (h : ∀ p ∈ ps, EncodesValues p) :
    EncodesValues (['&'].intercalate ps) := by
  induction ps with
  | nil => exact encodesValues_nil
  | cons p ps ih =>
    obtain ⟨hp, hps⟩ := List.forall_mem_cons.mp h
    cases ps with
    | nil => simpa using hp
    | cons q qs =>
      rw [List.intercalate_cons_cons, List.append_assoc, List.singleton_append]
      exact hp.append_cons (ih hps)

theorem takeWhile_encode (value : String) :
    (Percent.encode value).toList.takeWhile (· ≠ '&') = (Percent.encode value).toList := by
  rw [List.takeWhile_eq_self_iff]
  intro c hc
  exact decide_eq_true (Percent.ne_of_holds (Percent.isEncoded_of_mem_encode hc) (by decide))

theorem encodesValues_entryText {e : String × Option String} (h : '=' ∉ e.1.toList) :
    EncodesValues (entryText e).toList := by
  obtain ⟨name, value⟩ := e
  cases value with
  | none => exact encodesValues_of_not_mem h
  | some value =>
    have hvalue : '=' ∉ (Percent.encode value).toList :=
      fun hc => absurd (Percent.isEncoded_of_mem_encode hc) (by decide)
    rw [toList_entryText_some]
    exact encodesValues_append h (encodesValues_cons_iff.mpr
      ⟨fun _ => ⟨value, takeWhile_encode value⟩, encodesValues_of_not_mem hvalue⟩)

/-- A change of single characters that leaves what links write into a query as it is, and writes
no `=` and no `&` for anything else. -/
def KeepsQueryChars (g : Char → List Char) : Prop :=
  ∀ c, g c = [c] ∨ Url.isQueryChar c = false ∧ '=' ∉ g c ∧ '&' ∉ g c

section KeepsQueryChars

variable {g : Char → List Char} (hg : KeepsQueryChars g)
include hg

theorem KeepsQueryChars.eq_singleton {c : Char} (hc : Url.isQueryChar c = true) : g c = [c] := by
  refine (hg c).resolve_right fun h => ?_
  rw [hc] at h
  exact absurd h.1 (by decide)

theorem KeepsQueryChars.not_mem {c d : Char} (hd : d = '=' ∨ d = '&') (hne : d ≠ c) : d ∉ g c := by
  rcases hg c with hc | ⟨-, hequals, hamp⟩
  · rw [hc, List.mem_singleton]
    exact hne
  · rcases hd with rfl | rfl
    · exact hequals
    · exact hamp

theorem KeepsQueryChars.takeWhile_flatMap (s : List Char) :
    (s.flatMap g).takeWhile (· ≠ '&') = (s.takeWhile (· ≠ '&')).flatMap g := by
  induction s with
  | nil => rfl
  | cons c s ih =>
    rw [List.flatMap_cons]
    by_cases hc : c = '&'
    · subst hc
      simp [hg.eq_singleton (c := '&') (by decide)]
    · have hstays : ∀ d ∈ g c, decide (d ≠ '&') = true := by
        intro d hd
        rw [decide_eq_true_eq]
        rintro rfl
        exact hg.not_mem (.inr rfl) (Ne.symm hc) hd
      rw [List.takeWhile_append_of_pos hstays, ih, List.takeWhile_cons_of_pos (by simpa using hc),
        List.flatMap_cons]

theorem KeepsQueryChars.flatMap_encode (value : String) :
    (Percent.encode value).toList.flatMap g = (Percent.encode value).toList := by
  refine (List.flatMap_congr fun c hc => hg.eq_singleton ?_).trans (List.flatMap_singleton' _)
  simp [Url.isQueryChar, Percent.isEncoded_of_mem_encode hc]

theorem EncodesValues.flatMap {s : List Char} (h : EncodesValues s) :
    EncodesValues (s.flatMap g) := by
  induction s with
  | nil => exact encodesValues_nil
  | cons c s ih =>
    obtain ⟨hvalue, hrest⟩ := encodesValues_cons_iff.mp h
    rw [List.flatMap_cons]
    by_cases hc : c = '='
    · obtain ⟨value, hvalue⟩ := hvalue hc
      rw [hc, hg.eq_singleton (by decide), List.singleton_append]
      refine encodesValues_cons_iff.mpr ⟨fun _ => ⟨value, ?_⟩, ih hrest⟩
      rw [hg.takeWhile_flatMap, hvalue, hg.flatMap_encode]
    · exact encodesValues_append (hg.not_mem (.inl rfl) (Ne.symm hc)) (ih hrest)

end KeepsQueryChars

/-- Cutting a query before another character does not hurt the last value. -/
theorem EncodesValues.of_append {s t : List Char} (h : EncodesValues (s ++ t))
    (ht : ∀ c ∈ t.head?, Url.isQueryChar c = false) : EncodesValues s := by
  induction s with
  | nil => exact encodesValues_nil
  | cons c s ih =>
    obtain ⟨hvalue, hrest⟩ := encodesValues_cons_iff.mp h
    refine encodesValues_cons_iff.mpr ⟨fun hc => ?_, ih hrest⟩
    obtain ⟨value, hvalue⟩ := hvalue hc
    refine ⟨value, ?_⟩
    rw [List.append_eq] at hvalue
    rw [← hvalue, List.takeWhile_append]
    split
    · rename_i hlength
      have hself := (List.takeWhile_prefix (· ≠ '&')).eq_of_length hlength
      -- the value would have to go on with a character of an encoding
      have hrest : t.takeWhile (· ≠ '&') = [] := by
        cases t with
        | nil => rfl
        | cons d t =>
          have hd : Url.isQueryChar d = false := ht d rfl
          have hamp : d ≠ '&' := by
            rintro rfl
            exact absurd hd (by decide)
          have hmem : d ∈ (Percent.encode value).toList := by
            rw [← hvalue, List.takeWhile_append, if_pos hlength,
              List.takeWhile_cons_of_pos (by simpa using hamp)]
            exact List.mem_append_right _ List.mem_cons_self
          simp [Url.isQueryChar, Percent.isEncoded_of_mem_encode hmem] at hd
      rw [hrest, List.append_nil]
      exact hself
    · rfl

theorem filter_eq_flatMap (p : Char → Bool) (s : List Char) :
    s.filter p = s.flatMap fun c => if p c then [c] else [] := by
  induction s with
  | nil => rfl
  | cons c s ih =>
    rw [List.flatMap_cons, ← ih]
    by_cases hc : p c = true <;> simp [hc]

theorem keepsQueryChars_dropped :
    KeepsQueryChars fun c => if !Url.isDropped c then [c] else [] := by
  intro c
  by_cases hc : Url.isDropped c = true
  · have hquery : Url.isQueryChar c = false := by
      rw [← Bool.not_eq_true]
      intro hquery
      rw [Url.isDropped_of_space_lt (Url.spec_of_isQueryChar hquery false).1] at hc
      cases hc
    simp [hc, hquery]
  · simp [hc]

theorem EncodesValues.cleanEnd {s : List Char} (h : EncodesValues s) :
    EncodesValues (Url.cleanEnd s) := by
  have hsplit : s = (s.reverse.dropWhile (· ≤ ' ')).reverse ++
      (s.reverse.takeWhile (· ≤ ' ')).reverse := by
    rw [← List.reverse_append, List.takeWhile_append_dropWhile, List.reverse_reverse]
  unfold Url.cleanEnd
  rw [filter_eq_flatMap]
  rw [hsplit] at h
  refine EncodesValues.flatMap keepsQueryChars_dropped (h.of_append fun c hc => ?_)
  have hblank : c ≤ ' ' := by
    simpa using List.mem_takeWhile_imp (List.mem_reverse.mp (List.mem_of_mem_head? hc))
  rw [← Bool.not_eq_true]
  exact fun hquery => Char.not_lt.mpr hblank (Url.spec_of_isQueryChar hquery false).1

theorem keepsQueryChars_escaped (isSpecial : Bool) :
    KeepsQueryChars fun c =>
      if c.toNat < 0x20 || 0x7E < c.toNat || Url.isEscapedInQuery isSpecial c then
        (String.utf8EncodeChar c).flatMap Percent.escape
      else [c] := by
  intro c
  dsimp only
  split
  · rename_i hescaped
    have hencoded (d : Char) (hd : isEncoded d = false) :
        d ∉ (String.utf8EncodeChar c).flatMap Percent.escape := by
      intro hmem
      obtain ⟨b, -, hmem⟩ := List.mem_flatMap.mp hmem
      rw [Percent.isEncoded_of_mem_escape hmem] at hd
      cases hd
    refine .inr ⟨?_, hencoded '=' (by decide), hencoded '&' (by decide)⟩
    rw [← Bool.not_eq_true]
    intro hquery
    obtain ⟨hspace, -, hascii, hnot⟩ := Url.spec_of_isQueryChar hquery isSpecial
    have hlow : 0x20 < c.toNat := hspace
    simp only [hnot, Bool.or_false, Bool.or_eq_true, decide_eq_true_eq] at hescaped
    omega
  · exact .inl rfl

theorem EncodesValues.readQuery {s : List Char} (h : EncodesValues s) (k : Url.Kind) :
    EncodesValues (Url.readQuery k s) := by
  have hclean := h.cleanEnd
  rw [← List.takeWhile_append_dropWhile (p := (· ≠ '#')) (l := Url.cleanEnd s)] at hclean
  refine EncodesValues.flatMap (keepsQueryChars_escaped k.isSpecial)
    (hclean.of_append fun c hc => ?_)
  have hhash : c = '#' := by
    have hnot := List.head?_dropWhile_not (· ≠ '#') (Url.cleanEnd s)
    rw [Option.mem_def.mp hc] at hnot
    simpa using hnot
  rw [hhash]
  decide

theorem EncodesValues.of_mem_pieces {s : List Char} (h : EncodesValues s) {p : List Char}
    (hp : p ∈ Text.pieces '&' s) : EncodesValues p := by
  induction s generalizing p with
  | nil =>
    rw [Text.pieces_nil, List.mem_singleton] at hp
    rw [hp]
    exact encodesValues_nil
  | cons c s ih =>
    obtain ⟨q, qs, hq⟩ := List.exists_cons_of_ne_nil (Text.pieces_ne_nil '&' s)
    have hfirst := Text.head?_pieces '&' s
    rw [hq, List.head?_cons, Option.some.injEq] at hfirst
    rw [hq] at ih
    simp only [Text.pieces, hq] at hp
    split at hp
    · rcases List.mem_cons.mp hp with rfl | hp
      · exact encodesValues_nil
      · exact ih h.of_cons hp
    · rcases List.mem_cons.mp hp with rfl | hp
      · refine encodesValues_cons_iff.mpr ⟨fun hc => ?_, ih h.of_cons List.mem_cons_self⟩
        rw [hfirst, List.takeWhile_idem]
        exact (encodesValues_cons_iff.mp h).1 hc
      · exact ih h.of_cons (List.mem_cons_of_mem _ hp)

theorem EncodesValues.exists_queryEntry {p : List Char} (h : EncodesValues p) (hp : '&' ∉ p) :
    ∃ entry, Location.queryEntry p = .ok entry := by
  unfold Location.queryEntry
  cases hcut : Text.cut? '=' p with
  | none => exact ⟨_, rfl⟩
  | some parts =>
    obtain ⟨key, text⟩ := parts
    obtain ⟨rfl, -⟩ := Text.cut?_eq_some_iff.mp hcut
    obtain ⟨value, hvalue⟩ := h text (List.suffix_append key _)
    have hself : text.takeWhile (· ≠ '&') = text := by
      rw [List.takeWhile_eq_self_iff]
      intro c hc
      rw [decide_eq_true_eq]
      rintro rfl
      exact hp (List.mem_append_right _ (List.mem_cons_of_mem _ hc))
    rw [hself] at hvalue
    refine ⟨(String.ofList key, some value), ?_⟩
    dsimp only
    rw [hvalue, String.ofList_toList, Percent.decode_encode]
    rfl

theorem EncodesValues.exists_queryBindings {q : List Char} (h : EncodesValues q) :
    ∃ b, Location.queryBindings (String.ofList q) = .ok b := by
  have hentries : ∀ p ∈ (Text.pieces '&' q).filter (· ≠ []),
      ∃ entry, Location.queryEntry p = .ok entry := by
    intro p hp
    have hp := List.mem_of_mem_filter hp
    exact (h.of_mem_pieces hp).exists_queryEntry (Text.not_mem_of_mem_pieces hp)
  obtain ⟨entries, hentries⟩ := exists_forall₂_iff.mpr hentries
  rw [Location.queryBindings, String.toList_ofList, mapM_eq_ok_iff.mpr hentries]
  exact ⟨_, rfl⟩

/-- What is written in the query of a link can be read, if no name in it holds an `=`. -/
theorem Route.exists_queryBindings {r : Route} {values : Bindings} {ps : List Parameter}
    {entries : List (Option String)}
    (h : List.Forall₂ (fun p entry => r.queryText values p = .ok entry) ps entries)
    (hnames : ∀ p ∈ ps, '=' ∉ p.name.toList) (k : Url.Kind) :
    ∃ b, Location.queryBindings (((linkQuery? (entries.filterMap id)).map fun q =>
      String.ofList (Url.readQuery k q)).getD "") = .ok b := by
  have htexts : ∀ text ∈ entries.filterMap id, EncodesValues text.toList := by
    rw [filterMap_queryText h, List.forall_mem_map]
    intro e he
    obtain ⟨p, hp, hname, -⟩ := mem_queryEntries_iff.mp he
    exact encodesValues_entryText (hname ▸ hnames p hp)
  unfold linkQuery?
  split
  · exact ⟨_, rfl⟩
  · rw [Option.map_some, Option.getD_some]
    refine (EncodesValues.readQuery (encodesValues_intercalate ?_) k).exists_queryBindings
    rw [List.forall_mem_map]
    exact htexts

end DeepLinks
