import DeepLinks.Proofs.LocationPath
import DeepLinks.Proofs.PlainUrls
import DeepLinks.Proofs.TextSize

/-!
# Paths that are read whole

Reading the path of a URL trims it, cuts it, drops characters and resolves segments, and each of
these makes it smaller. Hence a path that is read with as many segments as it was written with, and
that has not lost in size, has been read piece by piece. This is what `Location.isRead_of_size_le`
says. It turns the conditions under which a path can be read as it is written into necessary ones.
-/

namespace DeepLinks

open Percent (isEncoded size size_nil size_append_cons Shrinks)

namespace Url

theorem isDropped_of_isEncoded {c : Char} (h : isEncoded c = true) : isDropped c = false :=
  isDropped_of_space_lt (space_lt_of_isEncoded h)

theorem isEscapedInPath_of_isEncoded {c : Char} (h : isEncoded c = true) :
    isEscapedInPath c = false :=
  Percent.contains_eq_false_of_holds h (by decide)

/-- A text in a path is read as it is written if it has nothing to decode. -/
theorem decode_isEscapedInPath_iff {text : String} :
    Percent.decode true (String.ofList (escapeWhere isEscapedInPath text.toList)) = .ok text ↔
      '%' ∉ text.toList ∧ '+' ∉ text.toList :=
  Percent.decode_escapeWhere_iff (fun _ hc => isEscapedInPath_of_isEncoded hc) (by decide)

/-- What is read of a path, up to the query or the end of the URL. -/
def pathText (isLast : Bool) (s : List Char) : List Char :=
  (if isLast then cleanEnd s else s.filter fun c => !isDropped c).takeWhile (· ≠ '#')

theorem shrinks_cleanEnd (s : List Char) : Shrinks s (cleanEnd s) := by
  have hsplit : s = (s.reverse.dropWhile (· ≤ ' ')).reverse ++
      (s.reverse.takeWhile (· ≤ ' ')).reverse := by
    rw [← List.reverse_append, List.takeWhile_append_dropWhile, List.reverse_reverse]
  have htrim : Shrinks s (s.reverse.dropWhile (· ≤ ' ')).reverse := by
    conv => lhs; rw [hsplit]
    refine Percent.shrinks_append fun c hc => ?_
    have hblank : c ≤ ' ' := by
      simpa using List.mem_takeWhile_imp (List.mem_reverse.mp (List.mem_of_mem_head? hc))
    rw [← Bool.not_eq_true]
    exact fun hencoded => Char.not_lt.mpr hblank (space_lt_of_isEncoded hencoded)
  exact htrim.trans (Percent.shrinks_filter (fun c hc => by simp [isDropped_of_isEncoded hc]) _)

theorem shrinks_pathText (isLast : Bool) (s : List Char) : Shrinks s (pathText isLast s) := by
  have hclean : Shrinks s (if isLast then cleanEnd s else s.filter fun c => !isDropped c) := by
    cases isLast with
    | false => exact Percent.shrinks_filter (fun c hc => by simp [isDropped_of_isEncoded hc]) s
    | true => exact shrinks_cleanEnd s
  refine hclean.trans (Percent.shrinks_takeWhile (fun c hc => ?_) _)
  exact decide_eq_true (Percent.ne_of_holds hc (by decide))

theorem mem_of_mem_cleanEnd {s : List Char} {c : Char} (h : c ∈ cleanEnd s) : c ∈ s := by
  have hmem := (List.dropWhile_suffix _).subset (List.mem_reverse.mp (List.mem_of_mem_filter h))
  exact List.mem_reverse.mp hmem

/-- A path that is read as it is written holds no character that reading takes away. -/
theorem stays_of_pathText_eq {isLast : Bool} {s : List Char} (h : pathText isLast s = s) {c : Char}
    (hc : c ∈ s) : c ≠ '#' ∧ isDropped c = false := by
  rw [← h] at hc
  refine ⟨by simpa using List.mem_takeWhile_imp hc, ?_⟩
  have hc := (List.takeWhile_prefix _).subset hc
  cases isLast with
  | false => simpa using (List.mem_filter.mp hc).2
  | true => simpa using (List.mem_filter.mp hc).2

theorem space_lt_of_pathText_eq {s : List Char} (h : pathText true s = s) :
    ∀ c ∈ s.getLast?, ' ' < c := by
  -- what is left once the end has been trimmed is no shorter, so nothing has been trimmed
  have htrim : s.reverse.dropWhile (· ≤ ' ') = s.reverse := by
    refine (List.dropWhile_suffix _).eq_of_length_le ?_
    have hcut := (List.takeWhile_prefix (· ≠ '#') (l := cleanEnd s)).length_le
    have hfilter := List.length_filter_le (fun c => !isDropped c)
      (s.reverse.dropWhile (· ≤ ' ')).reverse
    have hlength : (pathText true s).length = s.length := congrArg List.length h
    rw [pathText, if_pos rfl] at hlength
    rw [← cleanEnd, List.length_reverse] at hfilter
    rw [List.length_reverse]
    omega
  intro c hc
  have hnot := List.head?_dropWhile_not (fun c : Char => decide (c ≤ ' ')) s.reverse
  rw [htrim, List.head?_reverse, Option.mem_def.mp hc] at hnot
  simpa using hnot

theorem cutQuery_eq_of_not_mem {s : List Char} (h : '?' ∉ s.takeWhile (· ≠ '#')) :
    cutQuery s = (s.takeWhile (· ≠ '#'), none) := by
  unfold cutQuery
  dsimp only
  rw [Text.cut?_eq_none_iff.mpr h]

theorem cutQuery_fst {path : List Char} (hpath : '?' ∉ path) (query : Option (List Char)) :
    (cutQuery (path ++ query.elim [] ('?' :: ·))).1 = path.takeWhile (· ≠ '#') := by
  have htake : '?' ∉ path.takeWhile (· ≠ '#') :=
    fun hmem => hpath ((List.takeWhile_prefix _).subset hmem)
  by_cases hhash : '#' ∈ path
  · have hstarts : (path ++ query.elim [] ('?' :: ·)).takeWhile (· ≠ '#') =
        path.takeWhile (· ≠ '#') := by
      rw [List.takeWhile_append, if_neg]
      intro hlength
      rw [← (List.takeWhile_prefix _).eq_of_length hlength] at hhash
      simpa using List.mem_takeWhile_imp hhash
    rw [cutQuery_eq_of_not_mem (hstarts ▸ htake), hstarts]
  · have hself : ∀ c ∈ path, c ≠ '?' ∧ c ≠ '#' := fun c hc =>
      ⟨fun heq => hpath (heq ▸ hc), fun heq => hhash (heq ▸ hc)⟩
    rw [cutQuery_append hself, Text.takeWhile_of_not_mem hhash]

/-- The path of a URL is what is read of the text after its host. -/
theorem cutQuery_cleanEnd_fst {path : List Char} (hpath : '?' ∉ path)
    (query : Option (List Char)) :
    (cutQuery ('/' :: cleanEnd (path ++ query.elim [] ('?' :: ·)))).1 =
      '/' :: pathText query.isNone path := by
  cases query with
  | none =>
    have hclean : '?' ∉ '/' :: cleanEnd path := by
      rw [List.mem_cons, not_or]
      exact ⟨by decide, fun hmem => hpath (mem_of_mem_cleanEnd hmem)⟩
    simpa [pathText] using cutQuery_fst hclean none
  | some q =>
    have hclean : '?' ∉ '/' :: path.filter fun c => !isDropped c := by
      rw [List.mem_cons, not_or]
      exact ⟨by decide, fun hmem => hpath (List.mem_of_mem_filter hmem)⟩
    rw [Option.elim, cleanEnd_append_cons (by decide)]
    simpa [pathText] using cutQuery_fst hclean (some (cleanEnd q))

@[simp] theorem authorityPath_slash_cons (k : Kind) (path : List Char) :
    authorityPath k ('/' :: path) = segments k path := by
  simp [authorityPath]

namespace Path

@[simp] theorem size_render_cons (s : Segment) (segments : List Segment) :
    size (render (s :: segments)) = 1 + size s + size (render segments) := by
  have hcons : render (s :: segments) = [] ++ '/' :: (s ++ render segments) := by simp [render]
  have happend : size (s ++ render segments) = size s + size (render segments) := by
    cases segments with
    | nil => simp [render]
    | cons t segments =>
      have ht : render (t :: segments) = '/' :: (t ++ render segments) := by simp [render]
      rw [ht, size_append_cons (by decide), Percent.size_cons_of_ne (by decide)]
  have hslash : '/'.utf8Size = 1 := rfl
  simp [hcons, happend, hslash, Nat.add_assoc]

theorem size_render_of_ne_nil {segments : List Segment} (h : segments ≠ []) :
    size (render segments) = 1 + size (['/'].intercalate segments) := by
  rw [render_eq_cons h, Percent.size_cons_of_ne (by decide)]
  rfl

/-- Taking segments away makes a path smaller. -/
theorem eq_or_size_lt_of_sublist {kept segments : List Segment} (h : kept.Sublist segments) :
    kept = segments ∨ size (render kept) < size (render segments) := by
  induction h with
  | slnil => exact .inl rfl
  | cons s _ ih =>
    rw [size_render_cons]
    rcases ih with rfl | hlt <;> omega
  | cons_cons s _ ih =>
    rw [size_render_cons, size_render_cons]
    rcases ih with rfl | hlt
    · exact .inl rfl
    · omega

theorem size_render_escapeWhere_le (segments : List Segment) :
    size (render (segments.map (escapeWhere isEscapedInPath))) ≤ size (render segments) := by
  induction segments with
  | nil => exact le_rfl
  | cons s segments ih =>
    have hs := Percent.size_escapeWhere_le (p := isEscapedInPath)
      (fun _ hc => isEscapedInPath_of_isEncoded hc) s
    rw [List.map_cons, size_render_cons, size_render_cons]
    omega

/-- The size of the segments of a path, each with the slash before it. -/
def sizeOf (path : List String) : Nat :=
  (path.map fun value => 1 + (Percent.bytesOf value.toList).length).sum

@[simp] theorem sizeOf_cons (value : String) (path : List String) :
    sizeOf (value :: path) = 1 + (Percent.bytesOf value.toList).length + sizeOf path := rfl

theorem sizeOf_eq_size_render {segments : List Segment} {path : List String}
    (h : List.Forall₂ (fun s value => Percent.decode true (String.ofList s) = .ok value) segments
      path) : sizeOf path = size (render segments) := by
  induction h with
  | nil => rfl
  | cons hdecode _ ih =>
    simp [ih, Percent.length_of_decode hdecode]

theorem filter_segments_sublist (k : Kind) (text : List Char) :
    ((segments k text).filter (· ≠ [])).Sublist
      ((Text.pieces '/' (slashed k text)).map (escapeWhere isEscapedInPath)) :=
  filter_resolve_sublist _

theorem size_slashed_le (k : Kind) (s : List Char) : size (slashed k s) ≤ size s := by
  refine Percent.size_map_le (fun c hc => ?_) (fun c => ?_) s
  · rw [if_neg]
    simp [(Host.stays_of_mayHold (Host.mayHold_of_isEncoded hc) k).2.1]
  · split
    · exact c.utf8Size_pos
    · exact le_rfl

theorem size_render_pieces_le (k : Kind) (text : List Char) :
    size (render ((Text.pieces '/' (slashed k text)).map (escapeWhere isEscapedInPath))) ≤
      1 + size text := by
  have hescaped := size_render_escapeWhere_le (Text.pieces '/' (slashed k text))
  have hpieces := size_render_of_ne_nil (Text.pieces_ne_nil '/' (slashed k text))
  rw [Text.intercalate_pieces] at hpieces
  have hslashed := size_slashed_le k text
  omega

section Segments

variable {k : Kind} {text : List Char} {path : List String}
  (h : List.Forall₂ (fun s value => Percent.decode true (String.ofList s) = .ok value)
    ((segments k text).filter (· ≠ [])) path)
include h

theorem sizeOf_le_size : sizeOf path ≤ 1 + size text := by
  have hpieces := size_render_pieces_le k text
  rw [sizeOf_eq_size_render h]
  rcases eq_or_size_lt_of_sublist (filter_segments_sublist k text) with heq | hlt
  · rwa [heq]
  · omega

/-- A path that has lost nothing in size has all the segments that its slashes part. -/
theorem filter_segments_eq_of_le (hsize : 1 + size text ≤ sizeOf path) :
    (segments k text).filter (· ≠ []) =
      (Text.pieces '/' (slashed k text)).map (escapeWhere isEscapedInPath) := by
  have hpieces := size_render_pieces_le k text
  rw [sizeOf_eq_size_render h] at hsize
  exact (eq_or_size_lt_of_sublist (filter_segments_sublist k text)).resolve_right
    fun hlt => by omega

end Segments

/-- Joining adds a separator between any two texts. -/
theorem count_intercalate {sep : Char} {ps : List (List Char)} (hne : ps ≠ []) :
    ([sep].intercalate ps).count sep + 1 = ps.length + (ps.map (·.count sep)).sum := by
  induction ps with
  | nil => contradiction
  | cons p ps ih =>
    cases ps with
    | nil =>
      simp
      omega
    | cons q qs =>
      have ih := ih (by simp)
      rw [List.intercalate_cons_cons]
      simp only [List.count_append, List.count_singleton_self, List.length_cons, List.map_cons,
        List.sum_cons] at ih ⊢
      omega

/-- A joined path has no more pieces than have been joined only if none of them holds a slash. -/
theorem isSlash_eq_false_of_length_pieces {k : Kind} {ps : List Segment} (hne : ps ≠ [])
    (hlength : (Text.pieces '/' (slashed k (['/'].intercalate ps))).length = ps.length) :
    ∀ p ∈ ps, ∀ c ∈ p, k.isSlash c = false := by
  have hjoined : slashed k (['/'].intercalate ps) = ['/'].intercalate (ps.map (slashed k)) := by
    rw [slashed, Text.map_intercalate]
    simp only [Kind.isSlash_slash, ↓reduceIte]
    rfl
  have hmapped : ps.map (slashed k) ≠ [] := by simpa using hne
  have hcount := @count_intercalate '/' _ hmapped
  rw [← hjoined, ← Text.length_pieces, hlength, List.length_map] at hcount
  have hzero : ((ps.map (slashed k)).map (·.count '/')).sum = 0 := by omega
  simp only [List.sum_eq_zero_iff, List.forall_mem_map] at hzero
  intro p hp c hc
  have hnot := List.count_eq_zero.mp (hzero p hp)
  rw [← Bool.not_eq_true]
  intro hslash
  exact hnot (List.mem_map.mpr ⟨c, hc, if_pos hslash⟩)

/-- A path that is read piece by piece, as it was written. -/
structure IsRead (k : Kind) (isLast : Bool) (ps : List Segment) (path : List String) : Prop
    extends KeepsEnds k isLast ps where
  stays : ∀ p ∈ ps, ∀ c ∈ p, c ≠ '#' ∧ k.isSlash c = false ∧ isDropped c = false
  decode : List.Forall₂ (fun p value =>
    Percent.decode true (String.ofList (escapeWhere isEscapedInPath p)) = .ok value) ps path

/-- A path is read piece by piece if it is read with as many segments as it has been written with
and nothing of its size is lost. -/
theorem isRead_of_size_le {k : Kind} {isLast : Bool} {ps : List Segment} (hne : ps ≠ [])
    {path : List String}
    (hdecode : List.Forall₂ (fun s value => Percent.decode true (String.ofList s) = .ok value)
      ((segments k (pathText isLast (['/'].intercalate ps))).filter (· ≠ [])) path)
    (hdrive : k = .file → drive? (segments k (pathText isLast (['/'].intercalate ps))) = none)
    (hlength : path.length = ps.length) (hsize : size (render ps) ≤ sizeOf path) :
    IsRead k isLast ps path := by
  have hrender := size_render_of_ne_nil hne
  have hle := sizeOf_le_size hdecode
  -- nothing has been lost in cutting the text, and nothing in resolving its segments
  have htext : pathText isLast (['/'].intercalate ps) = ['/'].intercalate ps :=
    (shrinks_pathText isLast _).resolve_right fun hlt => by omega
  rw [htext] at hdecode hdrive
  have hfilter := filter_segments_eq_of_le hdecode (by omega)
  have hslash : ∀ p ∈ ps, ∀ c ∈ p, k.isSlash c = false := by
    refine isSlash_eq_false_of_length_pieces hne ?_
    rw [← hlength, ← hdecode.length_eq, hfilter, List.length_map]
  have hpieces := pieces_slashed_intercalate hne hslash
  rw [hpieces] at hfilter
  have hsegments : segments k (['/'].intercalate ps) = ps.map (escapeWhere isEscapedInPath) := by
    rw [segments_eq, hpieces, resolve_eq_self]
    intro s hs
    rw [← hfilter, List.mem_filter] at hs
    exact (forall_mem_segments k _ s hs.1).2
  rw [hfilter, List.forall₂_map_left_iff] at hdecode
  refine ⟨⟨fun hfile => ?_, ?_⟩, fun p hp c hc => ?_, hdecode⟩
  · have hdrive := hdrive hfile
    rw [hsegments, drive?_eq_none_iff] at hdrive
    simpa using hdrive
  · rintro rfl p hp c hc
    obtain ⟨front, hfront⟩ := @Text.suffix_intercalate '/' _ _ hp
    refine space_lt_of_pathText_eq htext c ?_
    rw [← hfront, List.getLast?_append_of_ne_nil _ (by rintro rfl; contradiction)]
    exact hc
  · obtain ⟨hhash, hdropped⟩ := stays_of_pathText_eq htext
      ((Text.infix_intercalate hp).subset hc)
    exact ⟨hhash, hslash p hp c hc, hdropped⟩

end Path

end Url

open Url in
/-- A location has read its path piece by piece if it has as many segments as have been written
and nothing of their size is lost. -/
theorem Location.isRead_of_size_le {scheme host : String} (h : ReadsBack scheme host)
    {ps : List Path.Segment} (hne : ps ≠ []) (hquestion : ∀ p ∈ ps, '?' ∉ p)
    {query : Option (List Char)} {u : Location}
    (hu : parse (scheme ++ "://" ++ host ++
      String.ofList (Path.render ps ++ query.elim [] ('?' :: ·))) = .ok u)
    (hlength : u.path.length = ps.length) (hsize : size (Path.render ps) ≤ Path.sizeOf u.path) :
    Path.IsRead (Kind.ofScheme scheme.toList) query.isNone ps u.path := by
  obtain ⟨url, hurl, hof⟩ := parse_eq_ok_iff.mp hu
  obtain ⟨host', path, _, hhost, -, hpath, -, rfl⟩ := ofUrl_eq_ok_iff.mp hof
  rw [render_text hne, parse_append h, String.toList_ofList] at hurl
  obtain rfl := Except.ok.inj hurl
  have hjoined : '?' ∉ ['/'].intercalate ps := fun hmem =>
    Text.forall_mem_intercalate (P := (· ≠ '?')) (by decide)
      (fun p hp c hc heq => hquestion p hp (heq ▸ hc)) '?' hmem rfl
  have hdrive := drive?_eq_none_of_host_afterHost hhost
  rw [path_afterHost hdrive] at hpath
  rw [cutQuery_cleanEnd_fst hjoined, authorityPath_slash_cons] at hpath hdrive
  rw [pathSegments_render fun s hs => (forall_mem_segments _ _ s hs).1, mapM_eq_ok_iff] at hpath
  exact Path.isRead_of_size_le hne hpath hdrive hlength hsize

end DeepLinks
