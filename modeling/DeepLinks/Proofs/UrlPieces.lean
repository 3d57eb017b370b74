import DeepLinks.Proofs.UrlHost

/-!
# URLs that are read piece by piece

A path of pieces that hold nothing that the reader would cut at, drop or resolve is read with the
same pieces, each of them escaped on its own. `Url.parse_pieces` says so for any text of a query
after the path: what the query is read as, `readQuery`, does not reach back into the path.
-/

namespace DeepLinks

/-- Joined texts end as the last of them, or with the separator. -/
theorem of_mem_getLast?_intercalate {sep c : Char} {ps : List (List Char)}
    (h : c ∈ ([sep].intercalate ps).getLast?) : c = sep ∨ ∃ p ∈ ps.getLast?, c ∈ p.getLast? := by
  induction ps with
  | nil => contradiction
  | cons p ps ih =>
    cases ps with
    | nil => exact .inr ⟨p, rfl, by simpa using h⟩
    | cons q qs =>
      simp only [List.intercalate_cons_cons, List.append_assoc, List.singleton_append,
        List.getLast?_append_cons, List.getLast?_cons] at h
      cases hlast : ([sep].intercalate (q :: qs)).getLast? with
      | none =>
        rw [hlast] at h
        exact .inl (by simpa using h.symm)
      | some d =>
        rw [hlast] at h ih
        simpa using ih (by simpa using h)

namespace Url

namespace Path

theorem render_eq_cons {segments : List Segment} (h : segments ≠ []) :
    render segments = '/' :: ['/'].intercalate segments := by
  unfold render
  induction segments with
  | nil => contradiction
  | cons s segments ih =>
    cases segments with
    | nil => simp
    | cons t ts =>
      rw [List.flatMap_cons, ih (List.cons_ne_nil t ts), List.intercalate_cons_cons]
      simp

/-- A path is taken apart at its slashes into its segments, after an empty text. -/
theorem pieces_render {segments : List Segment} (h : ∀ s ∈ segments, '/' ∉ s) :
    Text.pieces '/' (render segments) = [] :: segments := by
  by_cases hne : segments = []
  · rw [hne]
    rfl
  · rw [render_eq_cons hne, Text.pieces_cons_self, Text.pieces_intercalate hne h]

/-- A piece of a path that reading may escape, but does not cut, drop or resolve. -/
structure IsWhole (k : Kind) (piece : Segment) : Prop where
  stays : ∀ c ∈ piece, c ≠ '?' ∧ c ≠ '#' ∧ k.isSlash c = false ∧ isDropped c = false
  not_dots : isSelf (escapeWhere isEscapedInPath piece) = false ∧
    isParent (escapeWhere isEscapedInPath piece) = false

/-- A drive letter is not escaped, and no other piece becomes one by being escaped. -/
@[simp] theorem isDriveLetter_escapeWhere (piece : Segment) :
    isDriveLetter (escapeWhere isEscapedInPath piece) = isDriveLetter piece := by
  rw [Bool.eq_iff_iff]
  constructor
  · intro h
    obtain ⟨c, d, heq, hc, hd⟩ := isDriveLetter_iff.mp h
    have hpercent : '%' ∉ escapeWhere isEscapedInPath piece := by
      have hc : '%' ≠ c := (Percent.ne_of_holds hc (by decide)).symm
      have hd : '%' ≠ d := by rcases hd with rfl | rfl <;> decide
      simp [heq, hc, hd]
    rwa [escapeWhere_eq_self_of_not_mem hpercent] at h
  · intro h
    obtain ⟨c, d, rfl, hc, hd⟩ := isDriveLetter_iff.mp h
    rw [escapeWhere_eq_self, h]
    simp only [List.forall_mem_cons]
    have hrange := Text.toNat_of_isAsciiAlpha hc
    refine ⟨⟨by omega, by omega, Percent.contains_eq_false_of_holds hc (by decide)⟩, ?_, by simp⟩
    rcases hd with rfl | rfl <;> decide

/-- Reading leaves both ends of a path alone: the path of a file does not begin with a drive, and a
path that is the last part of a URL does not end with a blank. -/
structure KeepsEnds (k : Kind) (isLast : Bool) (ps : List Segment) : Prop where
  first : k = .file → ∀ p ∈ ps.head?, isDriveLetter p = false
  last : isLast = true → ∀ p ∈ ps.getLast?, ∀ c ∈ p.getLast?, ' ' < c

variable {k : Kind} {ps : List Segment}

theorem slash_not_mem_of_isWhole (h : ∀ p ∈ ps, IsWhole k p) : ∀ p ∈ ps, '/' ∉ p := by
  intro p hp hmem
  have hslash := ((h p hp).stays '/' hmem).2.2.1
  simp [Kind.isSlash] at hslash

theorem forall_mem_intercalate_of_isWhole (h : ∀ p ∈ ps, IsWhole k p) :
    ∀ c ∈ ['/'].intercalate ps, c ≠ '?' ∧ c ≠ '#' ∧ isDropped c = false := by
  refine Text.forall_mem_intercalate (by decide) fun p hp c hc => ?_
  obtain ⟨hquestion, hhash, -, hdropped⟩ := (h p hp).stays c hc
  exact ⟨hquestion, hhash, hdropped⟩

/-- A path with plain slashes for all that part its segments. -/
def slashed (k : Kind) (s : List Char) : List Char :=
  s.map fun c => if k.isSlash c then '/' else c

theorem segments_eq (k : Kind) (path : List Char) :
    segments k path =
      resolve ((Text.pieces '/' (slashed k path)).map (escapeWhere isEscapedInPath)) := rfl

/-- Pieces without slashes are parted at the slashes that join them. -/
theorem pieces_slashed_intercalate (hne : ps ≠ []) (h : ∀ p ∈ ps, ∀ c ∈ p, k.isSlash c = false) :
    Text.pieces '/' (slashed k (['/'].intercalate ps)) = ps := by
  have hkeep : ∀ c ∈ ['/'].intercalate ps, (if k.isSlash c then '/' else c) = c := by
    refine Text.forall_mem_intercalate (by simp) fun p hp c hc => ?_
    simp [h p hp c hc]
  rw [slashed, List.map_congr_left hkeep, List.map_id', Text.pieces_intercalate hne]
  intro p hp hmem
  simpa using h p hp '/' hmem

theorem segments_intercalate (hne : ps ≠ []) (h : ∀ p ∈ ps, IsWhole k p) :
    segments k (['/'].intercalate ps) = ps.map (escapeWhere isEscapedInPath) := by
  rw [segments_eq, pieces_slashed_intercalate hne fun p hp c hc => ((h p hp).stays c hc).2.2.1,
    resolve_eq_self]
  rw [List.forall_mem_map]
  exact fun p hp => (h p hp).not_dots

end Path

theorem cutQuery_append {path : List Char} (hpath : ∀ c ∈ path, c ≠ '?' ∧ c ≠ '#')
    (query : Option (List Char)) :
    cutQuery (path ++ query.elim [] ('?' :: ·)) = (path, query.map (·.takeWhile (· ≠ '#'))) := by
  have hquestion : '?' ∉ path := fun hc => (hpath _ hc).1 rfl
  have hhash : ∀ c ∈ path, decide (c ≠ '#') = true := by simpa using fun c hc => (hpath c hc).2
  unfold cutQuery
  rw [List.takeWhile_append_of_pos hhash]
  cases query with
  | none =>
    dsimp only [Option.elim]
    rw [List.takeWhile_nil, List.append_nil, Text.cut?_eq_none_iff.mpr hquestion]
    rfl
  | some q =>
    dsimp only [Option.elim]
    rw [List.takeWhile_cons_of_pos (by decide), Text.cut?_eq_some_iff.mpr ⟨rfl, hquestion⟩]
    rfl

/-- What a query at the end of a URL is read as. -/
def readQuery (k : Kind) (query : List Char) : List Char :=
  escapeWhere (isEscapedInQuery k.isSpecial) ((cleanEnd query).takeWhile (· ≠ '#'))

theorem render_text {ps : List Path.Segment} (hne : ps ≠ []) (front : String) (rest : List Char) :
    front ++ String.ofList (Path.render ps ++ rest) =
      front ++ "/" ++ String.ofList (['/'].intercalate ps ++ rest) := by
  rw [Path.render_eq_cons hne, ← String.toList_inj]
  simp

/-- Whole pieces are read as they are but for escapes, whatever the query after them. -/
theorem parse_pieces {scheme host : String} (h : ReadsBack scheme host) {ps : List Path.Segment}
    (hne : ps ≠ []) (hps : ∀ p ∈ ps, Path.IsWhole (Kind.ofScheme scheme.toList) p)
    {query : Option (List Char)}
    (hends : Path.KeepsEnds (Kind.ofScheme scheme.toList) query.isNone ps) :
    parse (scheme ++ "://" ++ host ++
        String.ofList (Path.render ps ++ query.elim [] ('?' :: ·))) =
      .ok ⟨scheme, some host,
        String.ofList (Path.render (ps.map (escapeWhere isEscapedInPath))),
        query.map fun q => String.ofList (readQuery (Kind.ofScheme scheme.toList) q), false⟩ := by
  have hjoined := Path.forall_mem_intercalate_of_isWhole hps
  let rest := ['/'].intercalate ps ++ query.elim [] ('?' :: ·)
  have hclean : cleanEnd rest =
      ['/'].intercalate ps ++ (query.map cleanEnd).elim [] ('?' :: ·) := by
    cases query with
    | none =>
      have hlast : ∀ c ∈ (['/'].intercalate ps).getLast?, ' ' < c := by
        intro c hc
        rcases of_mem_getLast?_intercalate hc with rfl | ⟨p, hp, hc⟩
        · decide
        · exact hends.last rfl p hp c hc
      show cleanEnd (['/'].intercalate ps ++ []) = ['/'].intercalate ps ++ []
      rw [List.append_nil, cleanEnd_eq_self (fun c hc => (hjoined c hc).2.2) hlast]
    | some q =>
      show cleanEnd (['/'].intercalate ps ++ '?' :: q) = ['/'].intercalate ps ++ '?' :: cleanEnd q
      rw [cleanEnd_append_cons (by decide),
        filter_eq_self_of_isDropped fun c hc => (hjoined c hc).2.2]
  have hcut : cutQuery ('/' :: cleanEnd rest) = ('/' :: ['/'].intercalate ps,
      (query.map cleanEnd).map (·.takeWhile (· ≠ '#'))) := by
    rw [hclean]
    show cutQuery (('/' :: ['/'].intercalate ps) ++ (query.map cleanEnd).elim [] ('?' :: ·)) = _
    refine cutQuery_append ?_ _
    rw [List.forall_mem_cons]
    exact ⟨by decide, fun c hc => ⟨(hjoined c hc).1, (hjoined c hc).2.1⟩⟩
  have hpath : authorityPath (Kind.ofScheme scheme.toList) ('/' :: ['/'].intercalate ps) =
      ps.map (escapeWhere isEscapedInPath) := by
    simp [authorityPath, Path.segments_intercalate hne hps]
  have hdrive : Kind.ofScheme scheme.toList = .file →
      Path.drive? (ps.map (escapeWhere isEscapedInPath)) = none := by
    intro hfile
    simpa [Path.drive?_eq_none_iff] using hends.first hfile
  rw [← hpath] at hdrive
  rw [render_text hne, parse_append h, String.toList_ofList, afterHost_eq hcut hdrive, hpath]
  simp [ofParts, Function.comp_def, readQuery]

end Url

end DeepLinks
