import DeepLinks.Proofs.DotSegments
import DeepLinks.Proofs.EscapedText
import DeepLinks.Proofs.HostText
import DeepLinks.Proofs.SchemeText

/-!
# Hosts that are read as themselves

When the host of a URL without further parts is read as it is written, it is read so whatever
follows it. `Url.parse_append` reduces the reading of such a URL to that of its path and query.
-/

namespace DeepLinks.Url

theorem mem_of_mem_cutUser {authority : List Char} {c : Char} (h : c ∈ (cutUser authority).2) :
    c ∈ authority := by
  unfold cutUser at h
  split at h
  · rw [List.mem_reverse] at h
    exact List.mem_reverse.mp ((List.takeWhile_prefix _).subset h)
  · exact h

theorem mem_of_mem_cutHost {inBrackets : Bool} {s : List Char} {c : Char}
    (h : c ∈ (cutHost inBrackets s).2) : c ∈ s := by
  induction s generalizing inBrackets with
  | nil => exact h
  | cons d s ih =>
    unfold cutHost at h
    split at h
    · exact h
    · exact List.mem_cons_of_mem _ (ih h)

/-- A port is parted from its host by a colon. -/
theorem cutHost_snd (inBrackets : Bool) (s : List Char) :
    (cutHost inBrackets s).2 = [] ∨ ∃ port, (cutHost inBrackets s).2 = ':' :: port := by
  induction s generalizing inBrackets with
  | nil => exact .inl rfl
  | cons c s ih =>
    unfold cutHost
    split
    · rename_i hc
      exact .inr ⟨s, by rw [hc.1]⟩
    · exact ih _

/-- Only a backslash ends a port before the authority does. -/
theorem dropPort_eq_nil {port rest : List Char} (h : dropPort (':' :: port) = .ok rest)
    (hslash : '\\' ∉ port) : rest = [] := by
  simp only [dropPort, ite_error_eq_ok_iff] at h
  obtain ⟨-, h⟩ := h
  split at h
  · exact (Except.ok.inj h).symm
  · rename_i tail htail
    have hmem : '\\' ∈ port.dropWhile Text.isAsciiDigit := by
      rw [htail]
      exact List.mem_cons_self
    exact absurd ((List.dropWhile_suffix _).subset hmem) hslash
  · contradiction

/-- What is read of an authority that has a host. -/
theorem readAuthority_host {k : Kind} {isLast : Bool} {authority host extra : List Char}
    (h : readAuthority k isLast authority = .ok (some host, extra)) :
    Host.IsText host ∧ ('\\' ∉ authority → extra = []) := by
  unfold readAuthority at h
  simp only [throw_eq_error, error_bind, pure_eq_ok, ite_error_eq_ok_iff] at h
  obtain ⟨-, -, h⟩ := h
  obtain ⟨host', hchars, hport, hsome⟩ : ∃ host', (∀ c ∈ host', Host.mayHold c = true) ∧
      dropPort (cutHost false (cutUser authority).2).2 = .ok extra ∧
      (if host' = [] then none else some host') = some host := by
    split at h
    · simp only [bind_eq_ok_iff, ite_error_eq_ok_iff, Except.ok.injEq, Prod.mk.injEq] at h
      obtain ⟨host', hread, -, rest, hport, -, hsome, rfl⟩ := h
      exact ⟨host', Host.mayHold_of_mem_parse hread, hport, hsome⟩
    · simp only [bind_eq_ok_iff, ite_error_eq_ok_iff, Except.ok.injEq, Prod.mk.injEq] at h
      obtain ⟨host', hread, -, rest, hport, -, hsome, rfl⟩ := h
      exact ⟨host', Host.mayHold_of_mem_parseOpaque hread, hport, hsome⟩
  split at hsome
  · contradiction
  · rename_i hne
    rw [Option.some.injEq] at hsome
    subst hsome
    refine ⟨⟨hne, hchars⟩, fun hslash => ?_⟩
    rcases cutHost_snd false (cutUser authority).2 with hnil | ⟨port, hcolon⟩
    · rw [hnil] at hport
      exact (Except.ok.inj hport).symm
    · rw [hcolon] at hport
      refine dropPort_eq_nil hport fun hmem => hslash ?_
      have hin : '\\' ∈ (cutHost false (cutUser authority).2).2 := by
        rw [hcolon]
        exact List.mem_cons_of_mem _ hmem
      exact mem_of_mem_cutUser (mem_of_mem_cutHost hin)

theorem readFileHost_host {text host : List Char} (h : readFileHost text = .ok (some host)) :
    Host.IsText host := by
  simp only [readFileHost, pure_eq_ok] at h
  split at h
  · rw [Except.ok.injEq] at h
    contradiction
  · simp only [bind_eq_ok_iff, Except.ok.injEq] at h
    obtain ⟨host', hhost', hsome⟩ := h
    split at hsome
    · contradiction
    · rw [Option.some.injEq] at hsome
      subst hsome
      exact Host.isText_of_parse hhost'

/-- An authority with something after it that is read as the host that it writes. -/
def ReadsAsHost : Kind → List Char → Prop
  | .file, host => Path.isDriveLetter host = false ∧ readFileHost host = .ok (some host)
  | k, host => readAuthority k false host = .ok (some host, [])

/-- The URL of a host that is read as itself, followed by `rest`. -/
def afterHost (k : Kind) (scheme host rest : List Char) : Url :=
  let (path, query) := cutQuery rest
  match k with
  | .file => ofFileParts scheme (some host) (authorityPath .file path) query
  | k => ofParts k scheme (some host) (authorityPath k path) query

/-- A host stays with its path unless that is the path of a drive. -/
theorem afterHost_eq {k : Kind} {rest path : List Char} {query : Option (List Char)}
    (hcut : cutQuery rest = (path, query))
    (hdrive : k = .file → Path.drive? (authorityPath k path) = none) (scheme host : List Char) :
    afterHost k scheme host rest = ofParts k scheme (some host) (authorityPath k path) query := by
  cases k with
  | file => simp [afterHost, hcut, ofFileParts, hdrive rfl]
  | special => simp [afterHost, hcut]
  | other => simp [afterHost, hcut]

theorem drive?_eq_none_of_host_afterHost {k : Kind} {scheme host rest : List Char} {text : String}
    (h : (afterHost k scheme host rest).host = some text) :
    k = .file → Path.drive? (authorityPath k (cutQuery rest).1) = none := by
  rintro rfl
  cases hdrive : Path.drive? (authorityPath .file (cutQuery rest).1) with
  | none => rfl
  | some path => simp [afterHost, ofFileParts, hdrive, ofParts] at h

theorem path_afterHost {k : Kind} {rest : List Char}
    (hdrive : k = .file → Path.drive? (authorityPath k (cutQuery rest).1) = none)
    (scheme host : List Char) :
    (afterHost k scheme host rest).path =
      String.ofList (Path.render (authorityPath k (cutQuery rest).1)) := by
  have hcut : cutQuery rest = ((cutQuery rest).1, (cutQuery rest).2) := rfl
  rw [afterHost_eq hcut hdrive]
  rfl

/-- The URL after a scheme and two slashes. -/
def parseAfterSlashes (k : Kind) (scheme s : List Char) : Except ParseError Url :=
  match k with
  | .file => parseFile scheme ('/' :: '/' :: s)
  | k => parseHierarchical k scheme s

theorem Host.space_lt_of_mayHold {c : Char} (h : Host.mayHold c = true) : ' ' < c := by
  have hlt : ' '.toNat < c.toNat := by
    simp only [Host.mayHold, Bool.or_eq_true, Bool.and_eq_true, decide_eq_true_eq] at h
    rcases h with h | h
    · exact h.1
    · have all : ['[', ':', ']'].all (' '.toNat < ·.toNat) = true := by decide
      exact of_decide_eq_true (List.all_eq_true.mp all c (List.contains_iff_mem.mp h))
  exact hlt

/-- A host does not end its authority. -/
theorem Host.stays_of_mayHold {c : Char} (h : Host.mayHold c = true) (k : Kind) :
    c ≠ '\\' ∧ k.isSlash c = false ∧ (!(k.isSlash c || c == '?' || c == '#')) = true := by
  have hslash : c ≠ '/' := Percent.ne_of_holds h (by decide)
  have hback : c ≠ '\\' := Percent.ne_of_holds h (by decide)
  have hquestion : c ≠ '?' := Percent.ne_of_holds h (by decide)
  have hhash : c ≠ '#' := Percent.ne_of_holds h (by decide)
  have hisSlash : k.isSlash c = false := by simp [Kind.isSlash, hslash, hback]
  exact ⟨hback, hisSlash, by simp [hisSlash, hquestion, hhash]⟩

theorem authority_append {k : Kind} {host : List Char} (h : Host.IsText host)
    (rest : List Char) :
    authority k (host ++ '/' :: rest) = (host, '/' :: rest) := by
  let stays (c : Char) : Bool := !(k.isSlash c || c == '?' || c == '#')
  have hstays : ∀ c ∈ host, stays c = true :=
    fun c hc => (Host.stays_of_mayHold (h.mayHold c hc) k).2.2
  have hends : ¬ stays '/' = true := by simp [stays, Kind.isSlash]
  show ((host ++ '/' :: rest).takeWhile stays, (host ++ '/' :: rest).dropWhile stays) = _
  simp [List.takeWhile_append_of_pos hstays, List.dropWhile_append_of_pos hstays, hends]

theorem parseAfterSlashes_host {k : Kind} {scheme host : List Char} (htext : Host.IsText host)
    (h : ReadsAsHost k host) (rest : List Char) :
    parseAfterSlashes k scheme (host ++ '/' :: rest) =
      .ok (afterHost k scheme host ('/' :: rest)) := by
  cases k with
  | file =>
    obtain ⟨hdrive, hread⟩ :
        Path.isDriveLetter host = false ∧ readFileHost host = .ok (some host) :=
      h
    simp [parseAfterSlashes, parseFile, parseFile.withHost, authority_append htext, hdrive, hread,
      afterHost]
  | special =>
    have h : readAuthority .special false host = .ok (some host, []) := h
    simp [parseAfterSlashes, parseHierarchical, authority_append htext, h, afterHost]
  | other =>
    have h : readAuthority .other false host = .ok (some host, []) := h
    simp [parseAfterSlashes, parseHierarchical, authority_append htext, h, afterHost]

@[simp] theorem host_withHost_none (scheme rest : List Char) :
    (parseFile.withHost scheme none rest).host = none := by
  unfold parseFile.withHost ofFileParts
  dsimp only
  split <;> rfl

theorem eq_some_of_host_withHost {scheme rest text : List Char} {host : Option (List Char)}
    (h : (parseFile.withHost scheme host rest).host = some (String.ofList text)) :
    host = some text := by
  unfold parseFile.withHost ofFileParts at h
  dsimp only at h
  split at h
  · contradiction
  · simpa [ofParts, String.ofList_inj] using h

theorem readsAsHost_of_parseAfterSlashes {k : Kind} {scheme host rest : List Char} {url : Url}
    (htext : Host.IsText host)
    (h : parseAfterSlashes k scheme (host ++ '/' :: rest) = .ok url)
    (hhost : url.host = some (String.ofList host)) : ReadsAsHost k host := by
  have hback : '\\' ∉ host := fun hc => (Host.stays_of_mayHold (htext.mayHold _ hc) k).1 rfl
  have hother (h : parseHierarchical k scheme (host ++ '/' :: rest) = .ok url) :
      readAuthority k false host = .ok (some host, []) := by
    simp only [parseHierarchical, authority_append htext, List.isEmpty_cons, bind_eq_ok_iff,
      pure_eq_ok, Except.ok.injEq, Prod.exists] at h
    obtain ⟨host', extra, hread, rfl⟩ := h
    have hsome : host' = some host := by
      cases host' with
      | none => contradiction
      | some host' => simpa [ofParts, String.ofList_inj] using hhost
    subst hsome
    rw [hread, (readAuthority_host hread).2 hback]
  cases k with
  | file =>
    simp only [parseAfterSlashes, parseFile, authority_append htext, Kind.isSlash_slash,
      Bool.and_self, ↓reduceIte, pure_eq_ok] at h
    split at h
    · rw [← Except.ok.inj h, host_withHost_none] at hhost
      contradiction
    · rename_i hdrive
      obtain ⟨host', hread, hurl⟩ := bind_eq_ok_iff.mp h
      rw [← Except.ok.inj hurl] at hhost
      obtain rfl := eq_some_of_host_withHost hhost
      exact ⟨by simpa using hdrive, hread⟩
  | special => exact hother h
  | other => exact hother h

/-- The scheme and the host are read as they are written. Reading them once tells, with nothing
but a slash after the host: `parse_append` adds the rest. -/
def ReadsBack (scheme host : String) : Prop :=
  parse (scheme ++ "://" ++ host ++ "/") = .ok ⟨scheme, some host, "/", none, false⟩

instance (scheme host : String) : Decidable (ReadsBack scheme host) :=
  inferInstanceAs (Decidable (_ = _))

/-- Characters that a URL loses wherever they stand. -/
def isDropped (c : Char) : Bool :=
  ['\t', '\n', '\r'].contains c

/-- What is left of the end of a URL. -/
def cleanEnd (s : List Char) : List Char :=
  (s.reverse.dropWhile (· ≤ ' ')).reverse.filter fun c => !isDropped c

theorem isDropped_of_space_lt {c : Char} (h : ' ' < c) : isDropped c = false :=
  Percent.contains_eq_false_of_holds (p := fun d => ' ' < d) (decide_eq_true h) (by decide)

theorem filter_eq_self_of_isDropped {s : List Char} (h : ∀ c ∈ s, isDropped c = false) :
    s.filter (fun c => !isDropped c) = s := by
  rw [List.filter_eq_self]
  exact fun c hc => by rw [h c hc, Bool.not_false]

/-- A character beyond the blank ones keeps what stands before it from being trimmed. -/
theorem cleanEnd_append_cons {c : Char} (hc : ' ' < c) (p s : List Char) :
    cleanEnd (p ++ c :: s) = p.filter (fun d => !isDropped d) ++ c :: cleanEnd s := by
  have hstays : ¬ c ≤ ' ' := Char.not_le.mpr hc
  have hdrop : ((p ++ c :: s).reverse.dropWhile (· ≤ ' ')) =
      s.reverse.dropWhile (· ≤ ' ') ++ c :: p.reverse := by
    simp only [List.reverse_append, List.reverse_cons, List.append_assoc, List.singleton_append,
      List.dropWhile_append, List.dropWhile_cons, hstays, decide_false, Bool.false_eq_true,
      ↓reduceIte, ite_eq_right_iff]
    intro hempty
    rw [List.isEmpty_iff.mp hempty, List.nil_append]
  unfold cleanEnd
  rw [hdrop]
  simp [isDropped_of_space_lt hc]

theorem cleanEnd_eq_self {s : List Char} (h : ∀ c ∈ s, isDropped c = false)
    (hlast : ∀ c ∈ s.getLast?, ' ' < c) : cleanEnd s = s := by
  cases hs : s.getLast? with
  | none =>
    rw [List.getLast?_eq_none_iff.mp hs]
    rfl
  | some c =>
    obtain ⟨p, rfl⟩ := List.getLast?_eq_some_iff.mp hs
    rw [cleanEnd_append_cons (hlast c hs),
      filter_eq_self_of_isDropped fun d hd => h d (List.mem_append_left _ hd)]
    rfl

theorem clean_append {p : List Char} (hne : p ≠ []) (hp : ∀ c ∈ p, ' ' < c) (s : List Char) :
    clean (p ++ s) = p ++ cleanEnd s := by
  obtain ⟨c, p, rfl⟩ := List.exists_cons_of_ne_nil hne
  have hc : ¬ c ≤ ' ' := Char.not_le.mpr (hp c List.mem_cons_self)
  have hfront : ((c :: p) ++ s).dropWhile (· ≤ ' ') = (c :: p) ++ s :=
    List.dropWhile_cons_of_neg (by simpa using hc)
  have hclean : clean ((c :: p) ++ s) = cleanEnd ((c :: p) ++ s) := by
    unfold clean Text.trimBy
    rw [hfront]
    rfl
  obtain ⟨q, d, hq⟩ : ∃ q d, c :: p = q ++ [d] :=
    ⟨_, _, (List.dropLast_append_getLast hne).symm⟩
  have hd : ' ' < d := hp d (by simp [hq])
  have hkeep : ∀ e ∈ q, isDropped e = false :=
    fun e he => isDropped_of_space_lt (hp e (by simp [hq, he]))
  rw [hclean, hq]
  simp [cleanEnd_append_cons hd, filter_eq_self_of_isDropped hkeep]

theorem parse_eq {raw : String} {scheme s : List Char} (hscheme : IsScheme scheme)
    (hclean : clean raw.toList = scheme ++ ':' :: '/' :: '/' :: s)
    (hs : ∀ c ∈ s.head?, Kind.special.isSlash c = false) :
    parse raw = parseAfterSlashes (Kind.ofScheme scheme) scheme s := by
  unfold parse
  rw [hclean, scheme?_append hscheme]
  dsimp only
  cases Kind.ofScheme scheme with
  | file => rfl
  | other => rfl
  | special =>
    have hdrop : ('/' :: '/' :: s).dropWhile Kind.special.isSlash = s := by
      rw [List.dropWhile_cons_of_pos (by decide), List.dropWhile_cons_of_pos (by decide)]
      cases s with
      | nil => rfl
      | cons c s => exact List.dropWhile_cons_of_neg (by simpa using hs c rfl)
    dsimp only
    rw [hdrop]
    rfl

/-- Cutting leaves no slash in the pieces, escaping writes none, and resolving drops the dots. -/
theorem forall_mem_segments (k : Kind) (path : List Char) :
    ∀ s ∈ segments k path, '/' ∉ s ∧ Path.isSelf s = false ∧ Path.isParent s = false := by
  unfold segments
  dsimp only
  refine Path.forall_mem_resolveAfter ⟨by simp, rfl, rfl⟩ (by simp) ?_
  rw [List.forall_mem_map]
  intro piece hpiece hself hparent
  refine ⟨fun hmem => ?_, hself, hparent⟩
  rcases of_mem_escapeWhere hmem with ⟨hmem, -⟩ | hencoded
  · exact Text.not_mem_of_mem_pieces hpiece hmem
  · exact absurd hencoded (by decide)

theorem forall_mem_authorityPath (k : Kind) (path : List Char) :
    ∀ s ∈ authorityPath k path, '/' ∉ s ∧ Path.isSelf s = false ∧ Path.isParent s = false := by
  unfold authorityPath
  split
  · split
    · simpa using ⟨rfl, rfl⟩
    · simp
  · exact forall_mem_segments k _

/-- A URL with the given scheme. If it has a host, then one that is a text of a host, and a path
without dot segments. -/
structure HasParts (scheme : List Char) (url : Url) : Prop where
  scheme_eq : url.scheme = String.ofList scheme
  isText : ∀ host, url.host = some host → Host.IsText host.toList
  isResolved : ∀ host, url.host = some host → Path.IsResolved url.path

theorem HasParts.of_host_eq_none {scheme : List Char} {url : Url}
    (hscheme : url.scheme = String.ofList scheme) (hhost : url.host = none) :
    HasParts scheme url := by
  have habsent (host : String) : url.host ≠ some host := by
    rw [hhost]
    exact (Option.some_ne_none host).symm
  exact ⟨hscheme, fun host h => absurd h (habsent host), fun host h => absurd h (habsent host)⟩

theorem HasParts.of_ofParts {k : Kind} {scheme : List Char} {host : Option (List Char)}
    {path : List Char} {query : Option (List Char)}
    (h : ∀ text, host = some text → Host.IsText text) :
    HasParts scheme (ofParts k scheme host (authorityPath k path) query) := by
  refine ⟨rfl, fun text htext => ?_, fun _ _ => ⟨_, rfl, forall_mem_authorityPath k path⟩⟩
  obtain ⟨text', htext', rfl⟩ := Option.map_eq_some_iff.mp htext
  rw [String.toList_ofList]
  exact h text' htext'

theorem hasParts_of_parseHierarchical {k : Kind} {scheme s : List Char} {url : Url}
    (h : parseHierarchical k scheme s = .ok url) : HasParts scheme url := by
  simp only [parseHierarchical, bind_eq_ok_iff, pure_eq_ok, Except.ok.injEq, Prod.exists] at h
  obtain ⟨host, extra, hread, rfl⟩ := h
  refine HasParts.of_ofParts fun text htext => ?_
  subst htext
  exact (readAuthority_host hread).1

theorem hasParts_withHost {scheme rest : List Char} {host : Option (List Char)}
    (h : ∀ text, host = some text → Host.IsText text) :
    HasParts scheme (parseFile.withHost scheme host rest) := by
  unfold parseFile.withHost ofFileParts
  dsimp only
  split
  · exact HasParts.of_host_eq_none rfl rfl
  · exact HasParts.of_ofParts h

theorem hasParts_of_parseFile {scheme s : List Char} {url : Url}
    (h : parseFile scheme s = .ok url) : HasParts scheme url := by
  have hnone (rest : List Char) : HasParts scheme (parseFile.withHost scheme none rest) :=
    hasParts_withHost (by simp)
  simp only [parseFile, pure_eq_ok] at h
  split at h
  · split at h
    · split at h
      · exact Except.ok.inj h ▸ hnone _
      · obtain ⟨host, hread, hurl⟩ := bind_eq_ok_iff.mp h
        rw [← Except.ok.inj hurl]
        refine hasParts_withHost fun text htext => ?_
        subst htext
        exact readFileHost_host hread
    · exact Except.ok.inj h ▸ hnone _
  · exact Except.ok.inj h ▸ hnone _

theorem hasParts_parseWithoutHost (scheme s : List Char) :
    HasParts scheme (parseWithoutHost scheme s) := by
  unfold parseWithoutHost
  dsimp only
  split
  · exact HasParts.of_host_eq_none rfl rfl
  · exact HasParts.of_host_eq_none rfl rfl

theorem exists_hasParts {raw : String} {url : Url} (h : parse raw = .ok url) :
    ∃ scheme, IsScheme scheme ∧ HasParts scheme url := by
  unfold parse at h
  split at h
  · contradiction
  · rename_i scheme rest hscheme
    refine ⟨scheme, isScheme_of_scheme? hscheme, ?_⟩
    split at h
    · exact hasParts_of_parseHierarchical h
    · exact hasParts_of_parseFile h
    · split at h
      · exact hasParts_of_parseHierarchical h
      · rw [← Except.ok.inj h]
        exact hasParts_parseWithoutHost _ _

theorem ReadsBack.host_ne_empty {scheme host : String} (h : ReadsBack scheme host) :
    host ≠ "" := by
  obtain ⟨_, -, hparts⟩ := exists_hasParts h
  have hne := (hparts.isText host rfl).ne_nil
  rintro rfl
  exact hne rfl

/-- A host that is read as itself is read so whatever follows. -/
theorem parse_append {scheme host : String} (h : ReadsBack scheme host) (rest : String) :
    parse (scheme ++ "://" ++ host ++ "/" ++ rest) =
      .ok (afterHost (Kind.ofScheme scheme.toList) scheme.toList host.toList
        ('/' :: cleanEnd rest.toList)) := by
  unfold ReadsBack at h
  obtain ⟨chars, hscheme, hparts⟩ := exists_hasParts h
  have hchars : scheme.toList = chars := by
    have heq : scheme = String.ofList chars := hparts.scheme_eq
    rw [heq, String.toList_ofList]
  rw [← hchars] at hscheme
  have htext := hparts.isText host rfl
  have hclean (rest : String) :
      clean (scheme ++ "://" ++ host ++ "/" ++ rest).toList =
        scheme.toList ++ ':' :: '/' :: '/' :: (host.toList ++ '/' :: cleanEnd rest.toList) := by
    have hlist : (scheme ++ "://" ++ host ++ "/" ++ rest).toList =
        (scheme.toList ++ ':' :: '/' :: '/' :: (host.toList ++ ['/'])) ++ rest.toList := by
      simp [String.toList_append]
    rw [hlist, clean_append (by simp)]
    · simp
    · simp only [List.forall_mem_append, List.forall_mem_cons]
      exact ⟨hscheme.space_lt, by decide, by decide, by decide,
        fun c hc => Host.space_lt_of_mayHold (htext.mayHold c hc), by decide, by simp⟩
  have hhead (rest : List Char) :
      ∀ c ∈ (host.toList ++ rest).head?, Kind.special.isSlash c = false := by
    intro c hc
    rw [List.head?_append_of_ne_nil _ htext.ne_nil] at hc
    exact (Host.stays_of_mayHold (htext.mayHold c (List.mem_of_mem_head? hc)) .special).2.1
  have hroot : parseAfterSlashes (Kind.ofScheme scheme.toList) scheme.toList
      (host.toList ++ '/' :: cleanEnd "".toList) = .ok ⟨scheme, some host, "/", none, false⟩ := by
    have hclean := hclean ""
    rw [String.append_empty] at hclean
    rw [← parse_eq hscheme hclean (hhead _), h]
  have hreads := readsAsHost_of_parseAfterSlashes htext hroot (by rw [String.ofList_toList])
  rw [parse_eq hscheme (hclean rest) (hhead _), parseAfterSlashes_host htext hreads]

end DeepLinks.Url
