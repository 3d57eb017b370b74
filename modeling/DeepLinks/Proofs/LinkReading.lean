import DeepLinks.Proofs.Binding
import DeepLinks.Proofs.LinkText
import DeepLinks.Proofs.LocationPath
import DeepLinks.Proofs.PlainUrls

/-!
# Reading a link

The location of a link has the primary scheme and the first host, the values that stand for the
segments as its path, and the entries of the values as its query. It takes a reader that leaves
the scheme and the host as they are, and texts that stand for themselves wherever the link writes
them without encoding.
-/

namespace DeepLinks

open Percent (isEncoded)

/-- A text in the path of a link, with the value that the reader of its kind of URLs makes of it,
if need be by way of escapes. -/
structure ReadsAs (k : Url.Kind) (text value : String) : Prop where
  ne_empty : text ≠ ""
  isWhole : Url.Path.IsWhole k text.toList
  decode_eq : Percent.decode true
    (String.ofList (Url.escapeWhere Url.isEscapedInPath text.toList)) = .ok value

theorem readsAs_encode (k : Url.Kind) {value : String} (hne : value ≠ "") (hself : value ≠ ".")
    (hparent : value ≠ "..") : ReadsAs k (Percent.encode value) value := by
  have hplain := Url.Path.isPlain_encode hself hparent
  refine ⟨?_, hplain.isWhole k, ?_⟩
  · rw [ne_eq, Percent.encode_eq_empty_iff]
    exact hne
  · rw [hplain.escapeWhere_eq_self, String.ofList_toList, Percent.decode_encode]

/-- A text that its encoding leaves alone is its own encoding. -/
theorem readsAs_self (k : Url.Kind) {text : String} (hne : text ≠ "") (hself : text ≠ ".")
    (hparent : text ≠ "..") (h : Percent.encode text = text) : ReadsAs k text text := by
  have hencode := readsAs_encode k hne hself hparent
  rw [h] at hencode
  exact hencode

/-- Reading leaves the literals alone that stand at the ends of the path of a link with the given
values: one that is a drive letter in the link of a file, and one with a blank at its end in a link
without a query. -/
structure Route.KeepsEnds (r : Route) (k : Url.Kind) (values : Bindings) : Prop where
  first : k = .file → ∀ text, r.segments.head? = some (.literal text) →
    Url.Path.isDriveLetter text.toList = false
  last : (∀ p ∈ r.queryParameters, values.contains p.name = false) →
    ∀ text, r.segments.getLast? = some (.literal text) → ∀ c ∈ text.toList.getLast?, ' ' < c

theorem Route.keepsEnds_of_encode {r : Route}
    (h : ∀ text, .literal text ∈ r.segments → Percent.encode text = text) (k : Url.Kind)
    (values : Bindings) : r.KeepsEnds k values := by
  have hencoded (text : String) (htext : .literal text ∈ r.segments) :
      ∀ c ∈ text.toList, isEncoded c = true :=
    fun c hc => Percent.isEncoded_of_mem_encode (s := text) ((h text htext).symm ▸ hc)
  constructor
  · intro _ text htext
    exact Url.Path.isDriveLetter_of_isEncoded (hencoded text (List.mem_of_mem_head? htext))
  · intro _ text htext
    exact Url.Path.space_lt_getLast?_of_isEncoded (hencoded text (List.mem_of_getLast? htext))

theorem Route.KeepsEnds.linkPieces {r : Route} {k : Url.Kind} {values : Bindings}
    (h : r.KeepsEnds k values) {texts : List String} {entries : List (Option String)}
    (htexts : List.Forall₂ (fun s text => r.segmentText values s = .ok text) r.segments texts)
    (hentries : List.Forall₂ (fun p entry => r.queryText values p = .ok entry) r.queryParameters
      entries) :
    Url.Path.KeepsEnds k (linkQuery? (entries.filterMap id)).isNone (linkPieces texts) := by
  have hencoded (value : String) : ∀ c ∈ (Percent.encode value).toList, isEncoded c = true :=
    fun c hc => Percent.isEncoded_of_mem_encode hc
  constructor
  · intro hfile
    refine forall_mem_head?_linkPieces rfl fun text htext => ?_
    obtain ⟨s, hs, hread⟩ := forall₂_head? htexts text htext
    rcases segmentText_eq_ok_iff.mp hread with rfl | ⟨_, value, -, -, -, rfl⟩
    · exact h.first hfile text hs
    · exact Url.Path.isDriveLetter_of_isEncoded (hencoded value)
  · intro hnone
    have hempty : ∀ p ∈ r.queryParameters, values.contains p.name = false := by
      rw [filterMap_queryText hentries] at hnone
      simpa [linkQuery?, queryEntries, Bindings.contains] using hnone
    refine forall_mem_getLast?_linkPieces (by simp) fun text htext => ?_
    obtain ⟨s, hs, hread⟩ := forall₂_getLast? htexts text htext
    rcases segmentText_eq_ok_iff.mp hread with rfl | ⟨_, value, -, -, -, rfl⟩
    · exact h.last hempty text hs
    · exact Url.Path.space_lt_getLast?_of_isEncoded (hencoded value)

/-- The values that stand for the segments of a link, if its texts are read one by one. -/
theorem Route.exists_path {r : Route} {values : Bindings} {R : String → String → Prop}
    {segments : List Segment} {texts : List String}
    (h : List.Forall₂ (fun s text => r.segmentText values s = .ok text) segments texts)
    (hliterals : ∀ text, .literal text ∈ segments → R text text)
    (hvalues : ∀ name ∈ segments.filterMap Segment.name?, ∀ value,
      values.value? name = some value → value ≠ "" → R (Percent.encode value) value) :
    ∃ path, List.Forall₂ (Segment.StandsFor values) segments path ∧ List.Forall₂ R texts path := by
  induction h with
  | nil => exact ⟨[], .nil, .nil⟩
  | @cons s text segments texts hs _ ih =>
    have hliteralsRest (text : String) (htext : .literal text ∈ segments) : R text text :=
      hliterals text (List.mem_cons_of_mem _ htext)
    rcases segmentText_eq_ok_iff.mp hs with rfl | ⟨name, value, rfl, hvalue, hne, rfl⟩
    · simp only [List.filterMap_cons, Segment.name?_literal] at hvalues
      obtain ⟨path, hpath, htexts⟩ := ih hliteralsRest hvalues
      exact ⟨text :: path, .cons rfl hpath, .cons (hliterals text List.mem_cons_self) htexts⟩
    · simp only [List.filterMap_cons, Segment.name?_placeholder, List.forall_mem_cons] at hvalues
      obtain ⟨path, hpath, htexts⟩ := ih hliteralsRest hvalues.2
      exact ⟨value :: path, .cons hvalue hpath, .cons (hvalues.1 value hvalue hne) htexts⟩

/-- No value that stands in the path of a location is a dot segment. -/
theorem Location.ne_dots_of_standsFor {raw : String} {u : Location} (hu : parse raw = .ok u)
    {values : Bindings} {segments : List Segment}
    (h : List.Forall₂ (Segment.StandsFor values) segments u.path) :
    ∀ name ∈ segments.filterMap Segment.name?,
      values.value? name ≠ some "." ∧ values.value? name ≠ some ".." := by
  intro name hname
  obtain ⟨value, hmem, hvalue⟩ := Route.exists_value_of_standsFor h hname
  obtain ⟨-, hself, hparent⟩ := of_mem_path hu hmem
  simp [hvalue, hself, hparent]

@[simp] theorem lookup_queryEntries (values : Bindings) (ps : List Parameter) (k : String) :
    (queryEntries values ps).lookup k =
      if k ∈ ps.map (·.name) then values.find? k else none :=
  Bindings.lookup_filterMap_name Parameter.name values.find? ps k

/-- A text in the query of a link, with the entry that the reader of its kind of URLs makes of
it. -/
structure IsQueryText (k : Url.Kind) (text : String) (entry : String × Option String) : Prop where
  ne_empty : text ≠ ""
  stays : ∀ c ∈ text.toList, Url.isQueryChar c = true ∨ Url.isKeyChar k.isSpecial c = true
  not_mem : '&' ∉ text.toList
  queryEntry_eq : Location.queryEntry text.toList = .ok entry

theorem of_mem_entryText {e : String × Option String} {c : Char} (h : c ∈ (entryText e).toList) :
    c ∈ e.1.toList ∨ c = '=' ∨ isEncoded c = true := by
  obtain ⟨name, value⟩ := e
  cases value with
  | none => exact .inl h
  | some value =>
    rw [toList_entryText_some, List.mem_append, List.mem_cons] at h
    exact h.imp_right fun h => h.imp_right Percent.isEncoded_of_mem_encode

theorem amp_not_mem_entryText {e : String × Option String} (h : '&' ∉ e.1.toList) :
    '&' ∉ (entryText e).toList := by
  intro hmem
  rcases of_mem_entryText hmem with hc | hc | hc
  · exact h hc
  · contradiction
  · exact absurd hc (by decide)

/-- What is written for an entry is read as that entry, as the first `=` follows the name. -/
theorem queryEntry_entryText {e : String × Option String} (h : '=' ∉ e.1.toList) :
    Location.queryEntry (entryText e).toList = .ok e := by
  obtain ⟨name, value⟩ := e
  unfold Location.queryEntry
  cases value with
  | none => rw [entryText, Text.cut?_eq_none_iff.mpr h, String.ofList_toList]
  | some value =>
    rw [toList_entryText_some, Text.cut?_eq_some_iff.mpr ⟨rfl, h⟩]
    dsimp only
    rw [String.ofList_toList, String.ofList_toList, Percent.decode_encode]
    rfl

section IsQueryText

variable {k : Url.Kind}

theorem isQueryText_entryText {e : String × Option String} (hne : e.1 ≠ "")
    (h : ∀ c ∈ e.1.toList, Url.isKeyChar k.isSpecial c = true) :
    IsQueryText k (entryText e) e := by
  obtain ⟨hamp, hequals⟩ := Url.not_mem_of_isKeyChar h
  refine ⟨fun hempty => ?_, fun c hc => ?_, amp_not_mem_entryText hamp,
    queryEntry_entryText hequals⟩
  · have hread := queryEntry_entryText hequals
    rw [hempty] at hread
    exact hne (congrArg Prod.fst (Except.ok.inj hread)).symm
  · rcases of_mem_entryText hc with hc | rfl | hc
    · exact .inr (h c hc)
    · exact .inl (by decide)
    · exact .inr (Url.isKeyChar_of_isEncoded hc k.isSpecial)

theorem forall₂_isQueryText {values : Bindings} {ps : List Parameter}
    (hnames : ∀ p ∈ ps, p.name ≠ "" ∧ (values.contains p.name = true →
      ∀ c ∈ p.name.toList, Url.isKeyChar k.isSpecial c = true)) :
    List.Forall₂ (IsQueryText k) ((queryEntries values ps).map entryText)
      (queryEntries values ps) := by
  rw [List.forall₂_map_left_iff, List.forall₂_same]
  intro e he
  obtain ⟨p, hp, hname, hvalue⟩ := mem_queryEntries_iff.mp he
  obtain ⟨hne, hkeys⟩ := hnames p hp
  have hkeys := hkeys (Bindings.contains_eq_true_iff.mpr ⟨e.2, hvalue⟩)
  rw [hname] at hne hkeys
  exact isQueryText_entryText hne hkeys

theorem Location.queryBindings_eq_ok {texts : List String} {es : List (String × Option String)}
    (h : List.Forall₂ (IsQueryText k) texts es) :
    queryBindings (((linkQuery? texts).map String.ofList).getD "") =
      .ok (es.foldl (fun b e => b.insertIfNew e.1 e.2) ∅) := by
  have hspec : ∀ text ∈ texts, '&' ∉ text.toList ∧ text.toList ≠ [] := by
    refine forall_mem_of_forall₂ h fun text entry ht => ⟨ht.not_mem, ?_⟩
    rw [ne_eq, String.toList_eq_nil_iff]
    exact ht.ne_empty
  by_cases hnil : texts = []
  · subst hnil
    cases h
    rfl
  · have hne : texts.map String.toList ≠ [] := by simpa using hnil
    have hpieces : Text.pieces '&' (['&'].intercalate (texts.map String.toList)) =
        texts.map String.toList := by
      refine Text.pieces_intercalate hne ?_
      rw [List.forall_mem_map]
      exact fun text htext => (hspec text htext).1
    have hfilter : (texts.map String.toList).filter (· ≠ []) = texts.map String.toList := by
      simpa using fun text htext => (hspec text htext).2
    have hentries : (texts.map String.toList).mapM queryEntry = .ok es := by
      rw [mapM_eq_ok_iff, List.forall₂_map_left_iff]
      exact h.imp fun _ _ ht => ht.queryEntry_eq
    simp only [linkQuery?, hnil, ↓reduceIte, Option.map_some, Option.getD_some, queryBindings,
      String.toList_ofList, hpieces, hfilter, hentries]
    rfl

/-- What is written in a query with such entries is read as it is written. -/
theorem map_readQuery_linkQuery? {texts : List String} {es : List (String × Option String)}
    (h : List.Forall₂ (IsQueryText k) texts es) :
    (linkQuery? texts).map (fun q => String.ofList (Url.readQuery k q)) =
      (linkQuery? texts).map String.ofList := by
  unfold linkQuery?
  split
  · rfl
  · rw [Option.map_some, Option.map_some, Url.readQuery_eq_self]
    refine Text.forall_mem_intercalate (.inl (by decide)) ?_
    rw [List.forall_mem_map]
    exact forall_mem_of_forall₂ h fun _ _ ht => ht.stays

end IsQueryText

theorem Location.pathSegments_linkPieces {k : Url.Kind} {texts path : List String}
    (h : List.Forall₂ (ReadsAs k) texts path) :
    pathSegments (String.ofList (Url.Path.render
      ((linkPieces texts).map (Url.escapeWhere Url.isEscapedInPath)))) = .ok path := by
  have hslash : ∀ text ∈ texts, '/' ∉ text.toList := by
    refine forall_mem_of_forall₂ h fun text _ ht hmem => ?_
    have hwhole : ∀ p ∈ [text.toList], Url.Path.IsWhole k p := by simpa using ht.isWhole
    exact Url.Path.slash_not_mem_of_isWhole hwhole _ List.mem_cons_self hmem
  have hslashEscaped : ∀ p ∈ (linkPieces texts).map (Url.escapeWhere Url.isEscapedInPath),
      '/' ∉ p := by
    rw [List.forall_mem_map]
    intro p hp hmem
    rcases Url.of_mem_escapeWhere hmem with ⟨hmem, -⟩ | hencoded
    · exact forall_mem_linkPieces (P := fun p => '/' ∉ p) (by simp) hslash p hp hmem
    · exact absurd hencoded (by decide)
  have hfilter : ((linkPieces texts).map (Url.escapeWhere Url.isEscapedInPath)).filter (· ≠ []) =
      texts.map fun text => Url.escapeWhere Url.isEscapedInPath text.toList := by
    have hkeep : (fun p => decide (p ≠ [])) ∘ Url.escapeWhere Url.isEscapedInPath =
        fun p => decide (p ≠ []) := by
      funext p
      simp [Url.escapeWhere_eq_nil_iff]
    have hne : ∀ text ∈ texts, text ≠ "" := forall_mem_of_forall₂ h fun _ _ ht => ht.ne_empty
    rw [List.filter_map, hkeep, filter_linkPieces hne, List.map_map]
    rfl
  rw [pathSegments_render hslashEscaped, hfilter, mapM_eq_ok_iff, List.forall₂_map_left_iff]
  exact h.imp fun _ _ ht => ht.decode_eq

/-- Once the texts of its path are read one by one, the location of a link only hangs on its
query. -/
theorem Location.parse_link {r : Route} {scheme url : String} {texts path entries : List String}
    (hreads : Url.ReadsBack scheme r.hosts.first)
    (htexts : List.Forall₂ (ReadsAs (Url.Kind.ofScheme scheme.toList)) texts path)
    (hends : Url.Path.KeepsEnds (Url.Kind.ofScheme scheme.toList) (linkQuery? entries).isNone
      (linkPieces texts))
    (hurl : url = scheme ++ "://" ++ r.hosts.first ++
      String.ofList
        (Url.Path.render (linkPieces texts) ++ (linkQuery? entries).elim [] ('?' :: ·))) :
    parse url = Except.mapError .undecodable ((queryBindings (((linkQuery? entries).map fun q =>
        String.ofList (Url.readQuery (Url.Kind.ofScheme scheme.toList) q)).getD "")).map
      (⟨scheme, r.hosts.first, path, ·⟩)) := by
  have hwhole : ∀ p ∈ linkPieces texts,
      Url.Path.IsWhole (Url.Kind.ofScheme scheme.toList) p := by
    refine forall_mem_linkPieces ⟨by simp, rfl, rfl⟩ ?_
    exact forall_mem_of_forall₂ htexts fun _ _ ht => ht.isWhole
  have hread := Url.parse_pieces hreads (linkPieces_ne_nil texts) hwhole hends
  rw [hurl, parse, hread]
  dsimp only
  rw [ofUrl]
  dsimp only
  rw [if_neg (by simpa using hreads.host_ne_empty), pathSegments_linkPieces htexts]
  rfl

/-- What a link is read as, if the literals of its route are read as themselves and no value in
its path is a dot segment. -/
theorem Route.exists_parse_link {r : Route} {values : Bindings} {scheme url : String}
    (hlink : r.link scheme values = .ok url) (hreads : Url.ReadsBack scheme r.hosts.first)
    (hliterals : ∀ text, .literal text ∈ r.segments →
      ReadsAs (Url.Kind.ofScheme scheme.toList) text text)
    (hends : r.KeepsEnds (Url.Kind.ofScheme scheme.toList) values)
    (hvalues : ∀ name ∈ r.placeholders,
      values.value? name ≠ some "." ∧ values.value? name ≠ some "..") :
    ∃ path entries, List.Forall₂ (Segment.StandsFor values) r.segments path ∧
      List.Forall₂ (fun p entry => r.queryText values p = .ok entry) r.queryParameters entries ∧
      Location.parse url = Except.mapError .undecodable
        ((Location.queryBindings (((linkQuery? (entries.filterMap id)).map fun q =>
          String.ofList (Url.readQuery (Url.Kind.ofScheme scheme.toList) q)).getD "")).map
        (⟨scheme, r.hosts.first, path, ·⟩)) := by
  obtain ⟨texts, entries, htexts, hentries, hurl⟩ := link_eq_ok_iff.mp hlink
  have hends := hends.linkPieces htexts hentries
  obtain ⟨path, hpath, htexts⟩ := exists_path htexts hliterals
    fun name hname value hvalue hne => by
      have hdots := hvalues name hname
      simp only [hvalue, ne_eq, Option.some.injEq] at hdots
      exact readsAs_encode _ hne hdots.1 hdots.2
  exact ⟨path, entries, hpath, hentries, Location.parse_link hreads htexts hends hurl⟩

/-- The location of a link whose literals and keys are read as themselves. -/
theorem Route.exists_location_of_isKeyChar {r : Route} {values : Bindings} {scheme url : String}
    (hlink : r.link scheme values = .ok url) (hreads : Url.ReadsBack scheme r.hosts.first)
    (hliterals : ∀ text, .literal text ∈ r.segments →
      ReadsAs (Url.Kind.ofScheme scheme.toList) text text)
    (hends : r.KeepsEnds (Url.Kind.ofScheme scheme.toList) values)
    (hnames : ∀ p ∈ r.queryParameters, p.name ≠ "" ∧ (values.contains p.name = true →
      ∀ c ∈ p.name.toList, Url.isKeyChar (Url.Kind.ofScheme scheme.toList).isSpecial c = true))
    (hvalues : ∀ name ∈ r.placeholders,
      values.value? name ≠ some "." ∧ values.value? name ≠ some "..") :
    ∃ path query, Location.parse url = .ok ⟨scheme, r.hosts.first, path, query⟩ ∧
      List.Forall₂ (Segment.StandsFor values) r.segments path ∧
      ∀ k, query.find? k =
        if k ∈ r.queryParameters.map (·.name) then values.find? k else none := by
  obtain ⟨path, entries, hpath, hentries, hparse⟩ :=
    exists_parse_link hlink hreads hliterals hends hvalues
  have hentries := filterMap_queryText hentries ▸ forall₂_isQueryText hnames
  refine ⟨path, (queryEntries values r.queryParameters).foldl (fun b e => b.insertIfNew e.1 e.2) ∅,
    ?_, hpath, fun k => ?_⟩
  · rw [hparse, map_readQuery_linkQuery? hentries, Location.queryBindings_eq_ok hentries]
    rfl
  · simp [lookup_queryEntries]

/-- The location of the link of a route whose literals are read as themselves. -/
theorem Route.exists_location_of_readsAs {r : Route} {values : Bindings} {scheme url : String}
    (hlink : r.link scheme values = .ok url) (hreads : Url.ReadsBack scheme r.hosts.first)
    (hliterals : ∀ text, .literal text ∈ r.segments →
      ReadsAs (Url.Kind.ofScheme scheme.toList) text text)
    (hends : r.KeepsEnds (Url.Kind.ofScheme scheme.toList) values)
    (hnames : ∀ p ∈ r.queryParameters, p.name ≠ "" ∧ Percent.encode p.name = p.name)
    (hvalues : ∀ name ∈ r.placeholders,
      values.value? name ≠ some "." ∧ values.value? name ≠ some "..") :
    ∃ path query, Location.parse url = .ok ⟨scheme, r.hosts.first, path, query⟩ ∧
      List.Forall₂ (Segment.StandsFor values) r.segments path ∧
      ∀ k, query.find? k =
        if k ∈ r.queryParameters.map (·.name) then values.find? k else none := by
  refine exists_location_of_isKeyChar hlink hreads hliterals hends (fun p hp => ?_) hvalues
  obtain ⟨hne, hencode⟩ := hnames p hp
  refine ⟨hne, fun _ c hc => ?_⟩
  rw [← hencode] at hc
  exact Url.isKeyChar_of_isEncoded (Percent.isEncoded_of_mem_encode hc) _

/-- The location of the link of a route whose literals are their own encodings. -/
theorem Route.exists_location {r : Route} {values : Bindings} {scheme url : String}
    (hlink : r.link scheme values = .ok url) (hreads : Url.ReadsBack scheme r.hosts.first)
    (hliterals : ∀ text, .literal text ∈ r.segments →
      text ≠ "" ∧ Percent.encode text = text ∧ text ≠ "." ∧ text ≠ "..")
    (hnames : ∀ p ∈ r.queryParameters, p.name ≠ "" ∧ Percent.encode p.name = p.name)
    (hvalues : ∀ name ∈ r.placeholders,
      values.value? name ≠ some "." ∧ values.value? name ≠ some "..") :
    ∃ path query, Location.parse url = .ok ⟨scheme, r.hosts.first, path, query⟩ ∧
      List.Forall₂ (Segment.StandsFor values) r.segments path ∧
      ∀ k, query.find? k =
        if k ∈ r.queryParameters.map (·.name) then values.find? k else none := by
  refine exists_location_of_readsAs hlink hreads (fun text htext => ?_)
    (keepsEnds_of_encode (fun text htext => (hliterals text htext).2.1) _ _) hnames hvalues
  obtain ⟨hne, hencode, hself, hparent⟩ := hliterals text htext
  exact readsAs_self _ hne hself hparent hencode

end DeepLinks
