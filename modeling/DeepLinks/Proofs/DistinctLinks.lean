import DeepLinks.Proofs.LinkReading
import DeepLinks.Proofs.TableContents

/-!
# Links of different values

A link can be taken apart without being read as a URL. Its path ends at the first question mark,
since neither a literal nor an encoding holds one, and falls into its segments at the slashes; its
query falls into its entries at the ampersands. So a route has the same link for two sets of values
only if they agree on its placeholders and parameters, whatever its hosts and literals are.
-/

namespace DeepLinks

/-- The first separator ends what stands before it, if anything follows. -/
theorem append_elim_inj {sep : Char} {s t : List Char} {x y : Option (List Char)} (hs : sep ∉ s)
    (ht : sep ∉ t) (h : s ++ x.elim [] (sep :: ·) = t ++ y.elim [] (sep :: ·)) :
    s = t ∧ x = y := by
  have hcut {s : List Char} (hs : sep ∉ s) (x : Option (List Char)) :
      Text.cut? sep (s ++ x.elim [] (sep :: ·)) = x.map (s, ·) := by
    cases x with
    | none =>
      show Text.cut? sep (s ++ []) = none
      rw [List.append_nil]
      exact Text.cut?_eq_none_iff.mpr hs
    | some x => exact Text.cut?_eq_some_iff.mpr ⟨rfl, hs⟩
  have hcuts : x.map (s, ·) = y.map (t, ·) := by
    rw [← hcut hs, ← hcut ht, h]
  cases x with
  | none =>
    cases y with
    | none => simpa using h
    | some y => simp at hcuts
  | some x =>
    cases y with
    | none => simp at hcuts
    | some y => simpa using hcuts

theorem Url.Path.render_inj {ps qs : List Url.Path.Segment} (hps : ∀ p ∈ ps, '/' ∉ p)
    (hqs : ∀ q ∈ qs, '/' ∉ q) (h : render ps = render qs) : ps = qs := by
  have hpieces := pieces_render hps
  rw [h, pieces_render hqs] at hpieces
  exact (List.cons.inj hpieces).2.symm

/-- The root has one piece, like a path with an empty segment, so the number of segments counts. -/
theorem linkPieces_inj {texts texts' : List String} (hlength : texts.length = texts'.length)
    (h : linkPieces texts = linkPieces texts') : texts = texts' := by
  have hnil : texts = [] ↔ texts' = [] := by
    rw [← List.length_eq_zero_iff, ← List.length_eq_zero_iff, hlength]
  unfold linkPieces at h
  by_cases hempty : texts = []
  · rw [hempty, hnil.mp hempty]
  · rw [if_neg hempty, if_neg (mt hnil.mpr hempty)] at h
    exact List.map_inj_right (fun _ _ => String.toList_inj.mp) |>.mp h

theorem linkQuery?_inj {entries entries' : List String} (hamp : ∀ e ∈ entries, '&' ∉ e.toList)
    (hamp' : ∀ e ∈ entries', '&' ∉ e.toList) (h : linkQuery? entries = linkQuery? entries') :
    entries = entries' := by
  unfold linkQuery? at h
  by_cases hne : entries = []
  · by_cases hne' : entries' = []
    · rw [hne, hne']
    · simp [hne, hne'] at h
  · by_cases hne' : entries' = []
    · simp [hne, hne'] at h
    · rw [if_neg hne, if_neg hne', Option.some.injEq] at h
      have hpieces {entries : List String} (hne : entries ≠ [])
          (hamp : ∀ e ∈ entries, '&' ∉ e.toList) :
          Text.pieces '&' (['&'].intercalate (entries.map String.toList)) =
            entries.map String.toList := by
        refine Text.pieces_intercalate (by simpa using hne) ?_
        rw [List.forall_mem_map]
        exact hamp
      have htexts := hpieces hne hamp
      rw [h, hpieces hne' hamp'] at htexts
      exact List.map_inj_right (fun _ _ => String.toList_inj.mp) |>.mp htexts.symm

theorem map_entryText_inj {es es' : List (String × Option String)}
    (hequals : ∀ e ∈ es, '=' ∉ e.1.toList) (hequals' : ∀ e ∈ es', '=' ∉ e.1.toList)
    (h : es.map entryText = es'.map entryText) : es = es' := by
  have hread {es : List (String × Option String)} (hequals : ∀ e ∈ es, '=' ∉ e.1.toList) :
      (es.map entryText).mapM (fun text => Location.queryEntry text.toList) = .ok es := by
    rw [mapM_eq_ok_iff, List.forall₂_map_left_iff, List.forall₂_same]
    exact fun e he => queryEntry_entryText (hequals e he)
  have hes := hread hequals
  rw [h, hread hequals'] at hes
  exact (Except.ok.inj hes).symm

/-- The texts of a link are told apart by its first question mark, its slashes and its
ampersands. -/
theorem linkText_inj {texts texts' entries entries' : List String}
    (hlength : texts.length = texts'.length)
    (hpieces : ∀ p ∈ linkPieces texts, '/' ∉ p ∧ '?' ∉ p)
    (hpieces' : ∀ p ∈ linkPieces texts', '/' ∉ p ∧ '?' ∉ p)
    (hamp : ∀ e ∈ entries, '&' ∉ e.toList) (hamp' : ∀ e ∈ entries', '&' ∉ e.toList)
    (h : Url.Path.render (linkPieces texts) ++ (linkQuery? entries).elim [] ('?' :: ·) =
      Url.Path.render (linkPieces texts') ++ (linkQuery? entries').elim [] ('?' :: ·)) :
    texts = texts' ∧ entries = entries' := by
  have hquestion {ps : List Url.Path.Segment} (hps : ∀ p ∈ ps, '/' ∉ p ∧ '?' ∉ p) :
      '?' ∉ Url.Path.render ps := by
    rw [Url.Path.render, List.mem_flatMap]
    rintro ⟨p, hp, hmem⟩
    rcases List.mem_cons.mp hmem with hc | hc
    · contradiction
    · exact (hps p hp).2 hc
  obtain ⟨hpath, hquery⟩ := append_elim_inj (hquestion hpieces) (hquestion hpieces') h
  have hsame : linkPieces texts = linkPieces texts' :=
    Url.Path.render_inj (fun p hp => (hpieces p hp).1) (fun p hp => (hpieces' p hp).1) hpath
  exact ⟨linkPieces_inj hlength hsame, linkQuery?_inj hamp hamp' hquery⟩

namespace Route

variable {r : Route}

/-- What is written for a segment neither ends the segment nor the path. -/
theorem not_mem_of_mem_linkPieces {values : Bindings} {segments : List Segment}
    {texts : List String} (hsegments : Template.IsWellFormed segments)
    (h : List.Forall₂ (fun s text => r.segmentText values s = .ok text) segments texts) :
    ∀ piece ∈ linkPieces texts, '/' ∉ piece ∧ '?' ∉ piece := by
  refine forall_mem_linkPieces (by simp) ?_
  intro text htext
  obtain ⟨s, hs, hstext⟩ := exists_of_forall₂_right h text htext
  rcases segmentText_eq_ok_iff.mp hstext with rfl | ⟨name, value, -, -, -, rfl⟩
  · obtain ⟨-, hslash, hquestion, -⟩ := hsegments.literal text hs
    exact ⟨hslash, hquestion⟩
  · have hencoded : ∀ c ∈ (Percent.encode value).toList, Percent.isEncoded c = true :=
      fun c hc => Percent.isEncoded_of_mem_encode hc
    exact ⟨fun hc => absurd (hencoded _ hc) (by decide),
      fun hc => absurd (hencoded _ hc) (by decide)⟩

theorem not_mem_of_mem_queryEntries
    (hnames : ∀ p ∈ r.queryParameters, '&' ∉ p.name.toList ∧ '=' ∉ p.name.toList)
    (values : Bindings) :
    ∀ e ∈ queryEntries values r.queryParameters, '&' ∉ e.1.toList ∧ '=' ∉ e.1.toList := by
  intro e he
  obtain ⟨p, hp, hname, -⟩ := mem_queryEntries_iff.mp he
  rw [← hname]
  exact hnames p hp

/-- Values that are written alike in a path are alike. -/
theorem value?_eq_of_segmentText {values values' : Bindings} {segments : List Segment}
    {texts : List String}
    (h : List.Forall₂ (fun s text => r.segmentText values s = .ok text) segments texts)
    (h' : List.Forall₂ (fun s text => r.segmentText values' s = .ok text) segments texts) :
    ∀ name ∈ segments.filterMap Segment.name?,
      ∃ value, values.value? name = some value ∧ values'.value? name = some value := by
  induction h with
  | nil => simp
  | @cons s text segments texts hs _ ih =>
    obtain ⟨hs', hrest'⟩ := List.forall₂_cons.mp h'
    rcases segmentText_eq_ok_iff.mp hs with rfl | ⟨name, value, rfl, hvalue, -, rfl⟩
    · simpa [List.filterMap_cons] using ih hrest'
    · obtain ⟨name', value', hname, hvalue', -, htext⟩ :=
        (segmentText_eq_ok_iff.mp hs').resolve_left (by simp)
      obtain rfl := Segment.placeholder.inj hname
      obtain rfl := Percent.encode_injective htext
      rw [List.filterMap_cons_some (Segment.name?_placeholder name), List.forall_mem_cons]
      exact ⟨⟨value, hvalue, hvalue'⟩, ih hrest'⟩

/-- Values with the same link agree on what the link is made of. -/
theorem find?_eq_of_link_eq_ok {scheme url : String} {values values' : Bindings}
    (hsegments : Template.IsWellFormed r.segments)
    (hnames : ∀ p ∈ r.queryParameters, '&' ∉ p.name.toList ∧ '=' ∉ p.name.toList)
    (h : r.link scheme values = .ok url) (h' : r.link scheme values' = .ok url) :
    (∀ name ∈ r.placeholders, ∃ value,
      values.value? name = some value ∧ values'.value? name = some value) ∧
    ∀ p ∈ r.queryParameters, values.find? p.name = values'.find? p.name := by
  obtain ⟨texts, entries, htexts, hentries, hurl⟩ := link_eq_ok_iff.mp h
  obtain ⟨texts', entries', htexts', hentries', hurl'⟩ := link_eq_ok_iff.mp h'
  have htext := hurl.symm.trans hurl'
  simp only [filterMap_queryText hentries, filterMap_queryText hentries', String.append_right_inj,
    String.ofList_inj] at htext
  have hentry := not_mem_of_mem_queryEntries hnames
  have hamp (values : Bindings) :
      ∀ text ∈ (queryEntries values r.queryParameters).map entryText, '&' ∉ text.toList := by
    rw [List.forall_mem_map]
    exact fun e he => amp_not_mem_entryText (hentry values e he).1
  obtain ⟨rfl, hsame⟩ := linkText_inj (htexts.length_eq.symm.trans htexts'.length_eq)
    (not_mem_of_mem_linkPieces hsegments htexts) (not_mem_of_mem_linkPieces hsegments htexts')
    (hamp values) (hamp values') htext
  refine ⟨value?_eq_of_segmentText htexts htexts', fun p hp => ?_⟩
  have hentries : queryEntries values r.queryParameters = queryEntries values' r.queryParameters :=
    map_entryText_inj (fun e he => (hentry values e he).2) (fun e he => (hentry values' e he).2)
      hsame
  have hname : p.name ∈ r.queryParameters.map (·.name) := List.mem_map_of_mem hp
  simpa [hentries, lookup_queryEntries, hname, eq_comm] using
    lookup_queryEntries values r.queryParameters p.name

end Route

namespace Table

/-- Values that a route writes one and the same link for agree on all of its placeholders and
parameters: both have no entry, both have one without a value, or both have the same value. Hosts
and literals may be any, only names in the query must not hold a separator of the query. -/
theorem find?_eq_of_link_eq {m : Manifest} {t : Table} (ht : m.build = .ok t) {r : Route}
    (hr : r ∈ t.routes)
    (hnames : ∀ p ∈ r.queryParameters, '&' ∉ p.name.toList ∧ '=' ∉ p.name.toList)
    {values values' : Bindings} {url : String} (h : t.link r.name values = .ok url)
    (h' : t.link r.name values' = .ok url) :
    (∀ name ∈ r.placeholders, ∃ value,
      values.value? name = some value ∧ values'.value? name = some value) ∧
    ∀ p ∈ r.parameters, values.find? p.name = values'.find? p.name := by
  have hwf := m.wellFormed_of_build ht
  rw [link, hwf.route?_eq_some hr] at h h'
  obtain ⟨hplaceholders, hquery⟩ := Route.find?_eq_of_link_eq_ok
    (Manifest.isSound_of_build ht hr).segments hnames h h'
  refine ⟨hplaceholders, fun p hp => ?_⟩
  by_cases hname : p.name ∈ r.placeholders
  · obtain ⟨value, hvalue, hvalue'⟩ := hplaceholders p.name hname
    rw [Bindings.value?, Option.join_eq_some_iff] at hvalue hvalue'
    rw [hvalue, hvalue']
  · exact hquery p (Route.mem_queryParameters.mpr ⟨hp, hname⟩)

/-- Reserved characters in the values, and an entry that the route does not declare. -/
theorem find?_eq_of_link_eq_shop :
    Manifest.shop.build = .ok Manifest.shopTable ∧
    Manifest.shopTable.link "item" (Bindings.ofList
        [("id", some "a/b?tab=c"), ("tab", some "&ref"), ("utm", some "mail")]) =
      .ok "https://example.com/items/a%2Fb%3Ftab%3Dc?tab=%26ref" ∧
    Manifest.shopTable.link "item" (Bindings.ofList
        [("tab", some "&ref"), ("id", some "a/b?tab=c"), ("items", none)]) =
      .ok "https://example.com/items/a%2Fb%3Ftab%3Dc?tab=%26ref" ∧
    ∀ p ∈ Manifest.shopTable.routes[0].parameters,
      (Bindings.ofList [("id", some "a/b?tab=c"), ("tab", some "&ref"),
        ("utm", some "mail")]).find? p.name =
      (Bindings.ofList [("tab", some "&ref"), ("id", some "a/b?tab=c"),
        ("items", none)]).find? p.name := by
  have hlink : Manifest.shopTable.link "item" (Bindings.ofList
      [("id", some "a/b?tab=c"), ("tab", some "&ref"), ("utm", some "mail")]) =
        .ok "https://example.com/items/a%2Fb%3Ftab%3Dc?tab=%26ref" := by decide +kernel
  have hlink' : Manifest.shopTable.link "item" (Bindings.ofList
      [("tab", some "&ref"), ("id", some "a/b?tab=c"), ("items", none)]) =
        .ok "https://example.com/items/a%2Fb%3Ftab%3Dc?tab=%26ref" := by decide +kernel
  have hitem : Manifest.shopTable.routes[0] ∈ Manifest.shopTable.routes :=
    List.getElem_mem (by decide)
  exact ⟨Manifest.build_shop, hlink, hlink',
    (find?_eq_of_link_eq Manifest.build_shop hitem (by decide +kernel) hlink hlink').2⟩

end Table

end DeepLinks
