import DeepLinks.Proofs.LinkRoundTrip
import DeepLinks.Proofs.PathReading
import DeepLinks.Proofs.TableContents

/-!
# Links of matches

What a URL leads to can be written as a link again: the route is found by its name, a placeholder
stands for a segment of a path, which is not empty, and no parameter is left without an entry. The
link leads back to the match if its literals survive being written as they are.
-/

namespace DeepLinks

/-- What a route has bound is enough for a link of it. -/
theorem Route.exists_link_of_bind {r : Route} (h : r.IsSound) {raw : String} {u : Location}
    (hu : Location.parse raw = .ok u) {b : Bindings} (hb : r.bind u = .ok b) (scheme : String) :
    ∃ url, r.link scheme b = .ok url := by
  obtain ⟨hpath, hfind⟩ := spec_of_bind h.segments.names_nodup h.parameters_nodup hb
  refine exists_link_iff.mpr ⟨fun name hname => ?_, fun p hp _ => ?_⟩
  · obtain ⟨value, hvalue, hstands⟩ := exists_value_of_standsFor hpath hname
    exact ⟨value, hstands, (Location.of_mem_path hu hvalue).1⟩
  · have hmem : p.name ∈ r.parameters.map (·.name) :=
      List.mem_map_of_mem (mem_queryParameters.mp hp).1
    rw [Bindings.contains_eq_true_iff, hfind, if_pos (.inr hmem)]
    exact ⟨_, rfl⟩

namespace Table

/-- Whatever a URL leads to, by the search or by one route, has a link. -/
theorem exists_link_of_match {m : Manifest} {t : Table} (ht : m.build = .ok t) {url : String}
    {d : Deeplink} (hd : t.resolve url = some d ∨ ∃ name, t.resolveRoute name url = some d) :
    ∃ link, t.link d.route d.parameters = .ok link := by
  obtain ⟨r, hr, hattempt⟩ : ∃ r ∈ t.routes, t.attempt url r = some d := by
    rcases hd with hd | ⟨name, hd⟩
    · exact exists_of_resolve_eq_some hd
    · obtain ⟨r, hr, -, hattempt⟩ := exists_of_resolveRoute_eq_some hd
      exact ⟨r, hr, hattempt⟩
  obtain ⟨u, b, hu, -, hb, rfl⟩ := attempt_eq_some_iff.mp hattempt
  obtain ⟨link, hlink⟩ := Route.exists_link_of_bind (Manifest.isSound_of_build ht hr) hu hb
    t.primaryScheme
  refine ⟨link, ?_⟩
  rw [Table.link, (m.wellFormed_of_build ht).route?_eq_some hr]
  exact hlink

/-- A match of a route whose host is not the one that links are written with. -/
theorem exists_link_of_match_shop :
    Manifest.shop.build = .ok Manifest.shopTable ∧
    Manifest.shopTable.resolve "https://pay.example.com/items/a%2Fb" =
      some ⟨"anyItem", Bindings.ofList [("slug", some "a/b")]⟩ ∧
    ∃ link, Manifest.shopTable.link "anyItem" (Bindings.ofList [("slug", some "a/b")]) =
      .ok link := by
  have hmatch : Manifest.shopTable.resolve "https://pay.example.com/items/a%2Fb" =
      some ⟨"anyItem", Bindings.ofList [("slug", some "a/b")]⟩ := by decide +kernel
  exact ⟨Manifest.build_shop, hmatch, exists_link_of_match Manifest.build_shop (.inl hmatch)⟩

end Table

namespace Route

/-- Links of a route write its literals in such a way that they are read as they are. Neither `%`
nor `+` is decoded in them, nothing is cut or dropped, no drive letter stands where that of a file
would be, and no blank stands at the end of a link without a query. -/
structure IsVerbatim (r : Route) (k : Url.Kind) : Prop where
  stays : ∀ text, .literal text ∈ r.segments → ∀ c ∈ text.toList,
    c ≠ '%' ∧ c ≠ '+' ∧ c ≠ '#' ∧ k.isSlash c = false ∧ Url.isDropped c = false
  first : k = .file → ∀ text, r.segments.head? = some (.literal text) →
    Url.Path.isDriveLetter text.toList = false
  last : r.queryParameters = [] → ∀ text, r.segments.getLast? = some (.literal text) →
    ∀ c ∈ text.toList.getLast?, ' ' < c

section Literals

variable {r : Route} {k : Url.Kind}

theorem IsVerbatim.readsAs (h : r.IsVerbatim k) {text : String}
    (htext : .literal text ∈ r.segments) (hquestion : '?' ∉ text.toList) (hne : text ≠ "")
    (hself : text ≠ ".") (hparent : text ≠ "..") : ReadsAs k text text := by
  have hstays := h.stays text htext
  have hdecode := Url.decode_isEscapedInPath_iff.mpr
    ⟨fun hc => (hstays _ hc).1 rfl, fun hc => (hstays _ hc).2.1 rfl⟩
  refine ⟨hne, ⟨fun c hc => ?_, Url.Path.not_dots_of_decode hdecode hself hparent⟩, hdecode⟩
  obtain ⟨-, -, hhash, hslash, hdropped⟩ := hstays c hc
  exact ⟨fun heq => hquestion (heq ▸ hc), hhash, hslash, hdropped⟩

theorem IsVerbatim.keepsEnds (h : r.IsVerbatim k) {values : Bindings}
    (hvalues : ∀ p ∈ r.queryParameters, values.contains p.name = true) : r.KeepsEnds k values := by
  refine ⟨h.first, fun hnone => h.last ?_⟩
  rw [List.eq_nil_iff_forall_not_mem]
  intro p hp
  have hcontains := hvalues p hp
  rw [hnone p hp] at hcontains
  contradiction

/-- The text of a path is no larger than the values that stand in the path. -/
theorem size_render_le_sizeOf {values : Bindings} {segments : List Segment}
    {texts path : List String}
    (htexts : List.Forall₂ (fun s text => r.segmentText values s = .ok text) segments texts)
    (hpath : List.Forall₂ (Segment.StandsFor values) segments path) :
    Percent.size (Url.Path.render (texts.map String.toList)) ≤ Url.Path.sizeOf path := by
  induction htexts generalizing path with
  | nil =>
    cases hpath
    exact le_rfl
  | @cons s text segments texts hs _ ih =>
    cases hpath with
    | @cons _ value _ path hstands hpath =>
      have hle : Percent.size text.toList ≤ (Percent.bytesOf value.toList).length := by
        rcases segmentText_eq_ok_iff.mp hs with rfl | ⟨name, value', rfl, hvalue, -, rfl⟩
        · obtain rfl : value = text := hstands
          exact Percent.size_le_length_bytesOf _
        · obtain rfl : value' = value := Option.some.inj (hvalue.symm.trans hstands)
          exact (Percent.size_encode value').le
      have hrest := ih hpath
      rw [List.map_cons, Url.Path.size_render_cons, Url.Path.sizeOf_cons]
      omega

/-- A route whose link is read with its segments has literals that are read as they are. -/
theorem isVerbatim_of_standsFor {values : Bindings} {scheme url : String}
    (hlink : r.link scheme values = .ok url) (hreads : Url.ReadsBack scheme r.hosts.first)
    (hquestion : ∀ text, .literal text ∈ r.segments → '?' ∉ text.toList) {u : Location}
    (hu : Location.parse url = .ok u)
    (hpath : List.Forall₂ (Segment.StandsFor values) r.segments u.path) :
    r.IsVerbatim (Url.Kind.ofScheme scheme.toList) := by
  obtain ⟨texts, entries, htexts, hentries, rfl⟩ := link_eq_ok_iff.mp hlink
  have hlengths := htexts.length_eq.symm.trans hpath.length_eq
  by_cases hnil : texts = []
  · have hsegments : r.segments = [] := by simpa [hnil] using htexts
    constructor <;> simp [hsegments]
  rw [linkPieces, if_neg hnil] at hu
  have hne : texts.map String.toList ≠ [] := by simpa using hnil
  have hpieces : ∀ p ∈ texts.map String.toList, '?' ∉ p := by
    rw [List.forall_mem_map]
    intro text htext
    obtain ⟨s, hs, hread⟩ := exists_of_forall₂_right htexts text htext
    rcases segmentText_eq_ok_iff.mp hread with rfl | ⟨_, value, -, -, -, rfl⟩
    · exact hquestion text hs
    · exact fun hmem => absurd (Percent.isEncoded_of_mem_encode hmem) (by decide)
  have hread := Location.isRead_of_size_le hreads hne hpieces hu
    (by rw [List.length_map, hlengths]) (size_render_le_sizeOf htexts hpath)
  -- a literal stands in the link and in the path that is read of it
  have hliteral (text : String) (htext : .literal text ∈ r.segments) :
      text ∈ texts ∧ Percent.decode true
        (String.ofList (Url.escapeWhere Url.isEscapedInPath text.toList)) = .ok text := by
    obtain ⟨text', hmem, value, htext', hstands, hdecode⟩ := exists_of_forall₂_triangle htexts hpath
      (List.forall₂_map_left_iff.mp hread.decode) _ htext
    obtain rfl : text = text' := by simpa [segmentText] using htext'
    obtain rfl : value = text := hstands
    exact ⟨hmem, hdecode⟩
  constructor
  · intro text htext c hc
    obtain ⟨hmem, hdecode⟩ := hliteral text htext
    obtain ⟨hpercent, hplus⟩ := Url.decode_isEscapedInPath_iff.mp hdecode
    exact ⟨ne_of_mem_of_not_mem hc hpercent, ne_of_mem_of_not_mem hc hplus,
      hread.stays _ (List.mem_map_of_mem hmem) c hc⟩
  · intro hfile text htext
    obtain ⟨text', hmem, htext'⟩ := forall₂_head? htexts.flip _ htext
    obtain rfl : text = text' := by simpa [segmentText] using htext'
    exact hread.first hfile text.toList (by simp [Option.mem_def.mp hmem])
  · intro hnone text htext
    obtain ⟨text', hmem, htext'⟩ := forall₂_getLast? htexts.flip _ htext
    obtain rfl : text = text' := by simpa [segmentText] using htext'
    rw [hnone, List.forall₂_nil_left_iff] at hentries
    refine hread.last ?_ text.toList (by simp [Option.mem_def.mp hmem])
    simp [hentries, linkQuery?]

/-- The link of a match of such a route is bound as the match has been. -/
theorem IsVerbatim.exists_bind_link (hsound : r.IsSound) {raw : String} {u : Location}
    (hu : Location.parse raw = .ok u) {b : Bindings} (hb : r.bind u = .ok b) {scheme url : String}
    (h : r.IsVerbatim (Url.Kind.ofScheme scheme.toList)) (hlink : r.link scheme b = .ok url)
    (hnames : ∀ p ∈ r.queryParameters, Percent.encode p.name = p.name)
    (hreads : Url.ReadsBack scheme r.hosts.first) :
    ∃ u', Location.parse url = .ok u' ∧ u'.scheme = scheme ∧ r.bind u' = .ok b := by
  obtain ⟨hpath, hfind⟩ := spec_of_bind hsound.segments.names_nodup hsound.parameters_nodup hb
  have hmem {p : Parameter} (hp : p ∈ r.queryParameters) : p ∈ r.parameters :=
    (mem_queryParameters.mp hp).1
  -- what stands in the path that has been matched is neither empty nor a dot segment
  have hreadsAs : ∀ text, .literal text ∈ r.segments →
      ReadsAs (Url.Kind.ofScheme scheme.toList) text text := by
    intro text htext
    obtain ⟨value, hvalue, hstands⟩ := exists_of_forall₂_right hpath.flip _ htext
    obtain rfl : value = text := hstands
    obtain ⟨hne, hself, hparent⟩ := Location.of_mem_path hu hvalue
    exact h.readsAs htext (hsound.segments.literal value htext).2.2.1 hne hself hparent
  have hends : r.KeepsEnds (Url.Kind.ofScheme scheme.toList) b := h.keepsEnds fun p hp => by
    rw [Bindings.contains, hfind, if_pos (.inr (List.mem_map_of_mem (hmem hp)))]
    rfl
  obtain ⟨path, query, hlocation, hstands, hquery⟩ := exists_location_of_readsAs hlink hreads
    hreadsAs hends (fun p hp => ⟨hsound.parameters_named p (hmem hp), hnames p hp⟩)
    (Location.ne_dots_of_standsFor hu hpath)
  obtain ⟨b', hb', hfind'⟩ := exists_bind_eq_ok scheme hsound.parameters_nodup
    (Names.accepts_first hsound.hosts_ne_nil) hstands hquery (exists_link_iff.mp ⟨url, hlink⟩).2
  obtain rfl : b' = b := Bindings.ext_find? fun k => (hfind' k).trans (hfind k).symm
  exact ⟨_, hlocation, rfl, hb'⟩

end Literals

end Route

namespace Table

/-- A match can be written as a link. The names in its query being their own encodings and the
reader leaving the scheme and the host alone, the link leads to the same match if and only if the
literals of its route are read as they are written. -/
theorem resolveRoute_link_of_bind_iff {m : Manifest} {t : Table} (ht : m.build = .ok t) {r : Route}
    (hr : r ∈ t.routes) {raw : String} {u : Location} (hu : Location.parse raw = .ok u)
    {b : Bindings} (hb : r.bind u = .ok b)
    (hnames : ∀ p ∈ r.queryParameters, Percent.encode p.name = p.name)
    (hreads : Url.ReadsBack t.primaryScheme r.hosts.first) :
    ∃ url, t.link r.name b = .ok url ∧
      (t.resolveRoute r.name url = some ⟨r.name, b⟩ ↔
        r.IsVerbatim (Url.Kind.ofScheme t.primaryScheme.toList)) := by
  have hwf := m.wellFormed_of_build ht
  have hsound := Manifest.isSound_of_build ht hr
  obtain ⟨url, hlink⟩ := Route.exists_link_of_bind hsound hu hb t.primaryScheme
  refine ⟨url, by rwa [link, hwf.route?_eq_some hr], ?_⟩
  rw [resolveRoute_eq_attempt hwf hr, attempt_eq_some_iff]
  constructor
  · rintro ⟨u', b', hu', -, hb', hsame⟩
    obtain rfl : b = b' := by simpa using hsame
    obtain ⟨hpath, -⟩ :=
      Route.spec_of_bind hsound.segments.names_nodup hsound.parameters_nodup hb'
    exact Route.isVerbatim_of_standsFor hlink hreads
      (fun text htext => (hsound.segments.literal text htext).2.2.1) hu' hpath
  · intro hverbatim
    obtain ⟨u', hu', hscheme, hb'⟩ := hverbatim.exists_bind_link hsound hu hb hlink hnames hreads
    refine ⟨u', b, hu', ?_, hb', rfl⟩
    rw [hscheme]
    exact Names.accepts_first hwf.schemes_ne_nil

end Table

namespace Manifest

/-- Literals that no encoding would leave alone. -/
def menu : Manifest where
  schemes := ["https"]
  defaultHosts := ["example.com"]
  routes := [⟨"drink", "/café au lait/\x7bsize\x7d", [], [⟨"size", true⟩]⟩, ⟨"sum", "/a+b", [], []⟩]

/-- The table of `Manifest.menu`. -/
def menuTable : Table where
  schemes := Names.ofList ["https"]
  routes := [
    ⟨"drink", "/café au lait/\x7bsize\x7d", [.literal "café au lait", .placeholder "size"],
      Names.ofList ["example.com"], [⟨"size", true⟩]⟩,
    ⟨"sum", "/a+b", [.literal "a+b"], Names.ofList ["example.com"], []⟩]

theorem build_menu : menu.build = .ok menuTable := by cbv

end Manifest

namespace Table

/-- A literal with a space and an accent is verbatim. -/
theorem resolveRoute_link_of_bind_iff_menu :
    Manifest.menu.build = .ok Manifest.menuTable ∧
    Url.ReadsBack "https" "example.com" ∧
    ∃ url, Manifest.menuTable.link "drink" (Bindings.ofList [("size", some "XL")]) = .ok url ∧
      Manifest.menuTable.resolveRoute "drink" url =
        some ⟨"drink", Bindings.ofList [("size", some "XL")]⟩ := by
  have hreads : Url.ReadsBack "https" "example.com" := by decide +kernel
  have hu : Location.parse "https://example.com/caf%C3%A9%20au%20lait/XL" =
      .ok ⟨"https", "example.com", ["café au lait", "XL"], ∅⟩ := by decide +kernel
  have hb : Manifest.menuTable.routes[0].bind
      ⟨"https", "example.com", ["café au lait", "XL"], ∅⟩ =
        .ok (Bindings.ofList [("size", some "XL")]) := by decide +kernel
  have hverbatim : Manifest.menuTable.routes[0].IsVerbatim (Url.Kind.ofScheme "https".toList) := by
    have hdrink : ∀ c ∈ "café au lait".toList, c ≠ '%' ∧ c ≠ '+' ∧ c ≠ '#' ∧
        (Url.Kind.ofScheme "https".toList).isSlash c = false ∧ Url.isDropped c = false := by
      rw [← List.forall_iff_forall_mem]
      decide +kernel
    refine ⟨?_, fun hfile => absurd hfile (by decide +kernel), by simp [Manifest.menuTable]⟩
    simpa [Manifest.menuTable] using hdrink
  obtain ⟨url, hlink, hresolve⟩ := resolveRoute_link_of_bind_iff Manifest.build_menu
    (List.getElem_mem (by decide)) hu hb (by decide +kernel) hreads
  exact ⟨Manifest.build_menu, hreads, url, hlink, hresolve.mpr hverbatim⟩

/-- A plus sign in a literal is written as it is and read as a space. -/
theorem resolveRoute_link_plus_menu :
    Manifest.menu.build = .ok Manifest.menuTable ∧
    Manifest.menuTable.resolveRoute "sum" "https://example.com/a%2Bb" = some ⟨"sum", ∅⟩ ∧
    Manifest.menuTable.link "sum" ∅ = .ok "https://example.com/a+b" ∧
    Manifest.menuTable.resolveRoute "sum" "https://example.com/a+b" = none :=
  ⟨Manifest.build_menu, by decide +kernel, by decide +kernel, by decide +kernel⟩

end Table

end DeepLinks
