import DeepLinks.Proofs.BuiltTable
import DeepLinks.Proofs.LinkReading

/-!
# Keys in a query

A link writes the names of parameters as they are, where it encodes values, and a reader takes keys
as they stand. So a key comes back if the reader of the query neither escapes nor drops any of its
characters nor cuts at them. Since whatever a reader finds as a key consists of such characters, no
other key comes back.
-/

namespace DeepLinks

theorem Location.of_mem_queryEntry {piece : List Char} {entry : String × Option String}
    (h : queryEntry piece = .ok entry) : ∀ c ∈ entry.1.toList, c ∈ piece ∧ c ≠ '=' := by
  unfold queryEntry at h
  cases hcut : Text.cut? '=' piece with
  | none =>
    simp only [hcut, Except.ok.injEq] at h
    subst h
    intro c hc
    rw [String.toList_ofList] at hc
    refine ⟨hc, ?_⟩
    rintro rfl
    exact Text.cut?_eq_none_iff.mp hcut hc
  | some parts =>
    obtain ⟨key, text⟩ := parts
    obtain ⟨rfl, hequals⟩ := Text.cut?_eq_some_iff.mp hcut
    simp only [hcut, bind_eq_ok_iff, pure_eq_ok, Except.ok.injEq] at h
    obtain ⟨value, -, rfl⟩ := h
    intro c hc
    rw [String.toList_ofList] at hc
    refine ⟨List.mem_append_left _ hc, ?_⟩
    rintro rfl
    exact hequals hc

/-- A query that has been read is bound to keys of these characters only. -/
theorem Location.isKeyChar_of_queryBindings {k : Url.Kind} {query : List Char} {b : Bindings}
    (h : queryBindings (String.ofList (Url.readQuery k query)) = .ok b) {name : String}
    (hname : b.contains name = true) :
    ∀ c ∈ name.toList, Url.isKeyChar k.isSpecial c = true := by
  rw [queryBindings, bind_eq_ok_iff, String.toList_ofList] at h
  obtain ⟨entries, hentries, hb⟩ := h
  obtain rfl := Except.ok.inj hb
  obtain ⟨value, hvalue⟩ := Bindings.contains_eq_true_iff.mp hname
  rw [Bindings.find?_foldl_insertIfNew, Bindings.find?_empty, Option.none_or] at hvalue
  obtain ⟨piece, hpiece, hentry⟩ := exists_of_forall₂_right (mapM_eq_ok_iff.mp hentries) _
    (Bindings.mem_of_lookup_eq_some hvalue)
  have hpiece := List.mem_of_mem_filter hpiece
  intro c hc
  obtain ⟨hc, hequals⟩ := of_mem_queryEntry hentry c hc
  refine Url.isKeyChar_of_mem_readQuery (Text.mem_of_mem_pieces hpiece hc) ?_ hequals
  rintro rfl
  exact Text.not_mem_of_mem_pieces hpiece hc

theorem Location.isKeyChar_of_linkQuery? {k : Url.Kind} {texts : List String} {b : Bindings}
    (h : queryBindings (((linkQuery? texts).map fun q =>
      String.ofList (Url.readQuery k q)).getD "") = .ok b) {name : String}
    (hname : b.contains name = true) :
    ∀ c ∈ name.toList, Url.isKeyChar k.isSpecial c = true := by
  cases hquery : linkQuery? texts with
  | none =>
    rw [hquery, Option.map_none, Option.getD_none] at h
    obtain rfl := Except.ok.inj h
    contradiction
  | some query =>
    rw [hquery, Option.map_some, Option.getD_some] at h
    exact isKeyChar_of_queryBindings h hname

/-- The entries that the values have for the parameters are read from the query of a link if and
only if their names consist of characters that are read as they are. -/
theorem Route.query_location_iff {r : Route} {values : Bindings} {scheme url : String}
    (hlink : r.link scheme values = .ok url) (hreads : Url.ReadsBack scheme r.hosts.first)
    (hliterals : ∀ text, .literal text ∈ r.segments →
      ReadsAs (Url.Kind.ofScheme scheme.toList) text text)
    (hends : r.KeepsEnds (Url.Kind.ofScheme scheme.toList) values)
    (hnamed : ∀ p ∈ r.queryParameters, p.name ≠ "")
    (hvalues : ∀ name ∈ r.placeholders,
      values.value? name ≠ some "." ∧ values.value? name ≠ some "..") :
    (∃ u, Location.parse url = .ok u ∧ ∀ k, u.query.find? k =
      if k ∈ r.queryParameters.map (·.name) then values.find? k else none) ↔
    ∀ p ∈ r.queryParameters, values.contains p.name = true → ∀ c ∈ p.name.toList,
      Url.isKeyChar (Url.Kind.ofScheme scheme.toList).isSpecial c = true := by
  constructor
  · rintro ⟨u, hu, hfind⟩ p hp hcontains
    obtain ⟨path, entries, -, -, hparse⟩ := exists_parse_link hlink hreads hliterals hends hvalues
    have hcontains : u.query.contains p.name = true := by
      have hname : p.name ∈ r.queryParameters.map (·.name) := List.mem_map_of_mem hp
      rw [Bindings.contains, hfind, if_pos hname]
      exact hcontains
    rw [hparse] at hu
    cases hquery : Location.queryBindings (((linkQuery? (entries.filterMap id)).map fun q =>
        String.ofList (Url.readQuery (Url.Kind.ofScheme scheme.toList) q)).getD "") with
    | error e =>
      rw [hquery] at hu
      contradiction
    | ok query =>
      rw [hquery] at hu
      obtain rfl := Except.ok.inj hu
      exact Location.isKeyChar_of_linkQuery? hquery hcontains
  · intro hkeys
    obtain ⟨path, query, hu, -, hfind⟩ := exists_location_of_isKeyChar hlink hreads hliterals hends
      (fun p hp => ⟨hnamed p hp, hkeys p hp⟩) hvalues
    exact ⟨_, hu, hfind⟩

namespace Table

/-- The query of the link of a route is read with the declared names that have an entry and with
nothing else, each with the value of its entry, if and only if these names consist of characters
that a query is read with as they are. The literals must be their own encodings and no dot
segments, no value in the path may be a dot segment, and the reader must leave the scheme and the
host alone. -/
theorem query_of_link_iff {m : Manifest} {t : Table} (ht : m.build = .ok t) {r : Route}
    (hr : r ∈ t.routes) {values : Bindings} {url : String}
    (hlink : t.link r.name values = .ok url)
    (hliterals : ∀ text, .literal text ∈ r.segments →
      Percent.encode text = text ∧ text ≠ "." ∧ text ≠ "..")
    (hvalues : ∀ name ∈ r.placeholders,
      values.value? name ≠ some "." ∧ values.value? name ≠ some "..")
    (hreads : Url.ReadsBack t.primaryScheme r.hosts.first) :
    (∃ u, Location.parse url = .ok u ∧ ∀ k, u.query.find? k =
      if k ∈ r.queryParameters.map (·.name) then values.find? k else none) ↔
    ∀ p ∈ r.queryParameters, values.contains p.name = true → ∀ c ∈ p.name.toList,
      Url.isKeyChar (Url.Kind.ofScheme t.primaryScheme.toList).isSpecial c = true := by
  have hwf := m.wellFormed_of_build ht
  rw [link, hwf.route?_eq_some hr] at hlink
  refine Route.query_location_iff hlink hreads (fun text htext => ?_)
    (Route.keepsEnds_of_encode (fun text htext => (hliterals text htext).1) _ _) (fun p hp => ?_)
    hvalues
  · obtain ⟨hencode, hself, hparent⟩ := hliterals text htext
    exact readsAs_self _ (hwf.literals_ne_empty r hr text htext) hself hparent hencode
  · exact hwf.parameters_named r hr p (List.mem_of_mem_filter hp)

end Table

namespace Manifest

/-- Names of parameters that have to be written in a query. -/
def offers : Manifest where
  schemes := ["https"]
  defaultHosts := ["example.com"]
  routes := [⟨"offers", "/offers", [], [⟨"price[max]", false⟩, ⟨"sale", false⟩, ⟨"r&d", false⟩]⟩]

/-- The table of `Manifest.offers`. -/
def offersTable : Table where
  schemes := Names.ofList ["https"]
  routes := [⟨"offers", "/offers", [.literal "offers"], Names.ofList ["example.com"],
    [⟨"price[max]", false⟩, ⟨"sale", false⟩, ⟨"r&d", false⟩]⟩]

theorem build_offers : offers.build = .ok offersTable := by cbv

end Manifest

namespace Table

/-- Brackets in a name are not encoded and need not be. -/
theorem query_of_link_iff_offers :
    Manifest.offers.build = .ok Manifest.offersTable ∧
    Url.ReadsBack "https" "example.com" ∧
    Manifest.offersTable.link "offers"
        (Bindings.ofList [("price[max]", some "1 000"), ("sale", none)]) =
      .ok "https://example.com/offers?price[max]=1%20000&sale" ∧
    ∃ u, Location.parse "https://example.com/offers?price[max]=1%20000&sale" = .ok u ∧
      u.query.find? "price[max]" = some (some "1 000") ∧ u.query.find? "sale" = some none ∧
      u.query.find? "r&d" = none ∧ u.query.find? "offers" = none := by
  have hreads : Url.ReadsBack "https" "example.com" := by decide +kernel
  have hlink : Manifest.offersTable.link "offers"
      (Bindings.ofList [("price[max]", some "1 000"), ("sale", none)]) =
        .ok "https://example.com/offers?price[max]=1%20000&sale" := by decide +kernel
  have hoffers : Manifest.offersTable.routes[0] ∈ Manifest.offersTable.routes :=
    List.getElem_mem (by decide)
  have hliterals : ∀ text, .literal text ∈ Manifest.offersTable.routes[0].segments →
      Percent.encode text = text ∧ text ≠ "." ∧ text ≠ ".." := by
    have hliteral : Percent.encode "offers" = "offers" := by decide +kernel
    simpa [Manifest.offersTable] using hliteral
  have hkeys : ∀ p ∈ Manifest.offersTable.routes[0].queryParameters,
      (Bindings.ofList [("price[max]", some "1 000"), ("sale", none)]).contains p.name = true →
      ∀ c ∈ p.name.toList, Url.isKeyChar
        (Url.Kind.ofScheme Manifest.offersTable.primaryScheme.toList).isSpecial c = true := by
    simp only [← List.all_eq_true]
    decide +kernel
  obtain ⟨u, hu, hfind⟩ := (query_of_link_iff Manifest.build_offers hoffers hlink hliterals
    (by decide +kernel) hreads).mpr hkeys
  refine ⟨Manifest.build_offers, hreads, hlink, u, hu, ?_, ?_, ?_, ?_⟩
  · exact (hfind "price[max]").trans (by decide +kernel)
  · exact (hfind "sale").trans (by decide +kernel)
  · exact (hfind "r&d").trans (by decide +kernel)
  · exact (hfind "offers").trans (by decide +kernel)

/-- An ampersand in a name is written as it is, and makes two keys of it. -/
theorem query_of_link_ampersand_offers :
    Manifest.offers.build = .ok Manifest.offersTable ∧
    Percent.encode "offers" = "offers" ∧ Url.ReadsBack "https" "example.com" ∧
    Manifest.offersTable.link "offers" (Bindings.ofList [("r&d", some "1")]) =
      .ok "https://example.com/offers?r&d=1" ∧
    Location.parse "https://example.com/offers?r&d=1" =
      .ok ⟨"https", "example.com", ["offers"], Bindings.ofList [("r", none), ("d", some "1")]⟩ ∧
    (Bindings.ofList [("r", none), ("d", some "1")]).find? "r&d" = none :=
  ⟨Manifest.build_offers, by decide +kernel, by decide +kernel, by decide +kernel,
    by decide +kernel, by decide +kernel⟩

end Table

end DeepLinks
