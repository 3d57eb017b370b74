import DeepLinks.Proofs.BuiltTable
import DeepLinks.Proofs.LinkReading
import DeepLinks.Proofs.QueryValues

/-!
# The shape of a link's path

A link is read with the segments of its route, each value in its place, exactly if no value is a
dot segment. Encoding takes every other character of a value out of the reader's hands, but leaves
dots as they are, and a reader resolves them.
-/

namespace DeepLinks

/-- Where no name in the query holds an `=`, values in the path are read in their places if and
only if none of them is one or two dots. -/
theorem Route.standsFor_location_iff {r : Route} {values : Bindings} {scheme url : String}
    (hlink : r.link scheme values = .ok url) (hreads : Url.ReadsBack scheme r.hosts.first)
    (hliterals : ∀ text, .literal text ∈ r.segments →
      ReadsAs (Url.Kind.ofScheme scheme.toList) text text)
    (hends : r.KeepsEnds (Url.Kind.ofScheme scheme.toList) values)
    (hnames : ∀ p ∈ r.queryParameters, '=' ∉ p.name.toList) :
    (∃ u, Location.parse url = .ok u ∧
      List.Forall₂ (Segment.StandsFor values) r.segments u.path) ↔
    ∀ name ∈ r.placeholders, values.value? name ≠ some "." ∧ values.value? name ≠ some ".." := by
  constructor
  · rintro ⟨u, hu, hpath⟩
    exact Location.ne_dots_of_standsFor hu hpath
  · intro hvalues
    obtain ⟨path, entries, hpath, hentries, hparse⟩ :=
      exists_parse_link hlink hreads hliterals hends hvalues
    obtain ⟨query, hquery⟩ := exists_queryBindings hentries hnames
      (Url.Kind.ofScheme scheme.toList)
    refine ⟨⟨scheme, r.hosts.first, path, query⟩, ?_, hpath⟩
    rw [hparse, hquery]
    rfl

namespace Table

/-- The link of a route is read with a path of the segments of the route, the values standing in
their places, if and only if no value in the path is one or two dots. The literals must be their
own encodings and no dot segments, and the reader must leave the scheme and the host alone. -/
theorem standsFor_location_of_link_iff {m : Manifest} {t : Table} (ht : m.build = .ok t)
    {r : Route} (hr : r ∈ t.routes) {values : Bindings} {url : String}
    (hlink : t.link r.name values = .ok url)
    (hliterals : ∀ text, .literal text ∈ r.segments →
      Percent.encode text = text ∧ text ≠ "." ∧ text ≠ "..")
    (hnames : ∀ p ∈ r.queryParameters, '=' ∉ p.name.toList)
    (hreads : Url.ReadsBack t.primaryScheme r.hosts.first) :
    (∃ u, Location.parse url = .ok u ∧
      List.Forall₂ (Segment.StandsFor values) r.segments u.path) ↔
    ∀ name ∈ r.placeholders, values.value? name ≠ some "." ∧ values.value? name ≠ some ".." := by
  have hwf := m.wellFormed_of_build ht
  rw [link, hwf.route?_eq_some hr] at hlink
  refine Route.standsFor_location_iff hlink hreads (fun text htext => ?_)
    (Route.keepsEnds_of_encode (fun text htext => (hliterals text htext).1) _ _) hnames
  obtain ⟨hencode, hself, hparent⟩ := hliterals text htext
  exact readsAs_self _ (hwf.literals_ne_empty r hr text htext) hself hparent hencode

/-- A value with a slash, a question mark and three dots stays in its place. -/
theorem standsFor_location_of_link_iff_shop :
    Manifest.shop.build = .ok Manifest.shopTable ∧
    Url.ReadsBack "https" "example.com" ∧
    Manifest.shopTable.link "item" (Bindings.ofList [("id", some ".../?")]) =
      .ok "https://example.com/items/...%2F%3F" ∧
    ∃ u, Location.parse "https://example.com/items/...%2F%3F" = .ok u ∧
      List.Forall₂ (Segment.StandsFor (Bindings.ofList [("id", some ".../?")]))
        [.literal "items", .placeholder "id"] u.path := by
  have hreads : Url.ReadsBack "https" "example.com" := by decide +kernel
  have hlink : Manifest.shopTable.link "item" (Bindings.ofList [("id", some ".../?")]) =
      .ok "https://example.com/items/...%2F%3F" := by decide +kernel
  have hitem : Manifest.shopTable.routes[0] ∈ Manifest.shopTable.routes :=
    List.getElem_mem (by decide)
  have hliterals : ∀ text, .literal text ∈ Manifest.shopTable.routes[0].segments →
      Percent.encode text = text ∧ text ≠ "." ∧ text ≠ ".." := by
    have hitems : Percent.encode "items" = "items" := by decide +kernel
    simpa [Manifest.shopTable] using hitems
  exact ⟨Manifest.build_shop, hreads, hlink,
    (standsFor_location_of_link_iff Manifest.build_shop hitem hlink hliterals (by decide +kernel)
      hreads).mpr (by decide +kernel)⟩

/-- The value `..` is not refused, and takes the literal before it out of the path. -/
theorem link_dots_shop :
    Manifest.shop.build = .ok Manifest.shopTable ∧
    Manifest.shopTable.link "item" (Bindings.ofList [("id", some "..")]) =
      .ok "https://example.com/items/.." ∧
    (Location.parse "https://example.com/items/..").map (·.path) = .ok [] :=
  ⟨Manifest.build_shop, by decide +kernel, by decide +kernel⟩

end Table

end DeepLinks
