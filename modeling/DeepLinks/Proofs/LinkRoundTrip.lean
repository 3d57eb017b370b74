import DeepLinks.Proofs.LinkReading
import DeepLinks.Proofs.Precedence

/-!
# Links lead back

The link that a route writes for given values leads to that route again and binds its parameters
to those values. What is absent, what has no value and what has an empty value stay apart, and a
placeholder is bound by the path alone.
-/

namespace DeepLinks

namespace Route

/-- A location with the values in its path and in its query is bound to them. -/
theorem exists_bind_eq_ok {r : Route} {values query : Bindings} (scheme : String) {host : String}
    {path : List String} (hnodup : (r.parameters.map (·.name)).Nodup)
    (hhost : r.hosts.accepts host = true)
    (hpath : List.Forall₂ (Segment.StandsFor values) r.segments path)
    (hquery : ∀ k, query.find? k =
      if k ∈ r.queryParameters.map (·.name) then values.find? k else none)
    (hmandatory : ∀ p ∈ r.queryParameters, p.isMandatory = true →
      values.contains p.name = true) :
    ∃ b, r.bind ⟨scheme, host, path, query⟩ = .ok b ∧
      ∀ k, b.find? k =
        if k ∈ r.placeholders ∨ k ∈ r.parameters.map (·.name) then some (values.value? k)
        else none := by
  obtain ⟨b', hb', hfind'⟩ := exists_bindPath_eq_ok hpath ∅
  have hplaceholder (k : String) :
      b'.find? k = if k ∈ r.placeholders then some (values.value? k) else none := hfind' k
  have hknown : ∀ p ∈ r.parameters, p.isMandatory = true →
      b'.contains p.name = true ∨ query.contains p.name = true := by
    intro p hp hm
    by_cases hin : p.name ∈ r.placeholders
    · left
      simp [Bindings.contains, hplaceholder, hin]
    · right
      have hp := mem_queryParameters.mpr ⟨hp, hin⟩
      obtain ⟨value, hvalue⟩ := Bindings.contains_eq_true_iff.mp (hmandatory p hp hm)
      rw [Bindings.contains_eq_true_iff, hquery, if_pos (List.mem_map_of_mem hp)]
      exact ⟨value, hvalue⟩
  obtain ⟨b, hb, hfind⟩ := exists_bindQuery_eq_ok hnodup hknown
  refine ⟨b, bind_ok_iff.mpr ⟨hhost, hpath.length_eq, b', hb', hb⟩, fun k => ?_⟩
  rw [hfind, hplaceholder]
  by_cases hin : k ∈ r.placeholders
  · simp [hin]
  by_cases hk : k ∈ r.parameters.map (·.name)
  · have hk' : k ∈ r.queryParameters.map (·.name) := by
      obtain ⟨p, hp, rfl⟩ := List.mem_map.mp hk
      exact List.mem_map_of_mem (mem_queryParameters.mpr ⟨hp, hin⟩)
    simp only [hin, hk, hk', hquery, Bindings.value?, or_true, ↓reduceIte, Option.none_or]
  · simp only [hin, hk, or_self, ↓reduceIte, Option.none_or]

end Route

namespace Table

theorem attempt_eq_none_of_bind? {t : Table} {url : String} {u : Location} {r : Route}
    (hu : Location.parse url = .ok u) (hb : r.bind? u = none) : t.attempt url r = none := by
  simp [attempt, hu, hb]

/-- The link of a route leads back to the route, with the bindings that the values have for its
placeholders and parameters, unless an earlier route binds it too. The texts that a link writes as
they are must be their own encodings, dot segments must not occur, and the reader must leave the
scheme and the host alone. -/
theorem resolveRoute_link {m : Manifest} {t : Table} (ht : m.build = .ok t) {r : Route}
    (hr : r ∈ t.routes) {values : Bindings} {url : String}
    (hlink : t.link r.name values = .ok url)
    (hliterals : ∀ text, .literal text ∈ r.segments →
      Percent.encode text = text ∧ text ≠ "." ∧ text ≠ "..")
    (hnames : ∀ p ∈ r.queryParameters, Percent.encode p.name = p.name)
    (hvalues : ∀ name ∈ r.placeholders,
      values.value? name ≠ some "." ∧ values.value? name ≠ some "..")
    (hreads : Url.ReadsBack t.primaryScheme r.hosts.first) :
    ∃ b, t.resolveRoute r.name url = some ⟨r.name, b⟩ ∧
      (∀ name, b.find? name =
        if name ∈ r.placeholders ∨ name ∈ r.parameters.map (·.name) then
          some (values.value? name)
        else none) ∧
      (∀ name ∈ r.placeholders, ∃ value, values.value? name = some value) ∧
      ∀ before after, t.routes = before ++ r :: after →
        (∀ u, Location.parse url = .ok u → ∀ e ∈ before, e.bind? u = none) →
        t.resolve url = some ⟨r.name, b⟩ := by
  have hwf := m.wellFormed_of_build ht
  rw [link, hwf.route?_eq_some hr] at hlink
  obtain ⟨path, query, hu, hpath, hquery⟩ := Route.exists_location hlink hreads
    (fun text htext => ⟨hwf.literals_ne_empty r hr text htext, hliterals text htext⟩)
    (fun p hp => ⟨hwf.parameters_named r hr p (Route.mem_queryParameters.mp hp).1, hnames p hp⟩)
    hvalues
  obtain ⟨b, hb, hfind⟩ := Route.exists_bind_eq_ok t.primaryScheme
    (hwf.parameters_nodup r hr) (Names.accepts_first (hwf.hosts_ne_nil r hr)) hpath hquery
    (Route.exists_link_iff.mp ⟨url, hlink⟩).2
  have hattempt := attempt_eq_some_iff.mpr
    ⟨_, b, hu, Names.accepts_first hwf.schemes_ne_nil, hb, rfl⟩
  have hvalue : ∀ name ∈ r.placeholders, ∃ value, values.value? name = some value := by
    intro name hname
    obtain ⟨value, -, hvalue⟩ := Route.exists_value_of_standsFor hpath hname
    exact ⟨value, hvalue⟩
  refine ⟨b, ?_, hfind, hvalue, fun before after hroutes hnone => ?_⟩
  · rw [resolveRoute_eq_attempt hwf hr, hattempt]
  · have hbefore : before.findSome? (t.attempt url) = none := by
      rw [List.findSome?_eq_none_iff]
      exact fun e he => attempt_eq_none_of_bind? hu (hnone _ hu e he)
    simp [resolve_eq_findSome?_attempt, hroutes, hbefore, hattempt]

/-- A slash and a percent sign in the path, an empty value and a bare key in the query. -/
theorem resolveRoute_link_shop :
    Manifest.shop.build = .ok Manifest.shopTable ∧
    Url.ReadsBack "https" "example.com" ∧
    Manifest.shopTable.link "item"
        (Bindings.ofList [("id", some "a/b %"), ("tab", some ""), ("ref", none)]) =
      .ok "https://example.com/items/a%2Fb%20%25?tab=&ref" ∧
    ∃ b, Manifest.shopTable.resolveRoute "item"
        "https://example.com/items/a%2Fb%20%25?tab=&ref" = some ⟨"item", b⟩ ∧
      b.find? "id" = some (some "a/b %") ∧ b.find? "tab" = some (some "") ∧
      b.find? "ref" = some none ∧ b.find? "items" = none := by
  have hreads : Url.ReadsBack "https" "example.com" := by decide +kernel
  have hlink : Manifest.shopTable.link "item"
      (Bindings.ofList [("id", some "a/b %"), ("tab", some ""), ("ref", none)]) =
        .ok "https://example.com/items/a%2Fb%20%25?tab=&ref" := by decide +kernel
  have hitem : Manifest.shopTable.routes[0] ∈ Manifest.shopTable.routes :=
    List.getElem_mem (by decide)
  have hliterals : ∀ text, .literal text ∈ Manifest.shopTable.routes[0].segments →
      Percent.encode text = text ∧ text ≠ "." ∧ text ≠ ".." := by
    intro text htext
    have htext : Segment.literal text ∈ [Segment.literal "items", Segment.placeholder "id"] := htext
    simp only [List.mem_cons, Segment.literal.injEq, reduceCtorEq, List.not_mem_nil, or_false]
      at htext
    subst htext
    decide +kernel
  obtain ⟨b, hresolve, hfind, -, -⟩ := resolveRoute_link Manifest.build_shop hitem hlink hliterals
    (by decide +kernel) (by decide +kernel) hreads
  refine ⟨Manifest.build_shop, hreads, hlink, b, hresolve, ?_, ?_, ?_, ?_⟩
  · exact (hfind "id").trans (by decide +kernel)
  · exact (hfind "tab").trans (by decide +kernel)
  · exact (hfind "ref").trans (by decide +kernel)
  · exact (hfind "items").trans (by decide +kernel)

end Table

end DeepLinks
