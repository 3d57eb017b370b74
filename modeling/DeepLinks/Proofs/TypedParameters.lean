import DeepLinks.Conversion
import DeepLinks.Proofs.MatchedLinks

/-!
# Typed parameters of a match

A route binds exactly its placeholders and parameters, placeholders always to a value. So a record
with a text for each placeholder and an optional text for each other parameter can be read from
every match of the route, even if it admits no other name, and every binding is found in its field.
-/

namespace DeepLinks

namespace RecordType

theorem exists_lookup_of_mem {fields : List (String × FieldType)} {f : String × FieldType}
    (h : f ∈ fields) : ∃ type, fields.lookup f.1 = some type ∧ (f.1, type) ∈ fields := by
  have hsome : (fields.lookup f.1).isSome = true :=
    List.lookup_isSome_iff.mpr ⟨f, h, beq_self_eq_true f.1⟩
  obtain ⟨type, hlookup⟩ := Option.isSome_iff_exists.mp hsome
  exact ⟨type, hlookup, Bindings.mem_of_lookup_eq_some hlookup⟩

/-- Every binding has a field that takes it as it is, and every field is bound. -/
structure Takes (type : RecordType) (b : Bindings) : Prop where
  known : ∀ name value, b.find? name = some value →
    ∃ fieldType, type.fields.lookup name = some fieldType ∧ fieldType.convert value = .ok value
  bound : ∀ f ∈ type.fields, b.contains f.1 = true

section Takes

variable {type : RecordType} {b : Bindings} (h : type.Takes b)
include h

theorem Takes.find?_eq {name : String} (hname : name ∈ type.fields.map (·.1)) :
    b.find? name = some (b.value? name) := by
  obtain ⟨f, hf, rfl⟩ := List.mem_map.mp hname
  obtain ⟨value, hvalue⟩ := Bindings.contains_eq_true_iff.mp (h.bound f hf)
  rw [Bindings.value?, hvalue]
  rfl

theorem Takes.mem_names {name : String} {value : Option String}
    (hvalue : b.find? name = some value) : name ∈ type.fields.map (·.1) := by
  obtain ⟨fieldType, hlookup, -⟩ := h.known name value hvalue
  exact List.mem_map_of_mem (Bindings.mem_of_lookup_eq_some hlookup)

theorem Takes.read_eq_ok : type.read b = .ok (type.fields.map fun f => (f.1, b.value? f.1)) := by
  have hentries : (b.entries.mapM fun e => type.readEntry e.1 e.2) = .ok (b.entries.map some) := by
    rw [mapM_eq_ok_iff, List.forall₂_map_right_iff, List.forall₂_same]
    intro e he
    obtain ⟨fieldType, hlookup, hconvert⟩ := h.known e.1 e.2 (Bindings.find?_eq_some_iff.mpr he)
    rw [readEntry, hlookup]
    show (fieldType.convert e.2).map _ = _
    rw [hconvert]
    rfl
  have hfound : (b.entries.map some).filterMap id = b.entries := by
    rw [List.filterMap_map]
    exact List.filterMap_some
  unfold read
  rw [hentries, ok_bind]
  dsimp only
  rw [hfound, mapM_eq_ok_iff, List.forall₂_map_right_iff, List.forall₂_same]
  intro f hf
  have hlookup : b.entries.lookup f.1 = some (b.value? f.1) :=
    h.find?_eq (List.mem_map_of_mem hf)
  rw [hlookup]

/-- As bindings, such a record is what it has been read from. -/
theorem Takes.convert_eq_ok : b.convert (.record type) = .ok b := by
  have hfields : Bindings.ofList (type.fields.map fun f => (f.1, b.value? f.1)) = b := by
    apply Bindings.ext_find?
    intro name
    rw [Bindings.find?_ofList, ← List.map_reverse, Bindings.lookup_map_name Prod.fst,
      List.map_reverse]
    simp only [List.mem_reverse]
    split
    · rename_i hname
      exact (h.find?_eq hname).symm
    · rename_i hname
      symm
      rw [Option.eq_none_iff_forall_ne_some]
      intro value hvalue
      exact hname (h.mem_names hvalue)
  rw [Bindings.convert, h.read_eq_ok, ok_bind, hfields]
  rfl

/-- A field holds what its name is bound to. -/
theorem Takes.mem_fields_iff {name : String} {value : Option String} :
    (name, value) ∈ type.fields.map (fun f => (f.1, b.value? f.1)) ↔
      b.find? name = some value := by
  rw [List.mem_map]
  constructor
  · rintro ⟨f, hf, hvalue⟩
    obtain ⟨rfl, rfl⟩ := Prod.mk.inj hvalue
    exact h.find?_eq (List.mem_map_of_mem hf)
  · intro hvalue
    obtain ⟨f, hf, rfl⟩ := List.mem_map.mp (h.mem_names hvalue)
    refine ⟨f, hf, ?_⟩
    rw [Bindings.value?, hvalue]
    rfl

end Takes

/-- The record has a text for each placeholder of the route, an optional text for each of its other
parameters, and no other field. -/
structure Fits (type : RecordType) (r : Route) : Prop where
  text : ∀ name ∈ r.placeholders, (name, .text) ∈ type.fields
  optionalText : ∀ p ∈ r.queryParameters, (p.name, .optionalText) ∈ type.fields
  no_other : ∀ f ∈ type.fields, f.2 = .text ∧ f.1 ∈ r.placeholders ∨
    f.2 = .optionalText ∧ ∃ p ∈ r.queryParameters, p.name = f.1

section Fits

variable {type : RecordType} {r : Route} (h : type.Fits r)
include h

theorem Fits.lookup_placeholder {name : String} (hname : name ∈ r.placeholders) :
    type.fields.lookup name = some .text := by
  obtain ⟨fieldType, hlookup, hmem⟩ := exists_lookup_of_mem (h.text name hname)
  rcases h.no_other _ hmem with ⟨htext, -⟩ | ⟨-, p, hp, hpname⟩
  · exact hlookup.trans (congrArg some htext)
  · have hnot : p.name ∉ r.placeholders := (Route.mem_queryParameters.mp hp).2
    rw [hpname] at hnot
    contradiction

theorem Fits.lookup_queryParameter {p : Parameter} (hp : p ∈ r.queryParameters) :
    type.fields.lookup p.name = some .optionalText := by
  obtain ⟨fieldType, hlookup, hmem⟩ := exists_lookup_of_mem (h.optionalText p hp)
  rcases h.no_other _ hmem with ⟨-, hname⟩ | ⟨htext, -⟩
  · exact absurd hname (Route.mem_queryParameters.mp hp).2
  · exact hlookup.trans (congrArg some htext)

/-- All that the route binds has its field, and a placeholder is never without a value. -/
theorem Fits.takes_of_bind (hsound : r.IsSound) {u : Location} {b : Bindings}
    (hb : r.bind u = .ok b) : type.Takes b := by
  obtain ⟨hpath, hfind⟩ :=
    Route.spec_of_bind hsound.segments.names_nodup hsound.parameters_nodup hb
  constructor
  · intro name value hvalue
    by_cases hname : name ∈ r.placeholders
    · obtain ⟨text, -, htext⟩ := Route.exists_value_of_standsFor hpath hname
      rw [Bindings.value?, hvalue] at htext
      obtain rfl : value = some text := htext
      exact ⟨.text, h.lookup_placeholder hname, rfl⟩
    · have hbound : name ∈ r.placeholders ∨ name ∈ r.parameters.map (·.name) := by
        by_contra hnot
        rw [hfind, if_neg hnot] at hvalue
        contradiction
      obtain ⟨p, hp, rfl⟩ := List.mem_map.mp (hbound.resolve_left hname)
      have hquery : p ∈ r.queryParameters := Route.mem_queryParameters.mpr ⟨hp, hname⟩
      exact ⟨.optionalText, h.lookup_queryParameter hquery, rfl⟩
  · intro f hf
    have hbound : f.1 ∈ r.placeholders ∨ f.1 ∈ r.parameters.map (·.name) := by
      rcases h.no_other f hf with ⟨-, hname⟩ | ⟨-, p, hp, hname⟩
      · exact .inl hname
      · exact .inr (hname ▸ List.mem_map_of_mem (Route.mem_queryParameters.mp hp).1)
    rw [Bindings.contains, hfind, if_pos hbound]
    rfl

end Fits

end RecordType

/-- A map to optional texts has room for all that can be bound. -/
@[simp] theorem Bindings.convert_map_eq_ok (b : Bindings) :
    b.convert (.map .optionalText) = .ok b := by
  have hentries : (b.entries.mapM fun e =>
      (FieldType.optionalText.convert e.2).map fun v => (e.1, v)) = .ok b.entries := by
    rw [mapM_eq_ok_iff, List.forall₂_same]
    exact fun e _ => rfl
  simp [Bindings.convert, hentries]

/-- What a URL leads to, by the search or by one route, is what a route of the table binds. -/
theorem Table.exists_bind_of_match {t : Table} {url : String} {d : Deeplink}
    (hd : t.resolve url = some d ∨ ∃ name, t.resolveRoute name url = some d) :
    ∃ r ∈ t.routes, r.name = d.route ∧
      ∃ u, Location.parse url = .ok u ∧ r.bind u = .ok d.parameters := by
  obtain ⟨r, hr, hattempt⟩ : ∃ r ∈ t.routes, t.attempt url r = some d := by
    rcases hd with hd | ⟨name, hd⟩
    · exact exists_of_resolve_eq_some hd
    · obtain ⟨r, hr, -, hattempt⟩ := exists_of_resolveRoute_eq_some hd
      exact ⟨r, hr, hattempt⟩
  obtain ⟨u, b, hu, -, hb, rfl⟩ := attempt_eq_some_iff.mp hattempt
  exact ⟨r, hr, rfl, u, hu, hb⟩

theorem Table.WellFormed.eq_of_name_eq {t : Table} (h : t.WellFormed) {r s : Route}
    (hr : r ∈ t.routes) (hs : s ∈ t.routes) (hname : r.name = s.name) : r = s := by
  have hfound := h.route?_eq_some hr
  rw [hname, h.route?_eq_some hs] at hfound
  exact (Option.some.inj hfound).symm

/-- The parameters of a deep link are the same as a map to optional texts. Those of a match of a
route are also the same as a record that fits the route, unknown names admitted or not: there is a
field for each of them, a text field holds the segment of the path in the place of its placeholder,
and an optional one what its parameter is bound to, nothing exactly if it is bound without a
value. -/
theorem Deeplink.convert_of_match (d : Deeplink) :
    d.parameters.convert (.map .optionalText) = .ok d.parameters ∧
    ∀ (m : Manifest) (t : Table), m.build = .ok t → ∀ r ∈ t.routes, d.route = r.name →
      ∀ url, (t.resolve url = some d ∨ ∃ name, t.resolveRoute name url = some d) →
      ∀ type : RecordType, type.Fits r →
        ∃ u fields, Location.parse url = .ok u ∧
          type.read d.parameters = .ok fields ∧
          d.parameters.convert (.record type) = .ok d.parameters ∧
          fields.map (·.1) = type.fields.map (·.1) ∧
          List.Forall₂ (fun s value => ∀ name, s.name? = some name →
            ∀ v, (name, v) ∈ fields ↔ v = some value) r.segments u.path ∧
          ∀ p ∈ r.queryParameters, ∀ v,
            (p.name, v) ∈ fields ↔ d.parameters.find? p.name = some v := by
  refine ⟨d.parameters.convert_map_eq_ok, fun m t ht r hr hroute url hd type hfits => ?_⟩
  have hwf := m.wellFormed_of_build ht
  have hsound := Manifest.isSound_of_build ht hr
  obtain ⟨s, hs, hname, u, hu, hb⟩ := Table.exists_bind_of_match hd
  obtain rfl := hwf.eq_of_name_eq hs hr (hname.trans hroute)
  have htakes := hfits.takes_of_bind hsound hb
  have hpath := (Route.spec_of_bind hsound.segments.names_nodup hsound.parameters_nodup hb).1
  refine ⟨u, _, hu, htakes.read_eq_ok, htakes.convert_eq_ok, by simp, ?_,
    fun p _ v => htakes.mem_fields_iff⟩
  apply hpath.imp
  rintro s value hstands name hname v
  cases s with
  | literal _ => contradiction
  | placeholder other =>
    obtain rfl := Option.some.inj hname
    have hvalue : d.parameters.value? other = some value := hstands
    rw [Bindings.value?, Option.join_eq_some_iff] at hvalue
    rw [htakes.mem_fields_iff, hvalue, Option.some.injEq, eq_comm]

/-- An escaped slash in the path, an empty value, no value, and a key that is not declared. -/
theorem Deeplink.convert_of_match_shop :
    Manifest.shop.build = .ok Manifest.shopTable ∧
    Manifest.shopTable.resolve "https://example.com/items/a%2Fb?tab=&utm=x" =
      some ⟨"item", Bindings.ofList [("id", some "a/b"), ("tab", some ""), ("ref", none)]⟩ ∧
    RecordType.Fits ⟨[("ref", .optionalText), ("id", .text), ("tab", .optionalText)], true⟩
      Manifest.shopTable.routes[0] ∧
    ∃ fields, RecordType.read
        ⟨[("ref", .optionalText), ("id", .text), ("tab", .optionalText)], true⟩
        (Bindings.ofList [("id", some "a/b"), ("tab", some ""), ("ref", none)]) = .ok fields ∧
      fields.map (·.1) = ["ref", "id", "tab"] ∧ ("ref", none) ∈ fields := by
  have hmatch : Manifest.shopTable.resolve "https://example.com/items/a%2Fb?tab=&utm=x" =
      some ⟨"item", Bindings.ofList [("id", some "a/b"), ("tab", some ""), ("ref", none)]⟩ := by
    decide +kernel
  have hitem : Manifest.shopTable.routes[0] ∈ Manifest.shopTable.routes :=
    List.getElem_mem (by decide)
  have hfits : RecordType.Fits
      ⟨[("ref", .optionalText), ("id", .text), ("tab", .optionalText)], true⟩
      Manifest.shopTable.routes[0] := by
    refine ⟨by decide +kernel, by decide +kernel, by decide +kernel⟩
  have href : ⟨"ref", false⟩ ∈ Manifest.shopTable.routes[0].queryParameters := by decide +kernel
  obtain ⟨u, fields, -, hread, -, hnames, -, hquery⟩ :=
    (Deeplink.convert_of_match ⟨"item",
      Bindings.ofList [("id", some "a/b"), ("tab", some ""), ("ref", none)]⟩).2 _ _
      Manifest.build_shop _ hitem rfl _ (.inl hmatch) _ hfits
  refine ⟨Manifest.build_shop, hmatch, hfits, fields, hread, hnames, ?_⟩
  rw [hquery _ href]
  decide +kernel

end DeepLinks
