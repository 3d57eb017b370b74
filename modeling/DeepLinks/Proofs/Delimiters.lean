import DeepLinks.Proofs.BuiltTable
import DeepLinks.Proofs.LinkText
import DeepLinks.Proofs.PercentCodec

/-!
# Delimiters of a link

An encoding is made of unreserved characters and percent signs only. All other characters of a
link, the delimiters among them, come from the scheme, the host, the literals and the names, and
from the form of the link itself. `Route.delimiters` lists them without looking at a value, so the
values of a link have no part in them beyond being there.
-/

namespace DeepLinks

namespace Percent

/-- The characters of a text that no encoding holds, in their order. -/
def reserved (s : List Char) : List Char :=
  s.filter fun c => !isEncoded c

@[simp] theorem reserved_nil : reserved [] = [] := rfl

@[simp] theorem reserved_append (s t : List Char) :
    reserved (s ++ t) = reserved s ++ reserved t :=
  List.filter_append ..

@[simp] theorem reserved_cons {c : Char} (hc : isEncoded c = false) (s : List Char) :
    reserved (c :: s) = c :: reserved s := by
  simp [reserved, hc]

@[simp] theorem reserved_encode (value : String) : reserved (encode value).toList = [] := by
  rw [reserved, List.filter_eq_nil_iff]
  intro c hc
  simp [isEncoded_of_mem_encode hc]

@[simp] theorem reserved_render (ps : List Url.Path.Segment) :
    reserved (Url.Path.render ps) = Url.Path.render (ps.map reserved) := by
  have hslash : isEncoded '/' = false := by decide
  induction ps with
  | nil => rfl
  | cons p ps ih => simpa [Url.Path.render, hslash] using ih

@[simp] theorem reserved_intercalate {sep : Char} (hsep : isEncoded sep = false)
    (ps : List (List Char)) :
    reserved ([sep].intercalate ps) = [sep].intercalate (ps.map reserved) := by
  induction ps with
  | nil => rfl
  | cons p ps ih =>
    cases ps with
    | nil => simp
    | cons q qs =>
      simp only [List.map_cons, List.intercalate_cons_cons] at ih ⊢
      simp [ih, hsep]

end Percent

open Percent (reserved)

/-- A value has no part in the delimiters of a path. -/
def Segment.delimiters : Segment → List Char
  | .literal text => reserved text.toList
  | .placeholder _ => []

/-- The delimiters of an entry, by its name and whether it has a value. -/
def entryDelimiters (entry : String × Bool) : List Char :=
  reserved entry.1.toList ++ if entry.2 then ['='] else []

/-- The delimiters of a link, by the names in its query and whether each of them has a value. -/
def Route.delimiters (r : Route) (scheme : String) (entries : List (String × Bool)) : List Char :=
  reserved (scheme ++ "://" ++ r.hosts.first).toList ++
    Url.Path.render (if r.segments = [] then [[]] else r.segments.map Segment.delimiters) ++
    if entries = [] then [] else '?' :: ['&'].intercalate (entries.map entryDelimiters)

@[simp] theorem reserved_entryText (e : String × Option String) :
    reserved (entryText e).toList = entryDelimiters (e.1, e.2.isSome) := by
  have hequals : Percent.isEncoded '=' = false := by decide
  obtain ⟨name, value⟩ := e
  cases value <;> simp [entryText, entryDelimiters, hequals]

/-- What is there in a query, with or without a value. -/
def presentEntries (values : Bindings) (ps : List Parameter) : List (String × Bool) :=
  (queryEntries values ps).map fun e => (e.1, e.2.isSome)

theorem presentEntries_congr {values values' : Bindings} {ps : List Parameter}
    (h : ∀ p ∈ ps, (values.find? p.name).map Option.isSome =
      (values'.find? p.name).map Option.isSome) :
    presentEntries values ps = presentEntries values' ps := by
  simp only [presentEntries, queryEntries, List.map_filterMap, Option.map_map]
  apply List.filterMap_congr
  intro p hp
  have hpair := congrArg (Option.map (p.name, ·)) (h p hp)
  rw [Option.map_map, Option.map_map] at hpair
  exact hpair

namespace Route

variable {r : Route}

theorem reserved_segmentText {values : Bindings} {s : Segment} {text : String}
    (h : r.segmentText values s = .ok text) : reserved text.toList = s.delimiters := by
  rcases segmentText_eq_ok_iff.mp h with rfl | ⟨name, value, rfl, -, -, rfl⟩
  · rfl
  · exact Percent.reserved_encode value

theorem reserved_linkPieces {values : Bindings} {segments : List Segment} {texts : List String}
    (h : List.Forall₂ (fun s text => r.segmentText values s = .ok text) segments texts) :
    (linkPieces texts).map reserved =
      if segments = [] then [[]] else segments.map Segment.delimiters := by
  have hsegments :
      segments.map Segment.delimiters = texts.map fun text => reserved text.toList := by
    rw [← List.forall₂_eq_eq_eq, List.forall₂_map_left_iff, List.forall₂_map_right_iff]
    exact h.imp fun s text hs => (reserved_segmentText hs).symm
  cases h with
  | nil => rfl
  | cons _ _ =>
    rw [hsegments]
    simp [linkPieces]

theorem reserved_linkQuery? (values : Bindings) (ps : List Parameter) :
    reserved ((linkQuery? ((queryEntries values ps).map entryText)).elim [] ('?' :: ·)) =
      if presentEntries values ps = [] then []
      else '?' :: ['&'].intercalate ((presentEntries values ps).map entryDelimiters) := by
  have hquestion : Percent.isEncoded '?' = false := by decide
  have hamp : Percent.isEncoded '&' = false := by decide
  by_cases hnil : queryEntries values ps = []
  · simp [linkQuery?, presentEntries, hnil]
  · simp [linkQuery?, presentEntries, hnil, hquestion, hamp, Function.comp_def]

/-- The characters of a link that no encoding holds are the delimiters of the route, for the
entries that are there. -/
theorem reserved_link {scheme url : String} {values : Bindings}
    (h : r.link scheme values = .ok url) :
    reserved url.toList = r.delimiters scheme (presentEntries values r.queryParameters) := by
  obtain ⟨texts, entries, htexts, hentries, rfl⟩ := link_eq_ok_iff.mp h
  have hfront (s : String) : reserved (s ++ String.ofList (Url.Path.render (linkPieces texts) ++
      (linkQuery? (entries.filterMap id)).elim [] ('?' :: ·))).toList =
        reserved s.toList ++ Url.Path.render ((linkPieces texts).map reserved) ++
          reserved ((linkQuery? (entries.filterMap id)).elim [] ('?' :: ·)) := by simp
  rw [hfront, reserved_linkPieces htexts, filterMap_queryText hentries, reserved_linkQuery?]
  rfl

end Route

namespace Table

/-- Links of a route for values with the same entries, each with a value on both sides or without
one on both, have the same characters outside of encodings in the same order: no value can add a
delimiter, take one away or move one. -/
theorem reserved_link_eq {m : Manifest} {t : Table} (ht : m.build = .ok t) {r : Route}
    (hr : r ∈ t.routes) {values values' : Bindings}
    (hagree : ∀ name, name ∈ r.placeholders ∨ name ∈ r.parameters.map (·.name) →
      (values.find? name).map Option.isSome = (values'.find? name).map Option.isSome)
    {url url' : String} (h : t.link r.name values = .ok url)
    (h' : t.link r.name values' = .ok url') : reserved url.toList = reserved url'.toList := by
  have hwf := m.wellFormed_of_build ht
  rw [link, hwf.route?_eq_some hr] at h h'
  have hpresent : presentEntries values r.queryParameters =
      presentEntries values' r.queryParameters := by
    apply presentEntries_congr
    intro p hp
    have hname : p.name ∈ r.parameters.map (·.name) :=
      List.mem_map_of_mem (Route.mem_queryParameters.mp hp).1
    exact hagree p.name (.inr hname)
  rw [Route.reserved_link h, Route.reserved_link h', hpresent]

/-- A value that is made of delimiters, and a plain one. -/
theorem reserved_link_eq_shop :
    Manifest.shop.build = .ok Manifest.shopTable ∧
    Manifest.shopTable.link "item" (Bindings.ofList
        [("id", some "a/../b?c&d=e#f@g:h"), ("tab", some "&ref"), ("ref", none)]) =
      .ok "https://example.com/items/a%2F..%2Fb%3Fc%26d%3De%23f%40g%3Ah?tab=%26ref&ref" ∧
    Manifest.shopTable.link "item" (Bindings.ofList
        [("id", some "5"), ("tab", some ""), ("ref", none)]) =
      .ok "https://example.com/items/5?tab=&ref" ∧
    reserved
        "https://example.com/items/a%2F..%2Fb%3Fc%26d%3De%23f%40g%3Ah?tab=%26ref&ref".toList =
      reserved "https://example.com/items/5?tab=&ref".toList := by
  have hlink : Manifest.shopTable.link "item" (Bindings.ofList
      [("id", some "a/../b?c&d=e#f@g:h"), ("tab", some "&ref"), ("ref", none)]) =
        .ok "https://example.com/items/a%2F..%2Fb%3Fc%26d%3De%23f%40g%3Ah?tab=%26ref&ref" := by
    decide +kernel
  have hlink' : Manifest.shopTable.link "item" (Bindings.ofList
      [("id", some "5"), ("tab", some ""), ("ref", none)]) =
        .ok "https://example.com/items/5?tab=&ref" := by decide +kernel
  have hitem : Manifest.shopTable.routes[0] ∈ Manifest.shopTable.routes :=
    List.getElem_mem (by decide)
  have hagree : ∀ name ∈ ["id", "id", "tab", "ref"],
      ((Bindings.ofList [("id", some "a/../b?c&d=e#f@g:h"), ("tab", some "&ref"),
        ("ref", none)]).find? name).map Option.isSome =
      ((Bindings.ofList [("id", some "5"), ("tab", some ""), ("ref", none)]).find? name).map
        Option.isSome := by decide +kernel
  refine ⟨Manifest.build_shop, hlink, hlink', ?_⟩
  refine reserved_link_eq Manifest.build_shop hitem (fun name hname => hagree name ?_) hlink hlink'
  have hnames : name ∈ ["id"] ++ ["id", "tab", "ref"] := List.mem_append.mpr hname
  exact hnames

end Table

end DeepLinks
