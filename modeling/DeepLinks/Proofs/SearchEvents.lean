import DeepLinks.Proofs.LinkRefusals
import DeepLinks.Proofs.UndeclaredKeys

/-!
# What a search reports

A search tells its way to the answer: each route that is passed over says what it misses, if the
location has its host and its number of segments, and the last event says how the search ended. What
a route misses is said here by first occurrences, without the order in which the path and the query
are bound.
-/

namespace DeepLinks

/-- A literal and what stands in its place, if that is another text. -/
def Segment.mismatch? : Segment × String → Option (String × String)
  | (literal text, value) => if text = value then none else some (text, value)
  | (placeholder _, _) => none

namespace Route

/-- The location has a host of the route and as many segments as its template. -/
def IsFor (r : Route) (u : Location) : Prop :=
  (∃ host ∈ r.hosts.list, Text.equalsIgnoringAsciiCase host u.host = true) ∧
    r.segments.length = u.path.length

instance (r : Route) (u : Location) : Decidable (r.IsFor u) :=
  inferInstanceAs (Decidable (_ ∧ _))

/-- What is reported of a route that is passed over: nothing if the location is not for it, else the
leftmost literal that differs, else the first mandatory parameter that is missing. -/
def report? (r : Route) (u : Location) : Option Event :=
  if r.IsFor u then
    match (r.segments.zip u.path).findSome? Segment.mismatch? with
    | some (text, value) => some (.literalMismatch r.name text value)
    | none =>
      (r.parameters.find? (r.Lacks u.query ·)).map fun p => .parameterMissing r.name p.name
  else none

/-- The path fails on the leftmost literal that differs. -/
theorem bindPath_eq_error_iff {b : Bindings} {segments : List Segment} {path : List String}
    (hlength : segments.length = path.length) {e : Refusal} :
    bindPath b segments path = .error e ↔
      ∃ text value, (segments.zip path).findSome? Segment.mismatch? = some (text, value) ∧
        e = .literal text value := by
  induction segments generalizing b path with
  | nil => simp [bindPath]
  | cons s segments ih =>
    obtain ⟨value, path, rfl⟩ := List.exists_cons_of_length_eq_add_one hlength.symm
    have hrest : segments.length = path.length := Nat.succ.inj hlength
    rw [List.zip_cons_cons, List.findSome?_cons]
    cases s with
    | literal text =>
      rw [bindPath, Segment.mismatch?]
      by_cases htext : text = value
      · rw [if_pos htext, if_pos htext]
        exact ih hrest
      · rw [if_neg htext, if_neg htext]
        simp [eq_comm]
    | placeholder name =>
      rw [bindPath, Segment.mismatch?]
      exact ih hrest

/-- The query fails on the first mandatory parameter that is bound neither before nor by it. -/
theorem bindQuery_eq_error_iff {query b : Bindings} {ps : List Parameter}
    (hnodup : (ps.map (·.name)).Nodup) {e : Refusal} :
    bindQuery query b ps = .error e ↔
      ∃ p, ps.find? (fun p => p.isMandatory = true ∧ b.contains p.name = false ∧
        query.contains p.name = false) = some p ∧ e = .missing p.name := by
  induction ps generalizing b with
  | nil => simp [bindQuery]
  | cons p ps ih =>
    rw [List.map_cons, List.nodup_cons] at hnodup
    obtain ⟨hfresh, hnodup⟩ := hnodup
    rw [bindQuery_cons, List.find?_cons]
    by_cases hlacks : p.isMandatory = true ∧ b.contains p.name = false ∧
        query.contains p.name = false
    · rw [if_pos hlacks, decide_eq_true hlacks]
      simp [eq_comm]
    · rw [if_neg hlacks, decide_eq_false hlacks, ih hnodup]
      -- a later parameter has another name, so it is bound now if it was bound before
      have hcontains : ∀ q ∈ ps,
          (b.insertIfNew p.name (query.value? p.name)).contains q.name = b.contains q.name := by
        intro q hq
        have hne : q.name ≠ p.name := fun heq => hfresh (heq ▸ List.mem_map_of_mem hq)
        unfold Bindings.contains
        rw [Bindings.find?_insertIfNew, if_neg hne]
      rw [List.find?_congr fun q hq => by rw [hcontains q hq]]

theorem contains_of_bindPath_empty {r : Route} {u : Location} {b : Bindings}
    (hlength : r.segments.length = u.path.length) (h : bindPath ∅ r.segments u.path = .ok b)
    (name : String) : b.contains name = true ↔ name ∈ r.placeholders := by
  constructor
  · intro hname
    by_contra hfresh
    rw [Bindings.contains, find?_of_bindPath h hfresh] at hname
    contradiction
  · exact fun hname => contains_of_bindPath hlength h (.inr hname)

theorem isFor_iff {r : Route} {u : Location} :
    r.IsFor u ↔ r.hosts.accepts u.host = true ∧ r.segments.length = u.path.length := by
  rw [IsFor, Names.accepts, List.any_eq_true]

theorem bind_of_isFor {r : Route} {u : Location} (h : r.IsFor u) :
    r.bind u = bindPath ∅ r.segments u.path >>= fun b => bindQuery u.query b r.parameters := by
  obtain ⟨hhost, hlength⟩ := isFor_iff.mp h
  rw [bind_eq, if_neg (by simp [hhost]), if_neg (by simp [hlength])]

/-- A route that the location is not for is passed over without a word. -/
theorem event?_of_not_isFor {r : Route} {u : Location} (h : ¬ r.IsFor u) {e : Refusal}
    (he : r.bind u = .error e) : e.event? r.name = none := by
  rw [isFor_iff] at h
  rw [bind_eq] at he
  by_cases hhost : r.hosts.accepts u.host = false
  · rw [if_pos hhost] at he
    obtain rfl := Except.error.inj he
    rfl
  · have hlength : r.segments.length ≠ u.path.length :=
      fun hlength => h ⟨by simpa using hhost, hlength⟩
    rw [if_neg hhost, if_pos hlength] at he
    obtain rfl := Except.error.inj he
    rfl

/-- A route that the location is for has one thing to say if it does not bind. -/
theorem report?_of_isFor {r : Route} (hparameters : (r.parameters.map (·.name)).Nodup)
    {u : Location} (h : r.IsFor u) {e : Refusal} (he : r.bind u = .error e) :
    ∃ event, event.level = .trace ∧ e.event? r.name = some event ∧ r.report? u = some event := by
  have hlength := h.2
  rw [bind_of_isFor h] at he
  rw [report?, if_pos h]
  rcases bind_eq_error_iff.mp he with hpath | ⟨b, hpath, hquery⟩
  · obtain ⟨text, value, hmismatch, rfl⟩ := (bindPath_eq_error_iff hlength).mp hpath
    rw [hmismatch]
    exact ⟨_, rfl, rfl, rfl⟩
  · have hmismatch : (r.segments.zip u.path).findSome? Segment.mismatch? = none := by
      by_contra hne
      obtain ⟨⟨text, value⟩, hsome⟩ := Option.ne_none_iff_exists'.mp hne
      have herror := (bindPath_eq_error_iff (b := ∅) hlength).mpr ⟨text, value, hsome, rfl⟩
      rw [hpath] at herror
      contradiction
    have hlacks (p : Parameter) : r.Lacks u.query p ↔ p.isMandatory = true ∧
        b.contains p.name = false ∧ u.query.contains p.name = false := by
      rw [← Bool.not_eq_true (b.contains _), contains_of_bindPath_empty hlength hpath]
      simp [Lacks, Bindings.contains]
    obtain ⟨p, hp, rfl⟩ := (bindQuery_eq_error_iff hparameters).mp hquery
    simp only [hmismatch, hlacks, hp]
    exact ⟨_, rfl, rfl, rfl⟩

theorem event?_eq_report? {r : Route} (hparameters : (r.parameters.map (·.name)).Nodup)
    {u : Location} {e : Refusal} (he : r.bind u = .error e) :
    e.event? r.name = r.report? u := by
  by_cases h : r.IsFor u
  · obtain ⟨event, -, hevent, hreport⟩ := report?_of_isFor hparameters h he
    rw [hevent, hreport]
  · rw [event?_of_not_isFor h he, report?, if_neg h]

end Route

namespace Table

/-- The routes before the first one that binds a location. -/
def passed (u : Location) (rs : List Route) : List Route :=
  rs.takeWhile fun r => (r.bind? u).isNone

/-- How a search ends. -/
def conclusion (u : Location) : Option Deeplink → Event
  | some d => .matched d.route u.host
  | none => .noMatch u.host u.path.length

@[simp] theorem passed_cons_of_ok {u : Location} {r : Route} {b : Bindings}
    (h : r.bind u = .ok b) (rs : List Route) : passed u (r :: rs) = [] := by
  simp [passed, Route.bind?, h]

@[simp] theorem passed_cons_of_error {u : Location} {r : Route} {e : Route.Refusal}
    (h : r.bind u = .error e) (rs : List Route) : passed u (r :: rs) = r :: passed u rs := by
  simp [passed, Route.bind?, h]

theorem exists_refusal_of_mem_passed {u : Location} {rs : List Route} {r : Route}
    (h : r ∈ passed u rs) : ∃ e, r.bind u = .error e := by
  have hnone : r.bind? u = none := by simpa using List.mem_takeWhile_imp h
  unfold Route.bind? at hnone
  cases hbind : r.bind u with
  | error e => exact ⟨e, rfl⟩
  | ok b => simp [hbind] at hnone

/-- The routes that are passed over report one after another, then the search ends. -/
theorem scan_events {u : Location} {rs : List Route}
    (h : ∀ r ∈ rs, (r.parameters.map (·.name)).Nodup) :
    (scan u rs).events =
      (passed u rs).filterMap (·.report? u) ++ [conclusion u (scan u rs).deeplink] := by
  induction rs with
  | nil => rfl
  | cons r rs ih =>
    obtain ⟨hr, hrs⟩ := List.forall_mem_cons.mp h
    cases hbind : r.bind u with
    | ok b => simp [hbind, conclusion]
    | error e =>
      simp [hbind, Route.event?_eq_report? hr hbind, ih hrs, List.filterMap_eq_flatMap_toList]

theorem isSome_iff_conclusion {u : Location} {answer : Option Deeplink} :
    answer.isSome = true ↔ ∃ route host, conclusion u answer = .matched route host := by
  cases answer <;> simp [conclusion]

theorem resolution_of_parse {t : Table} {url : String} {u : Location}
    (h : Location.parse url = .ok u) :
    t.resolution url = if t.schemes.accepts u.scheme = true then scan u t.routes
      else ⟨none, [.schemeNotAccepted u.scheme]⟩ := by
  unfold resolution
  rw [h]
  rfl

/-- The events for a URL explain where it leads. There is one event if it names no location, and one
if its scheme is not accepted. Else there is one for each route before the first that binds, if the
location has a host of the route and its number of segments: the leftmost literal that differs, or
else the first mandatory parameter that is missing. One more event ends the search and names the
route of the answer. So there is an answer exactly if the last event says so. -/
theorem resolution_events {m : Manifest} {t : Table} (ht : m.build = .ok t) (url : String) :
    (∀ cause, Location.parse url = .error cause →
      (t.resolution url).events = [.unparseableUrl url cause]) ∧
    (∀ u, Location.parse url = .ok u → t.schemes.accepts u.scheme = false →
      (t.resolution url).events = [.schemeNotAccepted u.scheme]) ∧
    (∀ u, Location.parse url = .ok u → t.schemes.accepts u.scheme = true →
      (t.resolution url).events =
        (passed u t.routes).filterMap (·.report? u) ++ [conclusion u (t.resolve url)] ∧
      ∀ r ∈ passed u t.routes, ((r.report? u).isSome = true ↔ r.IsFor u) ∧
        ∀ event, r.report? u = some event → event.level = .trace) ∧
    ((t.resolve url).isSome = true ↔
      ∃ route host, (t.resolution url).events.getLast? = some (.matched route host)) := by
  have hnodup := (m.wellFormed_of_build ht).parameters_nodup
  have hevents (u : Location) (hu : Location.parse url = .ok u)
      (hscheme : t.schemes.accepts u.scheme = true) : (t.resolution url).events =
        (passed u t.routes).filterMap (·.report? u) ++ [conclusion u (t.resolve url)] := by
    rw [resolve, resolution_of_parse hu, if_pos hscheme]
    exact scan_events hnodup
  refine ⟨fun cause hu => ?_, fun u hu hscheme => ?_,
    fun u hu hscheme => ⟨hevents u hu hscheme, fun r hr => ?_⟩, ?_⟩
  · rw [resolution, hu]
  · rw [resolution_of_parse hu, if_neg (by simp [hscheme])]
  · obtain ⟨e, he⟩ := exists_refusal_of_mem_passed hr
    by_cases hfor : r.IsFor u
    · obtain ⟨event, hlevel, -, hreport⟩ :=
        Route.report?_of_isFor (hnodup r (List.takeWhile_subset _ hr)) hfor he
      rw [hreport]
      exact ⟨iff_of_true rfl hfor, fun _ h => Option.some.inj h ▸ hlevel⟩
    · rw [Route.report?, if_neg hfor]
      exact ⟨iff_of_false Bool.false_ne_true hfor, fun _ h => nomatch h⟩
  · cases hu : Location.parse url with
    | error cause => simp [resolve, resolution, hu]
    | ok u =>
      by_cases hscheme : t.schemes.accepts u.scheme = true
      · rw [hevents u hu hscheme, List.getLast?_concat, isSome_iff_conclusion (u := u)]
        simp
      · simp [resolve, resolution_of_parse hu, hscheme]

end Table

namespace Manifest

/-- Four routes, three of which do not bind a search without a term. -/
def finder : Manifest where
  schemes := ["https"]
  defaultHosts := ["example.com"]
  routes := [
    ⟨"pay", "/search", ["pay.example.com"], []⟩,
    ⟨"help", "/help", [], []⟩,
    ⟨"find", "/search", [], [⟨"page", false⟩, ⟨"q", true⟩]⟩,
    ⟨"browse", "/\x7barea\x7d", [], [⟨"area", true⟩]⟩]

/-- The table of `Manifest.finder`. -/
def finderTable : Table where
  schemes := Names.ofList ["https"]
  routes := [
    ⟨"pay", "/search", [.literal "search"], Names.ofList ["pay.example.com"], []⟩,
    ⟨"help", "/help", [.literal "help"], Names.ofList ["example.com"], []⟩,
    ⟨"find", "/search", [.literal "search"], Names.ofList ["example.com"],
      [⟨"page", false⟩, ⟨"q", true⟩]⟩,
    ⟨"browse", "/\x7barea\x7d", [.placeholder "area"], Names.ofList ["example.com"],
      [⟨"area", true⟩]⟩]

theorem build_finder : finder.build = .ok finderTable := by cbv

end Manifest

namespace Table

/-- A route of another host says nothing, two more say what they miss, and the last one binds. -/
theorem resolution_events_finder :
    Manifest.finder.build = .ok Manifest.finderTable ∧
    (Manifest.finderTable.resolution "https://example.com/search?page=2").events =
      [.literalMismatch "help" "help" "search", .parameterMissing "find" "q",
        .matched "browse" "example.com"] ∧
    (Manifest.finderTable.resolve "https://example.com/search?page=2").isSome = true ∧
    (Manifest.finderTable.resolution "http://example.com/").events = [.schemeNotAccepted "http"] ∧
    (Manifest.finderTable.resolution "mailto:me").events =
      [.unparseableUrl "mailto:me" .missingHost] := by
  have hsearch : Location.parse "https://example.com/search?page=2" =
      .ok ⟨"https", "example.com", ["search"], Bindings.ofList [("page", some "2")]⟩ := by
    decide +kernel
  have hhttp : Location.parse "http://example.com/" = .ok ⟨"http", "example.com", [], ∅⟩ := by
    decide +kernel
  have hmail : Location.parse "mailto:me" = .error .missingHost := by decide +kernel
  obtain ⟨-, -, hfor, hsome⟩ :=
    resolution_events Manifest.build_finder "https://example.com/search?page=2"
  have hevents : (Manifest.finderTable.resolution "https://example.com/search?page=2").events =
      [.literalMismatch "help" "help" "search", .parameterMissing "find" "q",
        .matched "browse" "example.com"] :=
    (hfor _ hsearch (by decide +kernel)).1.trans (by decide +kernel)
  refine ⟨Manifest.build_finder, hevents, hsome.mpr ⟨"browse", "example.com", ?_⟩,
    (resolution_events Manifest.build_finder _).2.1 _ hhttp (by decide +kernel),
    (resolution_events Manifest.build_finder _).1 _ hmail⟩
  rw [hevents]
  rfl

end Table

end DeepLinks
