import DeepLinks.Proofs.BuiltTable
import DeepLinks.Proofs.ExactBinding

/-!
# Keys that are reported as unbound

A route is compiled with a warning for every key in the query part of its template that is no
parameter. Every compiled route binds some location, and what it binds are its placeholders and its
parameters. So no key that stays unbound is passed over in silence; a key that the path binds is
reported all the same if it is no parameter.
-/

namespace DeepLinks

namespace Route

/-- The key is reported as one that will not be bound. -/
def Warns (r : Route) (key : String) : Prop :=
  .unboundKey r.name key ∈ r.compileEvents

/-- Some location makes the route bind the name. -/
def MayBind (r : Route) (name : String) : Prop :=
  ∃ u b, r.bind? u = some b ∧ name ∈ b.names

@[simp] theorem warns_iff_mem_unboundKeys {r : Route} {key : String} :
    r.Warns key ↔ key ∈ r.unboundKeys := by
  simp [Warns, compileEvents]

@[simp] theorem mem_unboundKeys_iff {r : Route} {key : String} :
    key ∈ r.unboundKeys ↔
      key ∈ Template.queryKeys r.template ∧ key ∉ r.parameters.map (·.name) := by
  simp [unboundKeys]

/-- The route's own host, its template as the path, and a bare key for every parameter. -/
def sampleLocation (r : Route) : Location where
  scheme := ""
  host := r.hosts.first
  path := r.segments.map Segment.display
  query := Bindings.ofList (r.parameters.map fun p => (p.name, none))

theorem contains_query_sampleLocation {r : Route} {p : Parameter} (hp : p ∈ r.parameters) :
    r.sampleLocation.query.contains p.name = true := by
  have hmem : p.name ∈ r.parameters.reverse.map (·.name) :=
    List.mem_map_of_mem (List.mem_reverse.mpr hp)
  have hlookup := Bindings.lookup_map_name (fun q : Parameter => q.name) (fun _ => none)
    r.parameters.reverse p.name
  rw [if_pos hmem, List.map_reverse] at hlookup
  rw [Bindings.contains_eq_true_iff, sampleLocation, Bindings.find?_ofList]
  exact ⟨none, hlookup⟩

theorem admits_sampleLocation {r : Route} (h : r.hosts.list ≠ []) : r.Admits r.sampleLocation where
  host := List.any_eq_true.mp (Names.accepts_first h)
  length := (List.length_map _).symm
  literal text value hzip := by
    have hdisplay : r.segments.zip (r.segments.map Segment.display) =
        r.segments.map fun s => (s, s.display) := by
      simpa using List.zip_map' (f := id) (g := Segment.display) (l := r.segments)
    rw [sampleLocation, hdisplay] at hzip
    obtain ⟨s, -, hs⟩ := List.mem_map.mp hzip
    obtain ⟨rfl, rfl⟩ := Prod.mk.inj hs
    rfl
  mandatory p hp _ _ := contains_query_sampleLocation hp

theorem exists_bind_of_compile {defaultHosts : Names} {earlier : List String} {d : Declaration}
    {r : Route} (hr : compile defaultHosts earlier d = .ok r) : ∃ u b, r.bind u = .ok b := by
  obtain ⟨hplaceholders, hparameters⟩ := nodup_of_compile hr
  have hhosts : r.hosts.list ≠ [] := by
    obtain ⟨-, -, -, segments, -, hhosts, -, rfl⟩ := compile_eq_ok_iff.mp hr
    simpa [Names.isEmpty] using hhosts
  exact ⟨r.sampleLocation, (admits_sampleLocation hhosts).exists_bind hplaceholders hparameters⟩

/-- A compiled route always binds its placeholders and its parameters, and never anything else. -/
theorem mayBind_iff {defaultHosts : Names} {earlier : List String} {d : Declaration} {r : Route}
    (hr : compile defaultHosts earlier d = .ok r) {name : String} :
    r.MayBind name ↔ name ∈ r.placeholders ∨ name ∈ r.parameters.map (·.name) := by
  obtain ⟨hplaceholders, hparameters⟩ := nodup_of_compile hr
  have hnames {u : Location} {b : Bindings} (hb : r.bind u = .ok b) :
      name ∈ b.names ↔ name ∈ r.placeholders ∨ name ∈ r.parameters.map (·.name) :=
    (spec_of_bind_eq_ok hplaceholders hparameters hb).2.names name
  constructor
  · rintro ⟨u, b, hb, hname⟩
    exact (hnames (toOption_eq_some_iff.mp hb)).mp hname
  · intro hname
    obtain ⟨u, b, hb⟩ := exists_bind_of_compile hr
    exact ⟨u, b, toOption_eq_some_iff.mpr hb, (hnames hb).mpr hname⟩

end Route

namespace Manifest

theorem compileAfter_events (defaultHosts : Names) (earlier : List String)
    (ds : List Declaration) :
    (compileAfter defaultHosts earlier ds).events =
      (compileAfter defaultHosts earlier ds).routes.flatMap Route.compileEvents := by
  induction ds generalizing earlier with
  | nil => rfl
  | cons d ds ih =>
    rw [compileAfter]
    cases Route.compile defaultHosts earlier d with
    | ok r => simp [ih]
    | error e => exact ih _

/-- Whatever else is wrong, the routes that compile have names of their own. -/
theorem compileAfter_names (defaultHosts : Names) (earlier : List String)
    (ds : List Declaration) :
    (∀ r ∈ (compileAfter defaultHosts earlier ds).routes, r.name ∉ earlier) ∧
    ((compileAfter defaultHosts earlier ds).routes.map (·.name)).Nodup := by
  induction ds generalizing earlier with
  | nil => simp [compileAfter]
  | cons d ds ih =>
    obtain ⟨hfresh, hnodup⟩ := ih (d.name :: earlier)
    have hrest : ∀ r ∈ (compileAfter defaultHosts (d.name :: earlier) ds).routes,
        r.name ∉ earlier := fun r hr => List.not_mem_of_not_mem_cons (hfresh r hr)
    rw [compileAfter]
    cases hcompile : Route.compile defaultHosts earlier d with
    | error e => exact ⟨hrest, hnodup⟩
    | ok r =>
      obtain ⟨-, hnew, -, segments, -, -, -, rfl⟩ := Route.compile_eq_ok_iff.mp hcompile
      refine ⟨List.forall_mem_cons.mpr ⟨hnew, hrest⟩, List.nodup_cons.mpr ⟨?_, hnodup⟩⟩
      intro hmem
      obtain ⟨r, hr, hname⟩ := List.mem_map.mp hmem
      exact hfresh r hr (hname ▸ List.mem_cons_self)

theorem compile_routes_events (m : Manifest) :
    m.compile.routes = (compileAfter (Names.ofList m.defaultHosts) [] m.routes).routes ∧
    m.compile.events = m.compile.routes.flatMap Route.compileEvents := by
  rw [compile]
  split <;> exact ⟨rfl, compileAfter_events _ _ _⟩

/-- What a build reports of a key under the name of a route is about that route. -/
theorem unboundKey_mem_buildEvents_iff {m : Manifest} {r : Route} (hr : r ∈ m.compile.routes)
    {key : String} : .unboundKey r.name key ∈ m.buildEvents ↔ r.Warns key := by
  obtain ⟨hroutes, hevents⟩ := m.compile_routes_events
  have hnodup : (m.compile.routes.map (·.name)).Nodup := hroutes ▸ (compileAfter_names _ _ _).2
  have hbuilt : .unboundKey r.name key ∈ m.buildEvents ↔
      .unboundKey r.name key ∈ m.compile.events := by
    rw [buildEvents, List.mem_append, or_iff_left]
    cases m.build <;> simp
  rw [hbuilt, hevents, List.mem_flatMap]
  constructor
  · rintro ⟨other, hother, hmem⟩
    have hname : other.name = r.name := by
      simp only [Route.compileEvents, List.mem_append, List.mem_map, List.mem_singleton,
        Event.unboundKey.injEq, reduceCtorEq, or_false] at hmem
      obtain ⟨_, -, hname, -⟩ := hmem
      exact hname
    obtain rfl : other = r := List.inj_on_of_nodup_map hnodup hother hr hname
    exact hmem
  · exact fun hwarns => ⟨r, hr, hwarns⟩

end Manifest

namespace Route

/-- A key in the query part of a template is reported exactly if it is no parameter. Those are the
keys that no location makes the route bind, so none of them goes without a report, and the
placeholders that are no parameters. So the report is right unless the key is one of these. -/
theorem warns_iff {defaultHosts : Names} {earlier : List String} {d : Declaration} {r : Route}
    (hr : compile defaultHosts earlier d = .ok r) {key : String}
    (hkey : key ∈ Template.queryKeys d.template) :
    (∀ m : Manifest, r ∈ m.compile.routes →
      (.unboundKey d.name key ∈ m.buildEvents ↔ r.Warns key)) ∧
    (r.Warns key ↔ key ∉ d.parameters.map (·.name)) ∧
    (r.Warns key ↔ ¬ r.MayBind key ∨ key ∈ r.placeholders ∧ key ∉ d.parameters.map (·.name)) ∧
    ((r.Warns key ↔ ¬ r.MayBind key) ↔
      (key ∈ r.placeholders → key ∈ d.parameters.map (·.name))) := by
  have hd : r.name = d.name ∧ r.template = d.template ∧ r.parameters = d.parameters := by
    obtain ⟨-, -, -, segments, -, -, -, rfl⟩ := compile_eq_ok_iff.mp hr
    exact ⟨rfl, rfl, rfl⟩
  have hwarns : r.Warns key ↔ key ∉ d.parameters.map (·.name) := by
    rw [warns_iff_mem_unboundKeys, mem_unboundKeys_iff, hd.2.1, hd.2.2, and_iff_right hkey]
  refine ⟨fun m hm => hd.1 ▸ m.unboundKey_mem_buildEvents_iff hm, hwarns, ?_⟩
  rw [mayBind_iff hr, hwarns, hd.2.2]
  by_cases hplaceholder : key ∈ r.placeholders
  · simp [hplaceholder]
  · simp [hplaceholder]

end Route

/-- The query part of the template names a placeholder, a parameter and another key. -/
def Declaration.profile : Declaration where
  name := "profile"
  template := "/users/\x7bid\x7d?id=\x7bid\x7d&tab=\x7btab\x7d&utm="
  hosts := []
  parameters := [⟨"tab", false⟩]

/-- A manifest with no other route. -/
def Manifest.profiles : Manifest where
  schemes := ["https"]
  defaultHosts := ["example.com"]
  routes := [Declaration.profile]

namespace Route

/-- The route of `Declaration.profile`. -/
def profile : Route where
  name := "profile"
  template := Declaration.profile.template
  segments := [.literal "users", .placeholder "id"]
  hosts := Names.ofList ["example.com"]
  parameters := Declaration.profile.parameters

theorem compile_profile :
    compile (Names.ofList ["example.com"]) [] Declaration.profile = .ok profile := by cbv

@[simp] theorem queryKeys_profile :
    Template.queryKeys Declaration.profile.template = ["id", "tab", "utm"] := by cbv

theorem warns_iff_profile :
    compile (Names.ofList ["example.com"]) [] Declaration.profile = .ok profile ∧
    (.unboundKey "profile" "utm" ∈ Manifest.profiles.buildEvents ∧ ¬ profile.MayBind "utm") ∧
    (.unboundKey "profile" "tab" ∉ Manifest.profiles.buildEvents ∧ profile.MayBind "tab") := by
  have hmem : profile ∈ Manifest.profiles.compile.routes := by decide +kernel
  have hutm : "utm" ∈ Template.queryKeys Declaration.profile.template := by simp [queryKeys_profile]
  have htab : "tab" ∈ Template.queryKeys Declaration.profile.template := by simp [queryKeys_profile]
  refine ⟨compile_profile, ?_, ?_⟩
  · obtain ⟨hlog, hwarns, -, hright⟩ := warns_iff compile_profile hutm
    have hutm : profile.Warns "utm" := hwarns.mpr (by decide)
    exact ⟨(hlog _ hmem).mpr hutm, (hright.mpr (by decide)).mp hutm⟩
  · obtain ⟨hlog, hwarns, -, hright⟩ := warns_iff compile_profile htab
    have htab : ¬ profile.Warns "tab" := hwarns.not.mpr (by decide)
    exact ⟨(hlog _ hmem).not.mpr htab, not_not.mp ((hright.mpr (by decide)).not.mp htab)⟩

/-- The placeholder is reported as a key that will not be bound, and bound to a segment. -/
theorem warns_id_profile :
    compile (Names.ofList ["example.com"]) [] Declaration.profile = .ok profile ∧
    "id" ∈ Template.queryKeys Declaration.profile.template ∧
    .unboundKey "profile" "id" ∈ Manifest.profiles.buildEvents ∧ profile.Warns "id" ∧
    (∃ b, profile.bind? ⟨"https", "example.com", ["users", "7"],
      Bindings.ofList [("id", some "8")]⟩ = some b ∧ b.find? "id" = some (some "7")) ∧
    profile.MayBind "id" := by
  have hbind : profile.bind? ⟨"https", "example.com", ["users", "7"],
      Bindings.ofList [("id", some "8")]⟩ =
        some (Bindings.ofList [("id", some "7"), ("tab", none)]) := by decide +kernel
  have hwarns : profile.Warns "id" := by
    rw [warns_iff_mem_unboundKeys]
    decide +kernel
  exact ⟨compile_profile, by simp [queryKeys_profile], by decide +kernel, hwarns,
    ⟨_, hbind, by decide +kernel⟩, ⟨_, _, hbind, by decide +kernel⟩⟩

end Route

end DeepLinks
