import DeepLinks.Proofs.Outcomes
import DeepLinks.Table
import Mathlib.Data.List.Induction
import Mathlib.Data.List.Nodup

/-!
# Faults of a manifest

`Declaration.faults` lists all that is wrong with a declaration, cause by cause and without the
order of any check. The one pass of compilation reports the first fault of every declaration that
has one, in the order of the declarations, and builds a table exactly if it reports nothing.
-/

namespace DeepLinks

namespace Declaration

/-- What is wrong with the parameter at a place: it has no name, or one that stands before it. -/
def parameterFault (d : Declaration) (p : Parameter) (place : Nat) : List ConfigurationError :=
  if p.name = "" then [.emptyParameterName d.name]
  else if p.name ∈ (d.parameters.take place).map (·.name) then [.duplicateParameter d.name p.name]
  else []

/-- All that is wrong with a declaration after the given ones, causes of more weight first. -/
def faults (defaultHosts : List String) (earlier : List Declaration) (d : Declaration) :
    List ConfigurationError :=
  (if Text.trim d.name = "" then [.emptyRouteName d.template] else []) ++
  (if d.name ∈ earlier.map (·.name) then [.duplicateRoute d.name] else []) ++
  (if Text.trim d.name ≠ d.name then [.routeNameWhitespace d.name] else []) ++
  (match Template.compile d.template with
    | .error cause => [.faultyTemplate d.name cause]
    | .ok _ => []) ++
  (if d.hosts = [] ∧ defaultHosts = [] then [.noHosts d.name] else []) ++
  d.parameters.zipIdx.flatMap fun p => d.parameterFault p.1 p.2

/-- The fault that is reported. -/
def fault? (defaultHosts : List String) (earlier : List Declaration) (d : Declaration) :
    Option ConfigurationError :=
  (d.faults defaultHosts earlier).head?

end Declaration

/-- A route that stands for a declaration under the given default hosts. -/
structure Route.StandsFor (r : Route) (defaultHosts : List String) (d : Declaration) : Prop where
  name : r.name = d.name
  template : r.template = d.template
  segments : Template.compile d.template = .ok r.segments
  hosts : r.hosts = Names.ofList (if d.hosts = [] then defaultHosts else d.hosts)
  parameters : r.parameters = d.parameters

namespace Route

theorem parameterFault?_eq_head? {d : Declaration} (names : List String)
    (before after : List Parameter) (hd : d.parameters = before ++ after)
    (hnames : ∀ n, n ∈ names ↔ n ∈ before.map (·.name)) :
    parameterFault? d.name names after =
      ((after.zipIdx before.length).flatMap fun p => d.parameterFault p.1 p.2).head? := by
  induction after generalizing before names with
  | nil => rfl
  | cons p after ih =>
    have hfault : d.parameterFault p before.length =
        if p.name = "" then [.emptyParameterName d.name]
        else if p.name ∈ names then [.duplicateParameter d.name p.name] else [] := by
      simp [Declaration.parameterFault, hd, hnames]
    rw [parameterFault?, List.zipIdx_cons, List.flatMap_cons, hfault]
    by_cases hempty : p.name = ""
    · simp [hempty]
    by_cases hdup : p.name ∈ names
    · simp [hempty, hdup]
    have hlength : before.length + 1 = (before ++ [p]).length := by simp
    simp only [hempty, hdup, ↓reduceIte, List.nil_append, hlength]
    refine ih (p.name :: names) (before ++ [p]) (by simp [hd]) fun n => ?_
    simp [hnames, or_comm]

/-- Compiling a declaration ends with its fault, or with a route that stands for it. -/
theorem compile_cases (defaultHosts : List String) {names : List String}
    {earlier : List Declaration} (d : Declaration)
    (hnames : ∀ n, n ∈ names ↔ n ∈ earlier.map (·.name)) :
    (∃ e, compile (Names.ofList defaultHosts) names d = .error e ∧
      d.fault? defaultHosts earlier = some e) ∨
    ∃ r, compile (Names.ofList defaultHosts) names d = .ok r ∧
      d.fault? defaultHosts earlier = none ∧ r.StandsFor defaultHosts d := by
  simp only [Declaration.fault?, Declaration.faults, compile, ← hnames]
  by_cases hempty : Text.trim d.name = ""
  · exact .inl ⟨.emptyRouteName d.template, by simp [hempty], by simp [hempty]⟩
  by_cases hdup : d.name ∈ names
  · exact .inl ⟨.duplicateRoute d.name, by simp [hempty, hdup], by simp [hempty, hdup]⟩
  by_cases hspace : Text.trim d.name ≠ d.name
  · exact .inl ⟨.routeNameWhitespace d.name, by simp [hempty, hdup, hspace],
      by simp [hempty, hdup, hspace]⟩
  simp only [hempty, hdup, hspace, ↓reduceIte]
  cases htemplate : Template.compile d.template with
  | error cause => exact .inl ⟨_, rfl, rfl⟩
  | ok segments =>
    have hhosts : (if d.hosts.isEmpty then Names.ofList defaultHosts else Names.ofList d.hosts) =
        Names.ofList (if d.hosts = [] then defaultHosts else d.hosts) := by
      cases d.hosts <;> rfl
    simp only [mapError_ok, ok_bind, hhosts, Names.isEmpty_ofList, List.append_nil,
      List.nil_append]
    by_cases hmissing : d.hosts = [] ∧ defaultHosts = []
    · exact .inl ⟨.noHosts d.name, by simp [hmissing], by simp [hmissing]⟩
    have hpresent : ¬ (if d.hosts = [] then defaultHosts else d.hosts).isEmpty = true := by
      split <;> simp_all
    have hparameters := parameterFault?_eq_head? [] [] d.parameters rfl (by simp)
    simp only [hpresent, hmissing, hparameters, ↓reduceIte, List.nil_append, List.length_nil]
    cases (d.parameters.zipIdx.flatMap fun p => d.parameterFault p.1 p.2).head? with
    | some fault => exact .inl ⟨fault, rfl, rfl⟩
    | none => exact .inr ⟨_, rfl, rfl, rfl, rfl, htemplate, rfl, rfl⟩

end Route

/-- No name is repeated if none stands before its own place. -/
theorem nodup_map_iff_forall_take {α β : Type} {f : α → β} {l : List α} :
    (l.map f).Nodup ↔ ∀ i a, l[i]? = some a → f a ∉ (l.take i).map f := by
  induction l using List.reverseRecOn with
  | nil => simp
  | append_singleton l b ih =>
    have happend : ((l ++ [b]).map f).Nodup ↔ f b ∉ l.map f ∧ (l.map f).Nodup := by
      rw [List.map_append, List.nodup_append_comm]
      exact List.nodup_cons
    rw [happend, ih]
    constructor
    · rintro ⟨hb, hl⟩ i a ha
      rcases Nat.lt_or_ge i l.length with hi | hi
      · rw [List.getElem?_append_left hi] at ha
        rw [List.take_append_of_le_length (Nat.le_of_lt hi)]
        exact hl i a ha
      · rw [List.getElem?_append_right hi] at ha
        obtain ⟨hlast, rfl⟩ : i - l.length = 0 ∧ b = a := by
          simpa [List.getElem?_singleton] using ha
        rw [show i = l.length by omega, List.take_left]
        exact hb
    · intro h
      constructor
      · simpa using h l.length b (by simp)
      · intro i a ha
        have hi := (List.getElem?_eq_some_iff.mp ha).1
        have hia := h i a (by rw [List.getElem?_append_left hi]; exact ha)
        rwa [List.take_append_of_le_length (Nat.le_of_lt hi)] at hia

namespace Declaration

theorem parameterFaults_eq_nil_iff {d : Declaration} :
    (d.parameters.zipIdx.flatMap fun p => d.parameterFault p.1 p.2) = [] ↔
      (∀ p ∈ d.parameters, p.name ≠ "") ∧ (d.parameters.map (·.name)).Nodup := by
  rw [List.flatMap_eq_nil_iff, nodup_map_iff_forall_take]
  have hfault (p : Parameter) (i : ℕ) : d.parameterFault p i = [] ↔
      p.name ≠ "" ∧ p.name ∉ (d.parameters.take i).map (·.name) := by
    unfold parameterFault
    by_cases hempty : p.name = "" <;> simp [hempty]
  constructor
  · intro h
    refine ⟨fun p hp => ?_, fun i p hp => ?_⟩
    · obtain ⟨i, hi⟩ := List.mem_iff_getElem?.mp hp
      exact ((hfault p i).mp (h (p, i) (List.mk_mem_zipIdx_iff_getElem?.mpr hi))).1
    · exact ((hfault p i).mp (h (p, i) (List.mk_mem_zipIdx_iff_getElem?.mpr hp))).2
  · rintro ⟨hname, hnodup⟩ ⟨p, i⟩ hp
    have hi := List.mk_mem_zipIdx_iff_getElem?.mp hp
    exact (hfault p i).mpr ⟨hname p (List.mem_iff_getElem?.mpr ⟨i, hi⟩), hnodup i p hi⟩

/-- What it means for a declaration to have no fault. -/
theorem fault?_eq_none_iff {defaultHosts : List String} {earlier : List Declaration}
    {d : Declaration} :
    d.fault? defaultHosts earlier = none ↔
      Text.trim d.name ≠ "" ∧ d.name ∉ earlier.map (·.name) ∧ Text.trim d.name = d.name ∧
      (∃ segments, Template.compile d.template = .ok segments) ∧
      ¬ (d.hosts = [] ∧ defaultHosts = []) ∧
      (∀ p ∈ d.parameters, p.name ≠ "") ∧ (d.parameters.map (·.name)).Nodup := by
  rw [fault?, List.head?_eq_none_iff, faults, ← parameterFaults_eq_nil_iff]
  cases Template.compile d.template <;> simp

end Declaration

namespace Manifest

theorem compileAfter_spec (defaultHosts : List String) {all : List Declaration}
    (names : List String) (before after : List Declaration) (hall : all = before ++ after)
    (hnames : ∀ n, n ∈ names ↔ n ∈ before.map (·.name)) :
    (compileAfter (Names.ofList defaultHosts) names after).errors =
      ((after.zipIdx before.length).filterMap fun d => d.1.fault? defaultHosts (all.take d.2)) ∧
    ((compileAfter (Names.ofList defaultHosts) names after).errors = [] →
      List.Forall₂ (fun d r => Route.StandsFor r defaultHosts d) after
        (compileAfter (Names.ofList defaultHosts) names after).routes) := by
  induction after generalizing before names with
  | nil => exact ⟨rfl, fun _ => .nil⟩
  | cons d after ih =>
    have htake : all.take before.length = before := by simp [hall]
    have hlength : (before ++ [d]).length = before.length + 1 := by simp
    obtain ⟨ihErrors, ihRoutes⟩ := ih (d.name :: names) (before ++ [d])
      (by simp [hall]) fun n => by
        simp [hnames, or_comm]
    rw [List.zipIdx_cons, List.filterMap_cons, htake, ← hlength, ← ihErrors]
    rcases Route.compile_cases defaultHosts d hnames with
      ⟨e, hcompile, hfault⟩ | ⟨r, hcompile, hfault, hr⟩
    · simp [compileAfter, hcompile, hfault]
    · simp only [compileAfter, hcompile, hfault, List.forall₂_cons]
      exact ⟨trivial, fun h => ⟨hr, ihRoutes h⟩⟩

/-- One error for each faulty declaration, in order, after the one for missing schemes. -/
theorem errors_eq (m : Manifest) :
    m.errors = (if m.schemes = [] then [.noSchemes] else []) ++
      m.routes.zipIdx.filterMap fun d => d.1.fault? m.defaultHosts (m.routes.take d.2) := by
  have h := (compileAfter_spec m.defaultHosts [] [] m.routes rfl (by simp)).1
  simp only [List.length_nil, List.nil_append] at h
  rw [← h, errors, compile]
  cases m.schemes <;> rfl

theorem errors_eq_nil_iff {m : Manifest} :
    m.errors = [] ↔ m.schemes ≠ [] ∧
      ∀ (i : ℕ) (d : Declaration), m.routes[i]? = some d →
        d.fault? m.defaultHosts (m.routes.take i) = none := by
  rw [errors_eq, List.append_eq_nil_iff, List.filterMap_eq_nil_iff, Prod.forall, forall_comm]
  simp [List.mk_mem_zipIdx_iff_getElem?]

@[simp] theorem build_eq_error_iff {m : Manifest} {e : ConfigurationError} :
    m.build = .error e ↔ m.errors.head? = some e := by
  unfold build
  cases m.errors <;> simp

/-- A manifest without errors has the table whose routes stand for its declarations in order. -/
theorem build_eq_ok {m : Manifest} (h : m.errors = []) :
    ∃ t, m.build = .ok t ∧ t.schemes = Names.ofList m.schemes ∧
      List.Forall₂ (fun d r => Route.StandsFor r m.defaultHosts d) m.routes t.routes := by
  have hschemes : m.schemes.isEmpty = false := by simpa using (errors_eq_nil_iff.mp h).1
  have hcompile : m.compile = compileAfter (Names.ofList m.defaultHosts) [] m.routes := by
    rw [compile, hschemes]
    rfl
  refine ⟨_, by unfold build; rw [h], rfl, ?_⟩
  rw [errors, hcompile] at h
  rw [hcompile]
  exact (compileAfter_spec m.defaultHosts [] [] m.routes rfl (by simp)).2 h

@[simp] theorem build_eq_ok_iff_errors {m : Manifest} : (∃ t, m.build = .ok t) ↔ m.errors = [] := by
  constructor
  · rintro ⟨t, ht⟩
    rw [build] at ht
    cases he : m.errors with
    | nil => rfl
    | cons e es => simp [he] at ht
  · intro h
    obtain ⟨t, ht, -⟩ := build_eq_ok h
    exact ⟨t, ht⟩

/-- The schemes and routes of a table that has been built. -/
theorem build_spec {m : Manifest} {t : Table} (ht : m.build = .ok t) :
    m.errors = [] ∧ t.schemes = Names.ofList m.schemes ∧
      List.Forall₂ (fun d r => Route.StandsFor r m.defaultHosts d) m.routes t.routes := by
  have herrors := build_eq_ok_iff_errors.mp ⟨t, ht⟩
  obtain ⟨t', ht', hspec⟩ := build_eq_ok herrors
  rw [ht] at ht'
  obtain rfl := Except.ok.inj ht'
  exact ⟨herrors, hspec⟩

/-- The report is exact, and building goes by it. It has one error for each faulty declaration, in
order: the first of the declaration's faults, where a name counts as taken by any declaration
before. A manifest is refused with the first error of its report, and otherwise each route of its
table stands for the declaration in its place. -/
theorem report_exact (m : Manifest) :
    m.errors = (if m.schemes = [] then [.noSchemes] else []) ++
      m.routes.zipIdx.filterMap (fun d => d.1.fault? m.defaultHosts (m.routes.take d.2)) ∧
    ((∃ t, m.build = .ok t) ↔ m.errors = []) ∧
    (∀ e, m.build = .error e ↔ m.errors.head? = some e) ∧
    ∀ t, m.build = .ok t →
      List.Forall₂ (fun d r => Route.StandsFor r m.defaultHosts d) m.routes t.routes :=
  ⟨m.errors_eq, build_eq_ok_iff_errors, fun _ => build_eq_error_iff,
    fun _ ht => (build_spec ht).2.2⟩

end Manifest

end DeepLinks
