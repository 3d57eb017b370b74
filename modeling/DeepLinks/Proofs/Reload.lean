import DeepLinks.Proofs.ConsistentReads
import DeepLinks.Proofs.Faults

/-!
# Reloading

Settings are checked for all errors before they are given out, and a table is built exactly if
there are none. So of the two ways in which a reload could fail only the first one occurs, and what
is published is either the table of the file or what was published before.
-/

namespace DeepLinks

namespace Settings

theorem parse_of_document {text : String} {settings : Settings}
    (h : ofDocument? text = some settings) :
    parse text =
      if settings.manifest.errors = [] then .ok settings
      else .error (.invalid settings.manifest.errors) := by
  unfold parse
  rw [h]
  cases herrors : settings.manifest.errors <;> simp [herrors]

@[simp] theorem parse_eq_ok_iff {text : String} {settings : Settings} :
    parse text = .ok settings ↔
      ofDocument? text = some settings ∧ settings.manifest.errors = [] := by
  cases hdocument : ofDocument? text with
  | none => simp [parse, hdocument]
  | some settings' =>
    rw [parse_of_document hdocument, Option.some.injEq]
    by_cases herrors : settings'.manifest.errors = []
    · rw [if_pos herrors, Except.ok.injEq]
      constructor
      · rintro rfl
        exact ⟨rfl, herrors⟩
      · exact And.left
    · rw [if_neg herrors]
      constructor
      · intro h
        contradiction
      · rintro ⟨rfl, h⟩
        exact absurd h herrors

/-- Errors are reported all together. -/
@[simp] theorem parse_eq_invalid_iff {text : String} {errors : List ConfigurationError} :
    parse text = .error (.invalid errors) ↔
      ∃ settings, ofDocument? text = some settings ∧ settings.manifest.errors = errors ∧
        errors ≠ [] := by
  cases hdocument : ofDocument? text with
  | none => simp [parse, hdocument]
  | some settings =>
    rw [parse_of_document hdocument]
    simp only [Option.some.injEq, exists_eq_left']
    by_cases herrors : settings.manifest.errors = []
    · rw [if_pos herrors]
      constructor
      · intro h
        contradiction
      · rintro ⟨rfl, hne⟩
        exact absurd herrors hne
    · rw [if_neg herrors, Except.error.injEq, SettingsError.invalid.injEq]
      constructor
      · rintro rfl
        exact ⟨rfl, herrors⟩
      · exact And.left

/-- Settings that are given out have a table. -/
theorem exists_build_of_parse {text : String} {settings : Settings}
    (h : parse text = .ok settings) : ∃ t, settings.manifest.build = .ok t :=
  Manifest.build_eq_ok_iff_errors.mpr (parse_eq_ok_iff.mp h).2

@[simp] theorem load_eq_ok_iff {path : String} {file : FileState} {settings : Settings} :
    load path file = .ok settings ↔ ∃ text, file.read = .ok text ∧ parse text = .ok settings := by
  unfold load
  cases file.read <;> simp

@[simp] theorem load_eq_invalid_iff {path : String} {file : FileState}
    {errors : List ConfigurationError} :
    load path file = .error (.invalid errors) ↔
      ∃ text settings, file.read = .ok text ∧ ofDocument? text = some settings ∧
        settings.manifest.errors = errors ∧ errors ≠ [] := by
  have hread : load path file = .error (.invalid errors) ↔
      ∃ text, file.read = .ok text ∧ parse text = .error (.invalid errors) := by
    unfold load
    cases file.read <;> simp
  simp only [hread, parse_eq_invalid_iff, exists_and_left]

theorem exists_build_of_load {path : String} {file : FileState} {settings : Settings}
    (h : load path file = .ok settings) : ∃ t, settings.manifest.build = .ok t := by
  obtain ⟨_, -, hparse⟩ := load_eq_ok_iff.mp h
  exact exists_build_of_parse hparse

end Settings

namespace Publication

theorem reload_of_load {path : String} {file : FileState} {settings : Settings} {t : Table}
    (hload : Settings.load path file = .ok settings) (ht : settings.manifest.build = .ok t)
    (p : Publication) : p.reload path file = .ok ⟨t⟩ := by
  simp [reload, hload, ht, publish]

/-- A reload fails for nothing else than that the settings cannot be loaded. -/
@[simp] theorem reload_eq_error_iff {p : Publication} {path : String} {file : FileState}
    {e : SettingsError} :
    p.reload path file = .error e ↔ Settings.load path file = .error e := by
  cases hload : Settings.load path file with
  | error e' => simp [reload, hload]
  | ok settings =>
    obtain ⟨t, ht⟩ := Settings.exists_build_of_load hload
    rw [reload_of_load hload ht]
    constructor <;> intro h <;> contradiction

end Publication

namespace Session

/-- A reload succeeds exactly if the file can be loaded, and then publishes the table of its
settings. Otherwise it changes nothing and reports what loading the file reports. If that are errors
of the declarations, they are all of them. Settings that are loaded never fail to have a table. -/
theorem reload_all_or_nothing (s : Session) (path : String) (file : FileState) :
    ((∃ p, s.publication.reload path file = .ok p) ↔
      ∃ settings, Settings.load path file = .ok settings) ∧
    (∀ settings, Settings.load path file = .ok settings →
      ∃ t, settings.manifest.build = .ok t ∧ s.publication.reload path file = .ok ⟨t⟩ ∧
        s.step (.reload path file) = ({ s with publication := ⟨t⟩ }, .done)) ∧
    (∀ e, Settings.load path file = .error e →
      s.publication.reload path file = .error e ∧
        s.step (.reload path file) = (s, .notLoaded e)) ∧
    (∀ errors, s.publication.reload path file = .error (.invalid errors) ↔
      ∃ text settings, file.read = .ok text ∧ Settings.ofDocument? text = some settings ∧
        settings.manifest.errors = errors ∧ errors ≠ []) ∧
    ∀ text settings, Settings.parse text = .ok settings → ∃ t, settings.manifest.build = .ok t := by
  have hok : ∀ settings, Settings.load path file = .ok settings →
      ∃ t, settings.manifest.build = .ok t ∧ s.publication.reload path file = .ok ⟨t⟩ := by
    intro settings hload
    obtain ⟨t, ht⟩ := Settings.exists_build_of_load hload
    exact ⟨t, ht, Publication.reload_of_load hload ht s.publication⟩
  refine ⟨⟨?_, ?_⟩, ?_, ?_, ?_, ?_⟩
  · rintro ⟨p, hp⟩
    cases hload : Settings.load path file with
    | ok settings => exact ⟨settings, rfl⟩
    | error e =>
      rw [Publication.reload_eq_error_iff.mpr hload] at hp
      contradiction
  · rintro ⟨settings, hload⟩
    obtain ⟨t, -, hreload⟩ := hok settings hload
    exact ⟨⟨t⟩, hreload⟩
  · intro settings hload
    obtain ⟨t, ht, hreload⟩ := hok settings hload
    refine ⟨t, ht, hreload, ?_⟩
    rw [step, hreload, change]
  · intro e hload
    have hreload : s.publication.reload path file = .error e :=
      Publication.reload_eq_error_iff.mpr hload
    refine ⟨hreload, ?_⟩
    rw [step, hreload, change]
  · intro errors
    rw [Publication.reload_eq_error_iff, Settings.load_eq_invalid_iff]
  · intro text settings hparse
    exact Settings.exists_build_of_parse hparse

/-- After a row of writes the last one that gave a table counts. -/
theorem table_of_writes (s : Session) (ws : List Write) :
    (ws.foldl (fun s w => (s.step w.step).1) s).publication.table =
      ((ws.filterMap Write.table?).getLast?).getD s.publication.table := by
  induction ws generalizing s with
  | nil => rfl
  | cons w ws ih =>
    rw [List.foldl_cons, ih, step_write]
    cases hw : w.table? with
    | none => rw [List.filterMap_cons_none hw]
    | some t =>
      rw [List.filterMap_cons_some hw, List.getLast?_cons, Option.getD_some]
      rfl

end Session

end DeepLinks
