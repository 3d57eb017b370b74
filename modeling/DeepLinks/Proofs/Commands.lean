import DeepLinks.Proofs.Arguments
import DeepLinks.Proofs.Lines
import DeepLinks.Proofs.Reload
import Mathlib

/-!
# What a run leaves behind

Whatever the command is, without settings there is nothing to run on: the program fails and writes
nothing. With settings there always is a table, and every command except a link that cannot be made
ends well.
-/

namespace DeepLinks

/-- A session that nothing is published in answers every URL from the table that it began with. -/
@[simp] theorem Session.run_resolve (t : Table) (urls : List String) :
    (Session.start t).run (urls.map (.resolve none)) =
      urls.map fun url => (Session.start t, .deeplink (t.resolve url)) := by
  induction urls with
  | nil => rfl
  | cons url urls ih =>
    rw [List.map_cons, run, List.map_cons, ← ih]
    rfl

namespace CommandLine

/-- The line that says what a URL leads to: the object with the URL and its deep link, or null. -/
structure IsAnswer (t : Table) (url line : String) : Prop where
  line_eq : line = (answerJson t url).print
  parse_line : ∃ deeplink,
    Json.parse? line = some (.ofEntries [("deeplink", deeplink), ("url", .ofText url)]) ∧
      match t.resolve url with
      | some d => Deeplink.ofJson? deeplink = some d
      | none => deeplink = .null

/-- The run ends well, and its output is a row of lines, one for each URL. -/
structure Outcome.Answers (t : Table) (urls : List String) (o : Outcome) : Prop where
  code : o.code = 0
  lines : ∃ lines : List String,
    Text.pieces '\n' o.out.toList = lines.map String.toList ++ [[]] ∧
      List.Forall₂ (IsAnswer t) urls lines

/-- The run ends well with the link as its only line, or fails and writes nothing. -/
def Outcome.Reports (o : Outcome) : Except LinkError String → Prop
  | .ok url => o.code = 0 ∧ o.out = url ++ "\n"
  | .error _ => o.code = 1 ∧ o.out = ""

/-- What a command leaves behind. -/
def Command.Leaves (t : Table) (input : String) (o : Outcome) : Command → Prop
  | resolve urls => o.Answers t urls
  | watch =>
    ∃ urls, urls = ((Text.pieces '\n' input.toList).map urlOn).filter (· ≠ "") ∧
      o.Answers t urls ∧ o = (Command.resolve urls).run t input ∧
      (Session.start t).run (urls.map (.resolve none)) =
        urls.map fun url => (Session.start t, .deeplink (t.resolve url))
  | link route values => o.Reports (t.link route values)
  | check => o.code = 0
  | routes => o.code = 0

theorem isAnswer_resolutionLine (t : Table) (url : String) :
    IsAnswer t url (resolutionLine t url) := by
  refine ⟨rfl, _, parse?_resolutionLine t url, ?_⟩
  cases t.resolve url with
  | none => rfl
  | some d => exact d.ofJson?_toJson

theorem answers_resolve (t : Table) (urls : List String) :
    (Outcome.success (urls.map (resolutionLine t))).Answers t urls := by
  refine ⟨rfl, urls.map (resolutionLine t), ?_, ?_⟩
  · rw [pieces_resolutionLines, List.map_map]
    rfl
  · rw [List.forall₂_map_right_iff, List.forall₂_same]
    exact fun url _ => isAnswer_resolutionLine t url

theorem reports_link (t : Table) (input route : String) (values : Bindings) :
    ((Command.link route values).run t input).Reports (t.link route values) := by
  rw [Command.run]
  cases t.link route values with
  | ok url => simp [Outcome.Reports, Outcome.success]
  | error e => exact ⟨rfl, rfl⟩

theorem leaves_run (t : Table) (input : String) (c : Command) :
    c.Leaves t input (c.run t input) := by
  cases c with
  | resolve urls => exact answers_resolve t urls
  | watch =>
    refine ⟨urlsIn input, urlsIn_eq input, answers_resolve t _, rfl, ?_⟩
    exact Session.run_resolve t (urlsIn input)
  | link route values => exact reports_link t input route values
  | check => rfl
  | routes => rfl

/-- Arguments that ask for a command say which one. If the route file cannot be loaded, the run
fails and writes nothing, whatever the command. Otherwise the settings have a table, and the command
leaves behind what it is there for. -/
theorem run_of_parse {args : List String} {i : Invocation} (h : Invocation.parse args = .ok i)
    (files : String → FileState) (input : String) :
    (∃ options rest, args = options ++ i.command.name :: rest ∧ i.command.Asked rest) ∧
    (∀ e, Settings.load i.routes (files i.routes) = .error e →
      (run files args input).code = 1 ∧ (run files args input).out = "") ∧
    ∀ settings, Settings.load i.routes (files i.routes) = .ok settings →
      ∃ t, settings.manifest.build = .ok t ∧ i.command.Leaves t input (run files args input) := by
  have hrun : run files args input = i.run (files i.routes) input := by rw [run, h]
  refine ⟨exists_asked_of_parse h, ?_, ?_⟩
  · intro e hload
    rw [hrun, Invocation.run, hload]
    exact ⟨rfl, rfl⟩
  · intro settings hload
    obtain ⟨t, ht⟩ := Settings.exists_build_of_load hload
    refine ⟨t, ht, ?_⟩
    rw [hrun, Invocation.run, hload]
    simp only [ht]
    exact leaves_run t input i.command

/-- A route file with one route. -/
def homeText : String :=
  "schemas = [\"app\"]\n[[routes]]\nname = \"home\"\npath = \"/{id}\"\nhosts = [\"h\"]\n"

def homeSettings : Settings := ⟨⟨["app"], [], [⟨"home", "/{id}", ["h"], []⟩]⟩, .default⟩

theorem load_home (path : String) :
    Settings.load path (.content homeText.toByteArray) = .ok homeSettings := by
  have hparse : Settings.parse homeText = .ok homeSettings := by cbv
  exact Settings.load_eq_ok_iff.mpr ⟨homeText, FileState.read_content homeText, hparse⟩

/-- The parameter is given twice. -/
def homeArgs : List String := ["link", "home", "-p", "id=1", "-pid=2"]

def homeValues : Bindings := .ofList [("id", some "1"), ("id", some "2")]

theorem run_of_parse_home :
    Invocation.parse homeArgs = .ok ⟨"routes.toml", none, .link "home" homeValues⟩ ∧
    (run (fun _ => .content homeText.toByteArray) homeArgs "").code = 0 ∧
    (run (fun _ => .content homeText.toByteArray) homeArgs "").out = "app://h/2\n" ∧
    (run (fun _ => .missing) homeArgs "").code = 1 := by
  have hparse : Invocation.parse homeArgs =
      .ok ⟨"routes.toml", none, .link "home" homeValues⟩ := by cbv
  have hlink : homeSettings.manifest.build.map (·.link "home" homeValues) =
      .ok (.ok "app://h/2") := by cbv
  obtain ⟨-, -, hok⟩ := run_of_parse hparse (fun _ => .content homeText.toByteArray) ""
  obtain ⟨-, herror, -⟩ := run_of_parse hparse (fun _ => .missing) ""
  obtain ⟨t, ht, hleaves⟩ := hok homeSettings (load_home _)
  rw [ht] at hlink
  have hurl : t.link "home" homeValues = .ok "app://h/2" := Except.ok.inj hlink
  rw [Command.Leaves, hurl] at hleaves
  exact ⟨hparse, hleaves.1, hleaves.2, (herror _ rfl).1⟩

end CommandLine

end DeepLinks
