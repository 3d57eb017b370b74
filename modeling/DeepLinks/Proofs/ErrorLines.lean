import DeepLinks.Proofs.HostText
import DeepLinks.Proofs.Lines
import DeepLinks.Proofs.Reload
import Mathlib

/-!
# Errors in lines

Errors of a route file are reported line by line. Texts of the file stand between quotes in them,
and what is between quotes prints, so it breaks no line. The one text that is written without quotes
is the name of a placeholder that a template repeats.
-/

namespace DeepLinks

namespace Text

namespace Quoted

theorem isPlain_of_lt {c : Char} (hlow : 0x20 ≤ c.toNat) (hhigh : c.toNat < 0x7F) :
    isPlain c = true := by
  rw [isPlain, if_pos hhigh, decide_eq_true hlow]

theorem isPlain_letter {c l : Char} (h : letter? c = some l) : isPlain l = true := by
  unfold letter? at h
  split at h
  case h_7 => contradiction
  all_goals
    obtain rfl := Option.some.inj h
    decide

/-- What a character is written as prints. -/
theorem isPlain_of_mem_encodeChar {c x : Char} (h : x ∈ encodeChar c) : isPlain x = true := by
  unfold encodeChar at h
  cases hletter : letter? c with
  | some l =>
    simp only [hletter, List.mem_cons, List.not_mem_nil, or_false] at h
    rcases h with rfl | rfl
    · decide
    · exact isPlain_letter hletter
  | none =>
    simp only [hletter] at h
    split at h
    · rename_i hplain
      exact List.mem_singleton.mp h ▸ hplain
    · simp only [List.mem_append, List.mem_cons, List.not_mem_nil, or_false] at h
      rcases h with ((rfl | rfl | rfl) | hdigit) | rfl
      · decide
      · decide
      · decide
      · have hunreserved := Percent.toNat_of_isUnreserved (Hex.isUnreserved_of_mem_ofNat _ x hdigit)
        exact isPlain_of_lt (Nat.le_of_lt hunreserved.1) hunreserved.2
      · decide

theorem isPlain_of_mem_encode {s : List Char} {x : Char} (h : x ∈ encode s) :
    isPlain x = true := by
  have hquote : isPlain '"' = true := by decide
  simp only [encode, List.mem_cons, List.mem_append, List.not_mem_nil, or_false] at h
  rcases h with rfl | h | rfl
  · exact hquote
  · obtain ⟨c, -, hx⟩ := List.mem_flatMap.mp h
    exact isPlain_of_mem_encodeChar hx
  · exact hquote

end Quoted

/-- Every character of the text prints. -/
def Prints (s : String) : Prop :=
  ∀ c ∈ s.toList, Quoted.isPlain c = true

-- the instance for a list is named, as there is also one that goes through all characters
instance (s : String) : Decidable (Prints s) :=
  List.decidableBAll _ s.toList

@[simp] theorem prints_append {s t : String} : Prints (s ++ t) ↔ Prints s ∧ Prints t := by
  rw [Prints, String.toList_append, List.forall_mem_append]
  rfl

/-- Whatever a text holds, between quotes it prints. -/
theorem prints_quote (s : String) : Prints (quote s) := by
  intro c hc
  rw [quote, String.toList_ofList] at hc
  exact Quoted.isPlain_of_mem_encode hc

theorem Prints.not_mem {s : String} (h : Prints s) {c : Char} (hc : Quoted.isPlain c = false) :
    c ∉ s.toList :=
  fun hmem => Bool.false_ne_true (hc.symm.trans (h c hmem))

/-- The text holds neither a line feed nor a carriage return. -/
def IsOneLine (s : String) : Prop :=
  '\n' ∉ s.toList ∧ '\r' ∉ s.toList

end Text

open Text (Prints prints_append prints_quote)

/-- The placeholder that an error says is repeated. -/
def TemplateError.repeatedPlaceholder? : TemplateError → Option String
  | emptyPlaceholder _ => none
  | duplicatePlaceholder _ name => some name

/-- The placeholder that an error says is repeated. -/
def ConfigurationError.repeatedPlaceholder? : ConfigurationError → Option String
  | faultyTemplate _ cause => cause.repeatedPlaceholder?
  | _ => none

theorem TemplateError.mem_message_iff {c : Char} (hc : Text.Quoted.isPlain c = false)
    (e : TemplateError) :
    c ∈ e.message.toList ↔ ∃ name, e.repeatedPlaceholder? = some name ∧ c ∈ name.toList := by
  cases e with
  | emptyPlaceholder template =>
    have hprints : Prints (emptyPlaceholder template).message := by
      unfold message
      exact prints_append.mpr ⟨by decide, prints_quote template⟩
    simp [hprints.not_mem hc, repeatedPlaceholder?]
  | duplicatePlaceholder template name =>
    have hbefore : Prints ("placeholder " ++ "\x7b") := by decide
    have hafter : Prints
        ("\x7d" ++ " appears more than once in template " ++ Text.quote template) :=
      prints_append.mpr ⟨by decide, prints_quote template⟩
    have hmessage : (duplicatePlaceholder template name).message =
        ("placeholder " ++ "\x7b") ++ name ++
          ("\x7d" ++ " appears more than once in template " ++ Text.quote template) := by
      unfold message Segment.display
      simp only [String.append_assoc]
    rw [hmessage, String.toList_append, String.toList_append, List.mem_append, List.mem_append,
      or_iff_left (hafter.not_mem hc), or_iff_right (hbefore.not_mem hc)]
    simp [repeatedPlaceholder?]

/-- A character that does not print is in no message, but for the name of a placeholder that is
repeated. -/
theorem ConfigurationError.mem_message_iff {c : Char} (hc : Text.Quoted.isPlain c = false)
    (e : ConfigurationError) :
    c ∈ e.message.toList ↔ ∃ name, e.repeatedPlaceholder? = some name ∧ c ∈ name.toList := by
  cases e with
  | faultyTemplate route cause =>
    have hroute : Prints ("route " ++ Text.quote route ++ ": ") := by
      simp only [prints_append, prints_quote]
      decide
    unfold message
    rw [String.toList_append, List.mem_append, or_iff_right (hroute.not_mem hc)]
    exact cause.mem_message_iff hc
  | noSchemes =>
    have hprints : Prints noSchemes.message := by decide
    simp [hprints.not_mem hc, repeatedPlaceholder?]
  | emptyRouteName | routeNameWhitespace | duplicateRoute | noHosts | emptyParameterName
  | duplicateParameter =>
    refine iff_of_false (Prints.not_mem ?_ hc) (by simp [repeatedPlaceholder?])
    unfold message
    simp only [prints_append, prints_quote]
    decide

theorem ConfigurationError.isOneLine_message_iff (e : ConfigurationError) :
    Text.IsOneLine e.message ↔
      ∀ name, e.repeatedPlaceholder? = some name → Text.IsOneLine name := by
  have hfeed := e.mem_message_iff (c := '\n') (by decide)
  have hreturn := e.mem_message_iff (c := '\r') (by decide)
  simp only [Text.IsOneLine, hfeed, hreturn, not_exists, not_and]
  exact forall₂_and.symm

namespace CommandLine

/-- The lines of a text that say `error: `. -/
def errorLines (text : String) : List (List Char) :=
  (Text.pieces '\n' text.toList).filter ("error: ".toList.isPrefixOf ·)

/-- The line for an error of the route file. -/
def errorLine (e : ConfigurationError) : String :=
  "error: " ++ e.message

/-- The last line, with the number of errors. -/
def countLine (path : String) (errors : List ConfigurationError) : String :=
  "Error: " ++ Text.quote (toString errors.length ++ " configuration error(s) in " ++ path)

/-- The run fails with one line for each error, in order, and one more line with their number. -/
structure Outcome.ReportsInLines (o : Outcome) (path : String)
    (errors : List ConfigurationError) : Prop where
  code : o.code = 1
  out : o.out = ""
  lines : Text.pieces '\n' o.err.toList =
    (errors.map errorLine ++ [countLine path errors]).map String.toList ++ [[]]
  count : (errorLines o.err).length = errors.length

theorem errorLine_isPrefix (e : ConfigurationError) :
    "error: ".toList.isPrefixOf (errorLine e).toList = true := by
  simp [errorLine]

theorem countLine_not_isPrefix (path : String) (errors : List ConfigurationError) :
    "error: ".toList.isPrefixOf (countLine path errors).toList = false := by
  rw [countLine, String.toList_append]
  rfl

theorem prints_countLine (path : String) (errors : List ConfigurationError) :
    Prints (countLine path errors) :=
  prints_append.mpr ⟨by decide, prints_quote _⟩

/-- The line with the number of errors is not counted among the lines before it. -/
theorem length_errorLines {text path : String} {lines : List String}
    {errors : List ConfigurationError}
    (hlines : ∀ line ∈ lines, "error: ".toList.isPrefixOf line.toList = true)
    (h : Text.pieces '\n' text.toList =
      (lines ++ [countLine path errors]).map String.toList ++ [[]]) :
    (errorLines text).length = lines.length := by
  have hkept : (lines.map String.toList).filter ("error: ".toList.isPrefixOf ·) =
      lines.map String.toList := by
    rwa [List.filter_eq_self, List.forall_mem_map]
  have hdropped : [(countLine path errors).toList, []].filter ("error: ".toList.isPrefixOf ·) =
      [] := by
    simp only [List.filter_cons, countLine_not_isPrefix]
    rfl
  have hfilter : errorLines text = lines.map String.toList := calc
    errorLines text =
        (lines.map String.toList ++ [(countLine path errors).toList, []]).filter
          ("error: ".toList.isPrefixOf ·) := by
      simp only [errorLines, h, List.map_append, List.append_assoc, List.map_cons, List.map_nil,
        List.cons_append, List.nil_append]
    _ = lines.map String.toList := by rw [List.filter_append, hkept, hdropped, List.append_nil]
  rw [hfilter, List.length_map]

/-- A report is lines as they were written exactly if no message breaks one. -/
theorem reportsInLines_iff (path : String) (errors : List ConfigurationError) :
    (Outcome.failure (settingsReport path (.invalid errors))).ReportsInLines path errors ↔
      ∀ e ∈ errors, '\n' ∉ e.message.toList := by
  constructor
  · intro h e he hmem
    have hline : errorLine e ∈ errors.map errorLine ++ [countLine path errors] :=
      List.mem_append_left _ (List.mem_map_of_mem he)
    have hpiece := List.mem_append_left [[]] (List.mem_map_of_mem (f := String.toList) hline)
    rw [← h.lines] at hpiece
    refine Text.not_mem_of_mem_pieces hpiece ?_
    rw [errorLine, String.toList_append]
    exact List.mem_append_right _ hmem
  · intro h
    have hlines : ∀ line ∈ errors.map errorLine ++ [countLine path errors],
        '\n' ∉ line.toList := by
      rw [List.forall_mem_append, List.forall_mem_map, List.forall_mem_singleton]
      refine ⟨fun e he => ?_, ?_⟩
      · rw [errorLine, String.toList_append, List.mem_append, not_or]
        exact ⟨by decide, h e he⟩
      · exact (prints_countLine path errors).not_mem (by decide)
    have hstarts : ∀ line ∈ errors.map errorLine,
        "error: ".toList.isPrefixOf line.toList = true :=
      List.forall_mem_map.mpr fun e _ => errorLine_isPrefix e
    have hpieces := Text.pieces_join_lines hlines
    exact ⟨rfl, rfl, hpieces, (length_errorLines hstarts hpieces).trans (List.length_map _)⟩

theorem run_of_invalid {args : List String} {i : Invocation} (hargs : Invocation.parse args = .ok i)
    (files : String → FileState) {errors : List ConfigurationError}
    (hload : Settings.load i.routes (files i.routes) = .error (.invalid errors)) (input : String) :
    run files args input = .failure (settingsReport i.routes (.invalid errors)) := by
  rw [run, hargs]
  simp only [Invocation.run, hload]

/-- The message of an error of a manifest is one line unless it says that a placeholder is repeated
whose name is not. So a run with an invalid route file reports each error on one line and their
number after them, unless the name of a repeated placeholder has a line feed; then it does not. -/
theorem errors_in_lines (m : Manifest) :
    (∀ e ∈ m.errors, Text.IsOneLine e.message ↔
      ∀ name, e.repeatedPlaceholder? = some name → Text.IsOneLine name) ∧
    ∀ args i files text logging input, Invocation.parse args = .ok i →
      FileState.read (files i.routes) = .ok text →
      Settings.ofDocument? text = some ⟨m, logging⟩ → m.errors ≠ [] →
      ((run files args input).ReportsInLines i.routes m.errors ↔
        ∀ e ∈ m.errors, ∀ name, e.repeatedPlaceholder? = some name → '\n' ∉ name.toList) := by
  refine ⟨fun e _ => e.isOneLine_message_iff, ?_⟩
  intro args i files text logging input hargs hread hdocument hne
  have hload : Settings.load i.routes (files i.routes) = .error (.invalid m.errors) :=
    Settings.load_eq_invalid_iff.mpr ⟨text, _, hread, hdocument, rfl, hne⟩
  rw [run_of_invalid hargs files hload, reportsInLines_iff]
  simp only [ConfigurationError.mem_message_iff (c := '\n') (by decide), not_exists, not_and]

theorem parse_check : Invocation.parse ["check"] = .ok ⟨"routes.toml", none, .check⟩ := by cbv

/-- A route file with two faults. The first template has a line feed in it. -/
def draftText : String :=
  "schemas = [\"app\"]\n[[routes]]\nname = \"\"\npath = \"/a\\nb\"\n" ++
    "[[routes]]\nname = \"pair\"\npath = \"/\x7bid\x7d/\x7bid\x7d\"\n"

def draft : Manifest :=
  ⟨["app"], [], [⟨"", "/a\nb", [], []⟩, ⟨"pair", "/\x7bid\x7d/\x7bid\x7d", [], []⟩]⟩

theorem errors_in_lines_draft :
    (∀ e ∈ draft.errors, Text.IsOneLine e.message) ∧
    Invocation.parse ["check"] = .ok ⟨"routes.toml", none, .check⟩ ∧
    FileState.read (.content draftText.toByteArray) = .ok draftText ∧
    Settings.ofDocument? draftText = some ⟨draft, .default⟩ ∧ draft.errors ≠ [] ∧
    (run (fun _ => .content draftText.toByteArray) ["check"] "").ReportsInLines "routes.toml"
      draft.errors := by
  have herrors : draft.errors = [.emptyRouteName "/a\nb",
      .faultyTemplate "pair" (.duplicatePlaceholder "/\x7bid\x7d/\x7bid\x7d" "id")] := by
    decide +kernel
  have hread := FileState.read_content draftText
  have hdocument : Settings.ofDocument? draftText = some ⟨draft, .default⟩ := by cbv
  have hne : draft.errors ≠ [] := by simp [herrors]
  have hname : ∀ e ∈ draft.errors, ∀ name, e.repeatedPlaceholder? = some name → name = "id" := by
    simp [herrors, ConfigurationError.repeatedPlaceholder?, TemplateError.repeatedPlaceholder?]
  obtain ⟨hmessage, hrun⟩ := errors_in_lines draft
  refine ⟨fun e he => (hmessage e he).mpr fun name h => ?_, parse_check, hread, hdocument, hne,
    (hrun _ _ (fun _ => .content draftText.toByteArray) _ _ "" parse_check hread hdocument hne).mpr
      fun e he name h => ?_⟩
  · rw [hname e he name h]
    exact ⟨by decide, by decide⟩
  · rw [hname e he name h]
    decide

/-- A route file with one fault, about a placeholder that brings a line of its own. -/
def forgedText : String :=
  "schemas = [\"app\"]\n[[routes]]\nname = \"pair\"\n" ++
    "path = \"/\x7ba\\nerror: b\x7d/\x7ba\\nerror: b\x7d\"\nhosts = [\"h\"]\n"

def forged : Manifest :=
  ⟨["app"], [], [⟨"pair", "/\x7ba\nerror: b\x7d/\x7ba\nerror: b\x7d", ["h"], []⟩]⟩

def forgedError : ConfigurationError :=
  .faultyTemplate "pair"
    (.duplicatePlaceholder "/\x7ba\nerror: b\x7d/\x7ba\nerror: b\x7d" "a\nerror: b")

/-- The two lines that the name of the placeholder makes of the line for the error. -/
def forgedLines : List String :=
  ["error: route " ++ Text.quote "pair" ++ ": placeholder \x7ba",
    "error: b\x7d appears more than once in template " ++
      Text.quote "/\x7ba\nerror: b\x7d/\x7ba\nerror: b\x7d"]

theorem prints_forgedLines : ∀ line ∈ forgedLines, Prints line := by
  simp only [forgedLines, List.forall_mem_cons, prints_append, prints_quote]
  decide

theorem forgedLines_isPrefix :
    ∀ line ∈ forgedLines, "error: ".toList.isPrefixOf line.toList = true := by
  simp only [forgedLines, List.forall_mem_cons, String.toList_append]
  exact ⟨rfl, rfl, List.forall_mem_nil _⟩

theorem join_forgedLines (last : String) :
    String.join ([errorLine forgedError, last].map (· ++ "\n")) =
      String.join ((forgedLines ++ [last]).map (· ++ "\n")) := by
  have hname : "a\nerror: b" = "a" ++ "\n" ++ "error: b" := by decide
  have hbefore : "error: route " = "error: " ++ "route " := by decide
  have hopen : ": placeholder \x7ba" = ": " ++ ("placeholder " ++ ("\x7b" ++ "a")) := by decide
  have hafter : "error: b\x7d appears more than once in template " =
      "error: b" ++ ("\x7d" ++ " appears more than once in template ") := by decide
  have hline : errorLine forgedError = forgedLines[0] ++ "\n" ++ forgedLines[1] := by
    unfold errorLine forgedError ConfigurationError.message TemplateError.message Segment.display
      forgedLines
    rw [hname, hbefore, hopen, hafter]
    simp only [String.append_assoc, List.getElem_cons_zero, List.getElem_cons_succ]
  rw [hline]
  simp [forgedLines, String.append_assoc]

/-- One error, and two lines that say so. -/
theorem length_errorLines_forged :
    Settings.ofDocument? forgedText = some ⟨forged, .default⟩ ∧ forged.errors = [forgedError] ∧
    ¬ Text.IsOneLine forgedError.message ∧
    (errorLines (run (fun _ => .content forgedText.toByteArray) ["check"] "").err).length = 2 := by
  have hdocument : Settings.ofDocument? forgedText = some ⟨forged, .default⟩ := by cbv
  have herrors : forged.errors = [forgedError] := by decide +kernel
  have hload : Settings.load "routes.toml" (.content forgedText.toByteArray) =
      .error (.invalid [forgedError]) :=
    Settings.load_eq_invalid_iff.mpr
      ⟨_, _, FileState.read_content forgedText, hdocument, herrors, by simp⟩
  have hbreak : '\n' ∈ forgedError.message.toList := by
    rw [ConfigurationError.mem_message_iff (by decide)]
    exact ⟨"a\nerror: b", rfl, by decide⟩
  refine ⟨hdocument, herrors, fun h => h.1 hbreak, ?_⟩
  have hrun : (run (fun _ => .content forgedText.toByteArray) ["check"] "").err =
      String.join ((forgedLines ++ [countLine "routes.toml" [forgedError]]).map (· ++ "\n")) := by
    rw [run_of_invalid parse_check (fun _ => .content forgedText.toByteArray) hload]
    exact join_forgedLines _
  have hlines : ∀ line ∈ forgedLines ++ [countLine "routes.toml" [forgedError]],
      '\n' ∉ line.toList := by
    rw [List.forall_mem_append, List.forall_mem_singleton]
    exact ⟨fun line hline => (prints_forgedLines line hline).not_mem (by decide),
      (prints_countLine _ _).not_mem (by decide)⟩
  rw [hrun]
  exact length_errorLines forgedLines_isPrefix (Text.pieces_join_lines hlines)

end CommandLine

end DeepLinks
