import DeepLinks.CommandLine.Run
import DeepLinks.Proofs.JsonText

/-!
# Lines

URLs come in lines and answers go out in lines. The way in which a line ends does not matter for
the URL on it, and as no answer holds a line break, the lines of the output are the answers.
-/

namespace DeepLinks

namespace Text

theorem trimBy_append_singleton {p : Char → Bool} {c : Char} (hc : p c = true) (s : List Char) :
    trimBy p (s ++ [c]) = trimBy p s := by
  unfold trimBy
  rw [List.dropWhile_append]
  by_cases hs : s.dropWhile p = []
  · simp [hs, hc]
  · simp [hs, hc]

/-- Texts without a line break are found again as the lines that they are written to. -/
theorem pieces_join_lines {lines : List String} (h : ∀ line ∈ lines, '\n' ∉ line.toList) :
    pieces '\n' (String.join (lines.map (· ++ "\n"))).toList = lines.map String.toList ++ [[]] := by
  induction lines with
  | nil => rfl
  | cons line lines ih =>
    obtain ⟨hline, hlines⟩ := List.forall_mem_cons.mp h
    have hjoin : (String.join ((line :: lines).map (· ++ "\n"))).toList =
        line.toList ++ '\n' :: (String.join (lines.map (· ++ "\n"))).toList := by
      simp
    rw [hjoin, pieces_append hline, ih hlines]
    rfl

end Text

namespace CommandLine

/-- The URL on a line, which is empty on a blank one. -/
def urlOn (line : List Char) : String :=
  Text.trim (String.ofList line)

/-- A carriage return at the end is white space anyway. -/
theorem urlOn_dropLast {line : List Char} (h : line.getLast? = some '\r') :
    urlOn line.dropLast = urlOn line := by
  obtain ⟨front, rfl⟩ := List.getLast?_eq_some_iff.mp h
  have hblank : Text.isBlank '\r' = true := by decide
  simp [urlOn, Text.trim, Text.trimBy_append_singleton hblank front]

/-- A text holds the URLs between its line breaks, without white space around them. -/
theorem urlsIn_eq (text : String) :
    urlsIn text = ((Text.pieces '\n' text.toList).map urlOn).filter (· ≠ "") := by
  have hne := Text.pieces_ne_nil '\n' text.toList
  have hended : (((Text.pieces '\n' text.toList).dropLast.map fun p =>
      if p.getLast? = some '\r' then p.dropLast else p).map String.ofList).map Text.trim =
        (Text.pieces '\n' text.toList).dropLast.map urlOn := by
    simp only [List.map_map, List.map_inj_left]
    intro p _
    show urlOn (if p.getLast? = some '\r' then p.dropLast else p) = urlOn p
    split
    · rename_i hp
      exact urlOn_dropLast hp
    · rfl
  have hlast : (((((Text.pieces '\n' text.toList).getLast?.filter (· ≠ [])).toList.map
      String.ofList).map Text.trim).filter (· ≠ "")) =
        ([(Text.pieces '\n' text.toList).getLast hne].map urlOn).filter (· ≠ "") := by
    rw [List.getLast?_eq_some_getLast hne]
    by_cases hempty : (Text.pieces '\n' text.toList).getLast hne = []
    · simp [Option.filter, hempty]
      rfl
    · simp [Option.filter, hempty, urlOn]
  simp only [urlsIn, linesOf, List.map_append, List.filter_append, hended, hlast]
  rw [← List.filter_append, ← List.map_append, List.dropLast_concat_getLast]

@[simp] theorem urlsIn_append (a b : String) : urlsIn (a ++ "\n" ++ b) = urlsIn a ++ urlsIn b := by
  have htext : (a ++ "\n" ++ b).toList = a.toList ++ '\n' :: b.toList := by simp
  simp [urlsIn_eq, htext]

/-- What is said about a URL. -/
def answerJson (t : Table) (url : String) : Json :=
  .ofEntries [("deeplink", ((t.resolve url).map (·.toJson)).getD .null), ("url", .ofText url)]

theorem isTextual_answerJson (t : Table) (url : String) : (answerJson t url).IsTextual := by
  have hdeeplink : (((t.resolve url).map Deeplink.toJson).getD Json.null).IsTextual := by
    cases t.resolve url with
    | none => exact Json.IsTextual.null
    | some d => exact d.isTextual_toJson
  refine .entries _ ?_
  simp only [List.forall_mem_cons, List.not_mem_nil, false_implies, implies_true, and_true]
  exact ⟨hdeeplink, .text url⟩

@[simp] theorem parse?_resolutionLine (t : Table) (url : String) :
    Json.parse? (resolutionLine t url) = some (answerJson t url) :=
  Json.parse?_print (isTextual_answerJson t url)

theorem newline_not_mem_resolutionLine (t : Table) (url : String) :
    '\n' ∉ (resolutionLine t url).toList :=
  Json.newline_not_mem_print (isTextual_answerJson t url)

/-- However many URLs there are, and whatever they hold, each of them has its own line. -/
theorem pieces_resolutionLines (t : Table) (urls : List String) :
    Text.pieces '\n' (Outcome.success (urls.map (resolutionLine t))).out.toList =
      urls.map (fun url => (resolutionLine t url).toList) ++ [[]] := by
  have hlines : ∀ line ∈ urls.map (resolutionLine t), '\n' ∉ line.toList := by
    rw [List.forall_mem_map]
    exact fun url _ => newline_not_mem_resolutionLine t url
  rw [Outcome.success, Text.pieces_join_lines hlines, List.map_map]
  rfl

/-- A text may be answered line by line, as long as the table stays. -/
theorem run_watch_append (t : Table) (a b : String) :
    (Command.watch.run t (a ++ "\n" ++ b)).out =
      (Command.watch.run t a).out ++ (Command.watch.run t b).out := by
  simp only [Command.run, Outcome.success, urlsIn_append, List.map_append]
  rw [← String.toList_inj]
  simp

end CommandLine

end DeepLinks
