import DeepLinks.Json.Deeplink
import DeepLinks.Text.Pieces

/-!
# JSON that is written and read back

A value is written in one line, and reading the line gives the value back. This is so for the values
that an answer is made of: texts, null, truth values, and arrays and objects of such values.
-/

namespace DeepLinks

namespace Json

/-- A value without numbers, all of whose strings have a text. -/
inductive IsTextual : Json → Prop
  | null : IsTextual null
  | bool (value : Bool) : IsTextual (bool value)
  | text (text : String) : IsTextual (ofText text)
  | array (items : List Json) : (∀ j ∈ items, IsTextual j) → IsTextual (array items)
  | entries (entries : List (String × Json)) :
      (∀ e ∈ entries, IsTextual e.2) → IsTextual (ofEntries entries)

@[simp] theorem printItems_eq_map (items : List Json) : printItems items = items.map print := by
  induction items with
  | nil => rfl
  | cons j js ih => rw [printItems, ih, List.map_cons]

@[simp] theorem printEntries_eq_map (entries : List (List Letter × Json)) :
    printEntries entries = entries.map fun e => printString e.1 ++ ":" ++ print e.2 := by
  induction entries with
  | nil => rfl
  | cons e es ih =>
    obtain ⟨key, j⟩ := e
    rw [printEntries, ih, List.map_cons]

/-- The characters of a text in quotes. -/
@[simp] theorem toList_print_ofText (text : String) :
    (print (ofText text)).toList = '"' :: ((lettersOf text).flatMap printLetter ++ ['"']) := by
  simp [ofText, print, printString]

@[simp] theorem toList_print_array (items : List Json) :
    (print (array items)).toList =
      '[' :: ([','].intercalate (items.map fun j => (print j).toList) ++ [']']) := by
  simp [print, printItems_eq_map, String.toList_intercalate, Function.comp_def]

/-- An entry of an object as it is written. -/
def entryText (e : String × Json) : List Char :=
  (print (ofText e.1)).toList ++ ':' :: (print e.2).toList

@[simp] theorem toList_print_ofEntries (entries : List (String × Json)) :
    (print (ofEntries entries)).toList =
      '\x7b' :: ([','].intercalate (entries.map entryText) ++ ['\x7d']) := by
  have htext : (fun e => (printString (lettersOf e.1) ++ ":" ++ print e.2).toList) = entryText := by
    funext e
    simp [entryText, ofText, print]
  rw [← htext]
  simp [ofEntries, print, printEntries_eq_map, String.toList_intercalate, Function.comp_def]

@[simp] theorem letters?_quote (s : List Char) : letters? ('"' :: s) = some ([], s) := by
  rw [letters?.eq_def]
  simp

theorem letters?_plain {c : Char} (hquote : c ≠ '"') (hbackslash : c ≠ '\\')
    (hcontrol : ¬ c.toNat < 0x20) (s : List Char) :
    letters? (c :: s) = (letters? s).map fun p => (.char c :: p.1, p.2) := by
  rw [letters?.eq_def]
  simp only [if_neg hquote, if_neg hbackslash, if_neg hcontrol]
  cases letters? s <;> rfl

theorem letters?_escaped {e c : Char} (h : escaped? e = some c) (s : List Char) :
    letters? ('\\' :: e :: s) = (letters? s).map fun p => (.char c :: p.1, p.2) := by
  have hne : e ≠ 'u' := by
    rintro rfl
    contradiction
  rw [letters?, if_neg (by decide), if_pos rfl, h]
  · cases letters? s <;> rfl
  · intro _ _ _ _ _ hu
    exact absurd hu hne

theorem letters?_escapeUnit {n : Nat} (h : n < 0x10000) (s : List Char) :
    letters? (escapeUnit n ++ s) =
      (letters? s).map fun p => (consLetter (letterOfUnit n) p.1, p.2) := by
  have hdigits : [Hex.lower (n / 4096 % 16), Hex.lower (n / 256 % 16), Hex.lower (n / 16 % 16),
      Hex.lower (n % 16)].mapM Hex.digit? =
        some [n / 4096 % 16, n / 256 % 16, n / 16 % 16, n % 16] := by
    simp [Hex.digit?_lower, Nat.mod_lt]
  have hvalue : Hex.valueIn 16 [n / 4096 % 16, n / 256 % 16, n / 16 % 16, n % 16] = n := by
    simp only [Hex.valueIn, List.foldl_cons, List.foldl_nil]
    omega
  simp only [escapeUnit, List.cons_append, List.nil_append]
  rw [letters?, if_neg (by decide), if_pos rfl]
  simp only [hdigits, Option.bind_eq_bind, Option.bind_some, hvalue, Option.map_eq_bind]
  rfl

/-- The unit of a control character is that character. -/
theorem letterOfUnit_of_lt {c : Char} (h : c.toNat < 0x20) : letterOfUnit c.toNat = .char c := by
  have hhigh : isHighHalf c.toNat = false := by
    rw [isHighHalf, decide_eq_false (by omega), Bool.false_and]
  have hlow : isLowHalf c.toNat = false := by
    rw [isLowHalf, decide_eq_false (by omega), Bool.false_and]
  simp [letterOfUnit, hhigh, hlow]

/-- A character is read back, whatever follows it. -/
@[simp] theorem letters?_printLetter (c : Char) (s : List Char) :
    letters? (printLetter (.char c) ++ s) =
      (letters? s).map fun p => (.char c :: p.1, p.2) := by
  unfold printLetter
  split
  case h_1 => contradiction
  case h_9 c' hquote hbackslash _ _ _ _ _ hc =>
    obtain rfl := Letter.char.inj hc
    by_cases hcontrol : c.toNat < 0x20
    · rw [if_pos hcontrol, letters?_escapeUnit (by omega), letterOfUnit_of_lt hcontrol]
      simp only [consLetter]
    · rw [if_neg hcontrol, List.singleton_append]
      exact letters?_plain (fun h => hquote (h ▸ rfl)) (fun h => hbackslash (h ▸ rfl)) hcontrol s
  all_goals
    rename_i hc
    obtain rfl := Letter.char.inj hc
    exact letters?_escaped rfl s

@[simp] theorem letters?_flatMap_printLetter (l s : List Char) :
    letters? ((l.map .char).flatMap printLetter ++ '"' :: s) = some (l.map .char, s) := by
  induction l with
  | nil => simp
  | cons c l ih =>
    simp [ih]

/-- What is joined begins with its first part. -/
theorem exists_intercalate_cons (sep p : List Char) (ps : List (List Char)) :
    ∃ s, sep.intercalate (p :: ps) = p ++ s := by
  cases ps with
  | nil => exact ⟨[], by simp⟩
  | cons q qs => exact ⟨sep ++ sep.intercalate (q :: qs), by simp [List.intercalate_cons_cons]⟩

/-- With fuel for its text, a value is read from the beginning of any text that it begins. -/
def Reads (j : Json) : Prop :=
  ∀ (fuel : Nat) (rest : List Char), 2 * (print j).toList.length ≤ fuel →
    valueWithin? fuel ((print j).toList ++ rest) = some (j, rest)

@[simp] theorem skipSpace_cons {c : Char} (h : isSpace c = false) (s : List Char) :
    skipSpace (c :: s) = c :: s := by
  simp [skipSpace, h]

@[simp] theorem valueWithin?_quote (fuel : Nat) (s : List Char) :
    valueWithin? (fuel + 1) ('"' :: s) = (letters? s).map fun p => (.string p.1, p.2) := by
  rw [valueWithin?, skipSpace_cons rfl]
  rfl

theorem valueWithin?_text (text : String) (fuel : Nat) (rest : List Char) :
    valueWithin? (fuel + 1) ((print (ofText text)).toList ++ rest) = some (ofText text, rest) := by
  rw [toList_print_ofText]
  simp [lettersOf, ofText]

/-- What a printed value begins with tells it from a space and from the end of an array. -/
theorem IsTextual.exists_head {j : Json} (h : IsTextual j) :
    ∃ c s, (print j).toList = c :: s ∧ isSpace c = false ∧ c ≠ ']' := by
  cases h with
  | null => exact ⟨'n', ['u', 'l', 'l'], by simp [print], rfl, by decide⟩
  | bool value =>
    cases value with
    | true => exact ⟨'t', ['r', 'u', 'e'], by simp [print], rfl, by decide⟩
    | false => exact ⟨'f', ['a', 'l', 's', 'e'], by simp [print], rfl, by decide⟩
  | text text => exact ⟨_, _, toList_print_ofText text, rfl, by decide⟩
  | array items _ => exact ⟨_, _, toList_print_array items, rfl, by decide⟩
  | entries entries _ => exact ⟨_, _, toList_print_ofEntries entries, rfl, by decide⟩

theorem itemsWithin?_print {items : List Json} (hne : items ≠ []) (h : ∀ j ∈ items, Reads j)
    (fuel : Nat) (rest : List Char)
    (hfuel : 2 * ([','].intercalate (items.map fun j => (print j).toList)).length < fuel) :
    itemsWithin? fuel ([','].intercalate (items.map fun j => (print j).toList) ++ ']' :: rest) =
      some (items, rest) := by
  induction items generalizing fuel with
  | nil => exact absurd rfl hne
  | cons j js ih =>
    obtain ⟨hj, hjs⟩ := List.forall_mem_cons.mp h
    obtain ⟨fuel, rfl⟩ : ∃ n, fuel = n + 1 := ⟨fuel - 1, by omega⟩
    cases js with
    | nil =>
      simp only [List.map_cons, List.map_nil, List.intercalate_singleton] at hfuel ⊢
      rw [itemsWithin?, hj fuel _ (by omega)]
      simp [skipSpace_cons (c := ']') rfl]
    | cons k ks =>
      simp only [List.map_cons, List.intercalate_cons_cons, List.length_append,
        List.length_singleton] at hfuel ih ⊢
      have hrest := ih (by simp) hjs fuel (by omega)
      simp [itemsWithin?, hj fuel _ (show _ ≤ fuel by omega), skipSpace_cons (c := ',') rfl, hrest]

/-- How the entries of an object go on after one of them. -/
def entriesAfter? (fuel : Nat) (entry : List Letter × Json) (s : List Char) :
    Option (List (List Letter × Json) × List Char) :=
  match skipSpace s with
  | ',' :: s => (entriesWithin? fuel s).bind fun p => some (entry :: p.1, p.2)
  | '\x7d' :: s => some ([entry], s)
  | _ => none

/-- An entry is read up to its end, whatever follows it. -/
theorem entriesWithin?_entryText {e : String × Json} (h : Reads e.2) {fuel : Nat}
    (hfuel : 2 * (entryText e).length ≤ fuel) (s : List Char) :
    entriesWithin? (fuel + 1) (entryText e ++ s) =
      entriesAfter? fuel (lettersOf e.1, e.2) s := by
  have hlength : 2 * (print e.2).toList.length ≤ fuel := by
    simp only [entryText, List.length_append, List.length_cons] at hfuel
    omega
  have hvalue := h fuel s hlength
  have hletters := letters?_flatMap_printLetter e.1.toList (':' :: ((print e.2).toList ++ s))
  simp [entriesWithin?, entryText, skipSpace_cons (c := '"') rfl, lettersOf, hletters, hvalue,
    skipSpace_cons (c := ':') rfl]
  rfl

theorem entriesWithin?_print {entries : List (String × Json)} (hne : entries ≠ [])
    (h : ∀ e ∈ entries, Reads e.2) (fuel : Nat) (rest : List Char)
    (hfuel : 2 * ([','].intercalate (entries.map entryText)).length < fuel) :
    entriesWithin? fuel ([','].intercalate (entries.map entryText) ++ '\x7d' :: rest) =
      some (entries.map fun e => (lettersOf e.1, e.2), rest) := by
  induction entries generalizing fuel with
  | nil => exact absurd rfl hne
  | cons e es ih =>
    obtain ⟨he, hes⟩ := List.forall_mem_cons.mp h
    obtain ⟨fuel, rfl⟩ : ∃ n, fuel = n + 1 := ⟨fuel - 1, by omega⟩
    cases es with
    | nil =>
      simp only [List.map_cons, List.map_nil, List.intercalate_singleton] at hfuel ⊢
      rw [entriesWithin?_entryText he (by omega), entriesAfter?, skipSpace_cons rfl]
      rfl
    | cons k ks =>
      simp only [List.map_cons, List.intercalate_cons_cons, List.length_append,
        List.length_singleton] at hfuel ih ⊢
      have hrest := ih (by simp) hes fuel (by omega)
      simp [entriesWithin?_entryText he (show _ ≤ fuel by omega), entriesAfter?,
        skipSpace_cons (c := ',') rfl, hrest]

theorem valueWithin?_array {c : Char} (hspace : isSpace c = false) (hend : c ≠ ']') (fuel : Nat)
    (s : List Char) :
    valueWithin? (fuel + 1) ('[' :: c :: s) =
      (itemsWithin? fuel (c :: s)).map fun p => (.array p.1, p.2) := by
  rw [valueWithin?, skipSpace_cons rfl]
  simp only [skipSpace_cons hspace]
  split
  · rename_i hs
    exact absurd (List.cons.inj hs).1 hend
  · rfl

theorem valueWithin?_object (fuel : Nat) (s : List Char) :
    valueWithin? (fuel + 1) ('\x7b' :: '"' :: s) =
      (entriesWithin? fuel ('"' :: s)).map fun p => (.object p.1, p.2) := by
  rw [valueWithin?, skipSpace_cons rfl]
  simp only [skipSpace_cons (c := '"') rfl]
  rfl

/-- The text of a value takes fuel. -/
theorem IsTextual.reads_of_succ {j : Json} (hj : IsTextual j)
    (h : ∀ (fuel : Nat) (rest : List Char), 2 * (print j).toList.length ≤ fuel + 1 →
      valueWithin? (fuel + 1) ((print j).toList ++ rest) = some (j, rest)) : Reads j := by
  intro fuel rest hfuel
  obtain ⟨c, s, hprint, -, -⟩ := hj.exists_head
  have hlength : 0 < (print j).toList.length := by simp [hprint]
  obtain ⟨n, rfl⟩ : ∃ n, fuel = n + 1 := ⟨fuel - 1, by omega⟩
  exact h n rest hfuel

theorem reads_array {items : List Json} (hitems : ∀ j ∈ items, IsTextual j)
    (h : ∀ j ∈ items, Reads j) : Reads (array items) := by
  refine (IsTextual.array items hitems).reads_of_succ fun fuel rest hfuel => ?_
  rw [toList_print_array] at hfuel ⊢
  simp only [List.length_cons, List.length_append, List.length_nil] at hfuel
  rw [List.cons_append, List.append_assoc, List.singleton_append]
  cases items with
  | nil => rfl
  | cons j js =>
    have hread := itemsWithin?_print (by simp) h fuel rest (by omega)
    obtain ⟨c, s, hprint, hspace, hend⟩ := (hitems j List.mem_cons_self).exists_head
    obtain ⟨t, ht⟩ :=
      exists_intercalate_cons [','] (print j).toList (js.map fun j => (print j).toList)
    have hjoined : [','].intercalate ((j :: js).map fun j => (print j).toList) = c :: (s ++ t) := by
      rw [List.map_cons, ht, hprint, List.cons_append]
    rw [hjoined, List.cons_append] at hread ⊢
    rw [valueWithin?_array hspace hend, hread]
    rfl

theorem reads_ofEntries {entries : List (String × Json)} (hentries : ∀ e ∈ entries, IsTextual e.2)
    (h : ∀ e ∈ entries, Reads e.2) : Reads (ofEntries entries) := by
  refine (IsTextual.entries entries hentries).reads_of_succ fun fuel rest hfuel => ?_
  rw [toList_print_ofEntries] at hfuel ⊢
  simp only [List.length_cons, List.length_append, List.length_nil] at hfuel
  rw [List.cons_append, List.append_assoc, List.singleton_append]
  cases entries with
  | nil => rfl
  | cons e es =>
    have hread := entriesWithin?_print (by simp) h fuel rest (by omega)
    obtain ⟨t, ht⟩ := exists_intercalate_cons [','] (entryText e) (es.map entryText)
    obtain ⟨s, hs⟩ : ∃ s, entryText e = '"' :: s :=
      ⟨_, by rw [entryText, toList_print_ofText, List.cons_append]⟩
    rw [List.map_cons, ht, hs, List.cons_append, List.cons_append] at hread ⊢
    rw [valueWithin?_object, hread]
    rfl

theorem IsTextual.reads {j : Json} (h : IsTextual j) : Reads j := by
  induction h with
  | null => exact IsTextual.null.reads_of_succ fun _ _ _ => rfl
  | bool value =>
    refine (IsTextual.bool value).reads_of_succ fun _ _ _ => ?_
    cases value <;> rfl
  | text text =>
    exact (IsTextual.text text).reads_of_succ fun fuel rest _ => valueWithin?_text text fuel rest
  | array items hitems ih => exact reads_array hitems ih
  | entries entries hentries ih => exact reads_ofEntries hentries ih

/-- What is written is read back. -/
theorem parse?_print {j : Json} (h : IsTextual j) : parse? (print j) = some j := by
  have hread := h.reads (2 * (print j).toList.length + 2) [] (Nat.le_add_right _ _)
  rw [List.append_nil] at hread
  rw [parse?, hread]
  rfl

theorem newline_not_mem_printLetter (c : Char) : '\n' ∉ printLetter (.char c) := by
  have hlower : ∀ n < 16, '\n' ≠ Hex.lower n := by decide
  unfold printLetter
  split
  case h_1 => contradiction
  case h_9 _ _ _ hnewline _ _ _ _ hc =>
    obtain rfl := Letter.char.inj hc
    split
    · simp [escapeUnit, hlower, Nat.mod_lt]
    · rw [List.mem_singleton]
      exact fun h => hnewline (h ▸ rfl)
  all_goals decide

theorem newline_not_mem_print_ofText (text : String) : '\n' ∉ (print (ofText text)).toList := by
  have hletters : '\n' ∉ (lettersOf text).flatMap printLetter := by
    simp only [lettersOf, List.flatMap_map, List.mem_flatMap, not_exists, not_and]
    exact fun c _ => newline_not_mem_printLetter c
  simp [toList_print_ofText, hletters]

/-- What is written is one line. -/
theorem newline_not_mem_print {j : Json} (h : IsTextual j) : '\n' ∉ (print j).toList := by
  induction h with
  | null => simp [print]
  | bool value => cases value <;> simp [print]
  | text text => exact newline_not_mem_print_ofText text
  | array items _ ih =>
    have hitems : ∀ c ∈ [','].intercalate (items.map fun j => (print j).toList), c ≠ '\n' := by
      refine Text.forall_mem_intercalate (by decide) ?_
      rw [List.forall_mem_map]
      exact fun j hj c hc heq => ih j hj (heq ▸ hc)
    simpa [toList_print_array] using fun h => hitems _ h rfl
  | entries entries _ ih =>
    have hentries : ∀ c ∈ [','].intercalate (entries.map entryText), c ≠ '\n' := by
      refine Text.forall_mem_intercalate (by decide) ?_
      rw [List.forall_mem_map]
      intro e he c hc heq
      have hmem : '\n' ∈ (print (ofText e.1)).toList ∨ '\n' ∈ (print e.2).toList := by
        simpa [entryText, heq] using hc
      exact hmem.elim (newline_not_mem_print_ofText e.1) (ih e he)
    simpa [toList_print_ofEntries] using fun h => hentries _ h rfl

theorem isTextual_ofText? (text : Option String) : IsTextual (ofText? text) := by
  cases text with
  | none => exact .null
  | some text => exact .text text

end Json

namespace Bindings

theorem isTextual_toJson (b : Bindings) : b.toJson.IsTextual := by
  refine .entries _ ?_
  rw [List.forall_mem_map]
  exact fun e _ => Json.isTextual_ofText? e.2

@[simp] theorem valueOfJson?_ofText? (value : Option String) :
    valueOfJson? (Json.ofText? value) = some value := by
  cases value <;> simp [Json.ofText?, Json.ofText, valueOfJson?]

/-- Bindings are read back. -/
@[simp] theorem ofJson?_toJson (b : Bindings) : ofJson? b.toJson = some b := by
  have hentries : ((b.entries.map fun e => (e.1, Json.ofText? e.2)).map fun e =>
      (Json.lettersOf e.1, e.2)).mapM (fun e => do
        let key ← Json.textOf? e.1
        let value ← valueOfJson? e.2
        some (key, value)) = some b.entries := by
    rw [List.map_map]
    refine Json.mapM_map_eq_some (fun e => ?_) b.entries
    simp [valueOfJson?_ofText?]
  rw [toJson, Json.ofEntries, ofJson?, hentries]
  exact congrArg some (ofList_entries b)

end Bindings

namespace Deeplink

theorem isTextual_toJson (d : Deeplink) : d.toJson.IsTextual := by
  refine .entries _ ?_
  simp only [List.forall_mem_cons, List.not_mem_nil, false_implies, implies_true, and_true]
  exact ⟨d.parameters.isTextual_toJson, .text d.route⟩

/-- A deep link is read back. -/
@[simp] theorem ofJson?_toJson (d : Deeplink) : ofJson? d.toJson = some d := by
  have hroute : textOfJson? (.ofText d.route) = some d.route := Json.textOf?_lettersOf d.route
  have hentries : ([("parameters", d.parameters.toJson), ("route", Json.ofText d.route)].map
      fun e => (Json.lettersOf e.1, e.2)).mapM
        (fun e => (Json.textOf? e.1).map fun key => (key, e.2)) =
      some [("parameters", d.parameters.toJson), ("route", Json.ofText d.route)] :=
    Json.mapM_map_eq_some (fun e => by simp) _
  rw [toJson, Json.ofEntries, ofJson?, hentries]
  simp [onlyField?, hroute, Bindings.ofJson?_toJson]

end Deeplink

end DeepLinks
