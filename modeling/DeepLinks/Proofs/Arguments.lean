import DeepLinks.CommandLine.Invocation
import DeepLinks.Proofs.Outcomes

/-!
# Reading arguments

What the arguments are like when they ask for a command: options, the name of the command and what
belongs to it come one after another. The parameters of a link are read in order, and for a name
that several of them give, the last one counts.
-/

namespace DeepLinks

namespace Bindings

/-- A name is bound to what its last entry says. -/
theorem find?_ofList_eq_some_iff {l : List (String × Option String)} {name : String}
    {value : Option String} :
    (ofList l).find? name = some value ↔
      ∃ before after, l = before ++ (name, value) :: after ∧ ∀ e ∈ after, e.1 ≠ name := by
  rw [find?_ofList, List.lookup_eq_some_iff]
  constructor
  · rintro ⟨after, before, hl, hafter⟩
    refine ⟨before.reverse, after.reverse, ?_, ?_⟩
    · rw [← List.reverse_reverse l, hl]
      simp
    · intro e he
      exact (bne_iff_ne.mp (hafter e (List.mem_reverse.mp he))).symm
  · rintro ⟨before, after, rfl, hafter⟩
    refine ⟨after.reverse, before.reverse, by simp, ?_⟩
    intro e he
    exact bne_iff_ne.mpr (hafter e (List.mem_reverse.mp he)).symm

end Bindings

namespace CommandLine

/-- The text names a parameter, and gives it a value if there is an equals sign: what stands after
the first one. -/
def Gives (text name : String) (value : Option String) : Prop :=
  '=' ∉ name.toList ∧
    match value with
    | some value => text = name ++ "=" ++ value
    | none => text = name

/-- What the last of the texts that name a parameter gives it. -/
def LastGives (texts : List String) (name : String) (value : Option String) : Prop :=
  ∃ before text after, texts = before ++ text :: after ∧ Gives text name value ∧
    ∀ later ∈ after, ∀ value, ¬ Gives later name value

/-- The entry that a text is read as. -/
def entryOf (text : String) : String × Option String :=
  match Text.cut? '=' text.toList with
  | some (name, value) => (String.ofList name, some (String.ofList value))
  | none => (text, none)

theorem gives_entryOf (text : String) : Gives text (entryOf text).1 (entryOf text).2 := by
  unfold entryOf Gives
  cases hcut : Text.cut? '=' text.toList with
  | none => exact ⟨Text.cut?_eq_none_iff.mp hcut, rfl⟩
  | some parts =>
    obtain ⟨name, value⟩ := parts
    obtain ⟨htext, hname⟩ := Text.cut?_eq_some_iff.mp hcut
    refine ⟨by simpa using hname, ?_⟩
    show text = String.ofList name ++ "=" ++ String.ofList value
    rw [← String.toList_inj, htext]
    simp

theorem Gives.entryOf_eq {text name : String} {value : Option String} (h : Gives text name value) :
    entryOf text = (name, value) := by
  obtain ⟨hname, htext⟩ := h
  unfold entryOf
  cases value with
  | none =>
    obtain rfl : text = name := htext
    rw [Text.cut?_eq_none_iff.mpr hname]
  | some value =>
    have hcut : Text.cut? '=' text.toList = some (name.toList, value.toList) :=
      Text.cut?_eq_some_iff.mpr ⟨by simp [htext], hname⟩
    rw [hcut]
    simp

theorem entryOf_of_parameter {text : String} {e : String × Option String}
    (h : parameter text = .ok e) : entryOf text = e := by
  have hparameter : parameter text =
      if (entryOf text).1 = "" then .error .usage else .ok (entryOf text) := by
    unfold parameter entryOf
    cases Text.cut? '=' text.toList <;> rfl
  rw [hparameter, ite_error_eq_ok_iff] at h
  exact Except.ok.inj h.2

theorem find?_ofList_map_entryOf {texts : List String} {name : String} {value : Option String} :
    (Bindings.ofList (texts.map entryOf)).find? name = some value ↔
      LastGives texts name value := by
  rw [Bindings.find?_ofList_eq_some_iff]
  constructor
  · rintro ⟨before, after, hsplit, hafter⟩
    obtain ⟨before', rest, rfl, rfl, hrest⟩ := List.map_eq_append_iff.mp hsplit
    obtain ⟨text, after', rfl, htext, rfl⟩ := List.map_eq_cons_iff.mp hrest
    have hgives := gives_entryOf text
    rw [htext] at hgives
    refine ⟨before', text, after', rfl, hgives, fun later hlater value' hlast => ?_⟩
    exact hafter (entryOf later) (List.mem_map_of_mem hlater) (by rw [hlast.entryOf_eq])
  · rintro ⟨before, text, after, rfl, hgives, hafter⟩
    refine ⟨before.map entryOf, after.map entryOf, ?_, ?_⟩
    · rw [List.map_append, List.map_cons, hgives.entryOf_eq]
    · rw [List.forall_mem_map]
      intro later hlater hname
      have hlast := gives_entryOf later
      rw [hname] at hlast
      exact hafter later hlater _ hlast

/-- The arguments of a link are plain ones and texts of parameters, each in order. After two dashes
all of them are plain. -/
inductive LinkArgs : List String → List String → List String → Prop
  | nil : LinkArgs [] [] []
  | terminator {arg : String} {rest : List String} :
      formOf arg = .terminator → LinkArgs (arg :: rest) rest []
  | plain {arg : String} {rest plain texts : List String} :
      formOf arg = .plain → LinkArgs rest plain texts → LinkArgs (arg :: rest) (arg :: plain) texts
  | parameter {arg text : String} {rest rest' plain texts : List String} :
      parameterOption.fits (formOf arg) = true → valueOf (formOf arg) rest = .ok (text, rest') →
        LinkArgs rest' plain texts → LinkArgs (arg :: rest) plain (text :: texts)

theorem exists_linkArgs_of_ok {args plain : List String}
    {entries : List (String × Option String)} (h : linkArgs args = .ok (plain, entries)) :
    ∃ texts, LinkArgs args plain texts ∧ texts.map entryOf = entries := by
  fun_induction linkArgs args generalizing plain entries
  case case1 =>
    cases h
    exact ⟨[], .nil, rfl⟩
  case case2 hform =>
    cases h
    exact ⟨[], .terminator hform, rfl⟩
  case case3 arg rest hform ih =>
    cases hrest : linkArgs rest with
    | error e =>
      rw [hrest] at h
      contradiction
    | ok p =>
      rw [hrest] at h
      obtain ⟨rfl, rfl⟩ := Prod.mk.inj (Except.ok.inj h)
      obtain ⟨texts, htexts, hentries⟩ := ih hrest
      exact ⟨texts, .plain hform htexts, hentries⟩
  case case4 => contradiction
  case case5 arg rest text rest' _ _ hfits hvalue _ ih =>
    obtain ⟨entry, hentry, h⟩ := bind_eq_ok_iff.mp h
    obtain ⟨⟨plain', entries'⟩, hrest, h⟩ := bind_eq_ok_iff.mp h
    obtain ⟨rfl, rfl⟩ := Prod.mk.inj (Except.ok.inj h)
    obtain ⟨texts, htexts, rfl⟩ := ih hrest
    refine ⟨text :: texts, .parameter hfits hvalue htexts, ?_⟩
    rw [List.map_cons, entryOf_of_parameter hentry]
  case case6 => contradiction

/-- The name of a command among the arguments. -/
def Command.name : Command → String
  | resolve _ => "resolve"
  | routes => "routes"
  | check => "check"
  | link _ _ => "link"
  | watch => "watch"

/-- What the arguments after its name say when they ask for a command. -/
def Command.Asked (args : List String) : Command → Prop
  | resolve urls => plainArgs args = .ok urls ∧ urls ≠ []
  | link route values =>
    ∃ texts, LinkArgs args [route] texts ∧
      ∀ name value, values.find? name = some value ↔ LastGives texts name value
  | _ => plainArgs args = .ok []

theorem asked_of_bare {command c : Command} {args : List String}
    (h : bare command args = .ok c) : plainArgs args = .ok [] ∧ c = command := by
  unfold bare at h
  obtain ⟨plain, hplain, h⟩ := bind_eq_ok_iff.mp h
  cases plain with
  | nil => exact ⟨hplain, (Except.ok.inj h).symm⟩
  | cons _ _ => contradiction

theorem asked_of_commandOf {name : String} {args : List String} {c : Command}
    (h : commandOf name args = .ok c) : name = c.name ∧ c.Asked args := by
  unfold commandOf at h
  split at h
  · obtain ⟨urls, hurls, h⟩ := bind_eq_ok_iff.mp h
    cases urls with
    | nil => contradiction
    | cons url urls =>
      obtain rfl := Except.ok.inj h
      exact ⟨rfl, hurls, by simp⟩
  · obtain ⟨hargs, rfl⟩ := asked_of_bare h
    exact ⟨rfl, hargs⟩
  · obtain ⟨hargs, rfl⟩ := asked_of_bare h
    exact ⟨rfl, hargs⟩
  · obtain ⟨hargs, rfl⟩ := asked_of_bare h
    exact ⟨rfl, hargs⟩
  · obtain ⟨⟨plain, entries⟩, hargs, h⟩ := bind_eq_ok_iff.mp h
    obtain ⟨texts, htexts, rfl⟩ := exists_linkArgs_of_ok hargs
    split at h
    · rename_i hplain
      obtain ⟨rfl, rfl⟩ := Prod.mk.inj hplain
      obtain rfl := Except.ok.inj h
      exact ⟨rfl, texts, htexts, fun _ _ => find?_ofList_map_entryOf⟩
    · contradiction
  · split at h
    · contradiction
    · contradiction
    · contradiction
  · contradiction

theorem suffix_of_valueOf {form : Form} {rest rest' : List String} {value : String}
    (h : valueOf form rest = .ok (value, rest')) : rest' <:+ rest := by
  unfold valueOf at h
  split at h
  · obtain ⟨-, rfl⟩ := Prod.mk.inj (Except.ok.inj h)
    exact List.suffix_refl rest
  · split at h
    · split at h
      · obtain ⟨-, rfl⟩ := Prod.mk.inj (Except.ok.inj h)
        exact List.suffix_cons _ _
      · contradiction
    · contradiction

theorem exists_commandOf_of_invocationWith {routes logLevel : Option String} {args : List String}
    {i : Invocation} (h : invocationWith routes logLevel args = .ok i) :
    ∃ name rest, name :: rest <:+ args ∧ commandOf name rest = .ok i.command := by
  fun_induction invocationWith routes logLevel args
  case case3 routes logLevel arg rest _ =>
    obtain ⟨command, hcommand, h⟩ := bind_eq_ok_iff.mp h
    obtain rfl := Except.ok.inj h
    exact ⟨arg, rest, List.suffix_refl _, hcommand⟩
  -- an option and its value are left behind
  case case6 hvalue _ ih =>
    obtain ⟨name, rest, hsuffix, hcommand⟩ := ih h
    have hrest := hsuffix.trans (suffix_of_valueOf hvalue)
    exact ⟨name, rest, hrest.trans (List.suffix_cons _ _), hcommand⟩
  case case9 hvalue _ ih =>
    obtain ⟨name, rest, hsuffix, hcommand⟩ := ih h
    have hrest := hsuffix.trans (suffix_of_valueOf hvalue)
    exact ⟨name, rest, hrest.trans (List.suffix_cons _ _), hcommand⟩
  all_goals contradiction

/-- Options, the name of the command and what it is asked to do come one after another. -/
theorem exists_asked_of_parse {args : List String} {i : Invocation}
    (h : Invocation.parse args = .ok i) :
    ∃ options rest, args = options ++ i.command.name :: rest ∧ i.command.Asked rest := by
  obtain ⟨name, rest, ⟨options, rfl⟩, hcommand⟩ := exists_commandOf_of_invocationWith h
  obtain ⟨rfl, hasked⟩ := asked_of_commandOf hcommand
  exact ⟨options, rest, rfl, hasked⟩

end CommandLine

end DeepLinks
