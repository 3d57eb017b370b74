import DeepLinks.Bindings
import DeepLinks.Text.Pieces

/-!
# Arguments

`[-r FILE] [--log-level LEVEL] COMMAND …`, where a command is one of `resolve`, `routes`, `check`,
`link` and `watch`. The value of an option stands in the next argument or is attached to it; after
`--` no argument is an option.
-/

namespace DeepLinks.CommandLine

inductive Command where
  | resolve (urls : List String)
  | routes
  | check
  | link (route : String) (values : Bindings)
  | watch
deriving DecidableEq

structure Invocation where
  routes : String
  logLevel : Option String
  command : Command
deriving DecidableEq

/-- Why there is nothing to run. -/
inductive Refusal where
  /-- Help was asked for. -/
  | help
  /-- The arguments have another form. -/
  | usage
deriving DecidableEq, Repr

/-- What an argument is by its form. -/
inductive Form where
  /-- Two dashes alone. -/
  | terminator
  /-- A name after two dashes, with the text after an equals sign. -/
  | long (name : List Char) (attached : Option String)
  /-- A letter after a dash, with the text after it. -/
  | short (letter : Char) (attached : Option String)
  | plain
deriving DecidableEq

/-- Attached to a letter, a text may follow an equals sign. -/
def afterLetter : List Char → Option String
  | [] => none
  | '=' :: s => some (String.ofList s)
  | s => some (String.ofList s)

def formOf (arg : String) : Form :=
  match arg.toList with
  | ['-', '-'] => .terminator
  | '-' :: '-' :: s =>
    match Text.cut? '=' s with
    | some (name, value) => .long name (some (String.ofList value))
    | none => .long s none
  | '-' :: c :: s => .short c (afterLetter s)
  | _ => .plain

/-- An option by its names. -/
structure OptionName where
  long : String
  short : Option Char

def OptionName.fits (o : OptionName) : Form → Bool
  | .long name _ => name == o.long.toList
  | .short letter _ => o.short == some letter
  | _ => false

def Form.attached : Form → Option String
  | long _ attached | short _ attached => attached
  | _ => none

def Form.isHelp : Form → Bool
  | long name attached => name == "help".toList && attached.isNone
  | short letter _ => letter == 'h'
  | _ => false

/-- The value of an option and the arguments after it. -/
def valueOf (form : Form) (rest : List String) : Except Refusal (String × List String) :=
  match form.attached with
  | some value => .ok (value, rest)
  | none =>
    match rest with
    | value :: rest => if formOf value = .plain then .ok (value, rest) else .error .usage
    | [] => .error .usage

theorem length_of_valueOf {form : Form} {rest rest' : List String} {value : String}
    (h : valueOf form rest = .ok (value, rest')) : rest'.length ≤ rest.length := by
  unfold valueOf at h
  split at h
  · cases h; exact Nat.le_refl _
  · split at h
    · split at h
      · cases h; simp
      · cases h
    · cases h

/-- Arguments without options: help may be asked for, and two dashes make the rest plain. -/
def plainArgs : List String → Except Refusal (List String)
  | [] => .ok []
  | arg :: rest =>
    match formOf arg with
    | .terminator => .ok rest
    | .plain => (plainArgs rest).map (arg :: ·)
    | form => .error (if form.isHelp then .help else .usage)

/-- The name of a parameter and its value, parted by the first equals sign. -/
def parameter (text : String) : Except Refusal (String × Option String) :=
  let (name, value) := match Text.cut? '=' text.toList with
    | some (name, value) => (String.ofList name, some (String.ofList value))
    | none => (text, none)
  if name = "" then .error .usage else .ok (name, value)

def parameterOption : OptionName := ⟨"param", some 'p'⟩

/-- The plain arguments and the parameters of a link. -/
def linkArgs : List String → Except Refusal (List String × List (String × Option String))
  | [] => .ok ([], [])
  | arg :: rest =>
    match formOf arg with
    | .terminator => .ok (rest, [])
    | .plain => (linkArgs rest).map fun p => (arg :: p.1, p.2)
    | form =>
      if parameterOption.fits form then
        match h : valueOf form rest with
        | .error e => .error e
        | .ok (text, rest') => do
          have := length_of_valueOf h
          let entry ← parameter text
          let (plain, entries) ← linkArgs rest'
          pure (plain, entry :: entries)
      else .error (if form.isHelp then .help else .usage)
termination_by args => args.length
decreasing_by all_goals simp only [List.length_cons]; omega

/-- A command that takes no arguments. -/
def bare (command : Command) (args : List String) : Except Refusal Command := do
  if (← plainArgs args).isEmpty then pure command else throw .usage

def commandNames : List String := ["resolve", "routes", "check", "link", "watch", "help"]

def commandOf (name : String) (args : List String) : Except Refusal Command :=
  match name with
  | "resolve" => do
    let urls ← plainArgs args
    if urls.isEmpty then throw .usage else pure (.resolve urls)
  | "routes" => bare .routes args
  | "check" => bare .check args
  | "watch" => bare .watch args
  | "link" => do
    match ← linkArgs args with
    -- of several values for a name, the last one counts
    | ([route], entries) => pure (.link route (.ofList entries))
    | _ => throw .usage
  | "help" =>
    match args with
    | [] => .error .help
    | [name] => .error (if commandNames.contains name then .help else .usage)
    | _ => .error .usage
  | _ => .error .usage

def routesOption : OptionName := ⟨"routes", some 'r'⟩

def logLevelOption : OptionName := ⟨"log-level", none⟩

/-- Reads options up to the command. Each option may be given once, and a file must have a name. -/
def invocationWith (routes logLevel : Option String) : List String → Except Refusal Invocation
  | [] => .error .usage
  | arg :: rest =>
    match formOf arg with
    | .terminator => .error .usage
    | .plain => do
      let command ← commandOf arg rest
      pure ⟨routes.getD "routes.toml", logLevel, command⟩
    | form =>
      if routesOption.fits form then
        match h : valueOf form rest with
        | .error e => .error e
        | .ok (value, rest') =>
          have := length_of_valueOf h
          if routes.isSome ∨ value = "" then .error .usage
          else invocationWith (some value) logLevel rest'
      else if logLevelOption.fits form then
        match h : valueOf form rest with
        | .error e => .error e
        | .ok (value, rest') =>
          have := length_of_valueOf h
          if logLevel.isSome then .error .usage
          else invocationWith routes (some value) rest'
      else .error (if form.isHelp then .help else .usage)
termination_by args => args.length
decreasing_by all_goals simp only [List.length_cons]; omega

/-- What the arguments ask for. -/
def Invocation.parse (args : List String) : Except Refusal Invocation :=
  invocationWith none none args

end DeepLinks.CommandLine
