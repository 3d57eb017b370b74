import DeepLinks.CommandLine.Invocation
import DeepLinks.Json.Deeplink
import DeepLinks.Link
import DeepLinks.Resolution
import DeepLinks.Settings.File

/-!
# Commands

What the program writes and how it ends, given the route file and the standard input.
-/

namespace DeepLinks

/-- A text between quotes where single quotes are escaped too, as file names are written. -/
def quoteName (name : String) : String :=
  String.ofList <| '"' :: (name.toList.flatMap fun c =>
    if c = '\'' then ['\\', '\''] else Text.Quoted.encodeChar c) ++ ['"']

/-- The cause in the notation of error reports. -/
def FileError.report : FileError → String
  | missing => os 2 "NotFound" "No such file or directory"
  | directory => os 21 "IsADirectory" "Is a directory"
  | denied => os 13 "PermissionDenied" "Permission denied"
  | notText =>
    "Error \x7b kind: InvalidData, message: " ++ Text.quote notText.message ++ " \x7d"
where
  os (code : Nat) (kind text : String) : String :=
    "Os \x7b code: " ++ toString code ++ ", kind: " ++ kind ++ ", message: " ++ Text.quote text
      ++ " \x7d"

open Text in
/-- The error in the notation of error reports. -/
def LinkError.report : LinkError → String
  | unknownRoute route => "UnknownRoute(" ++ quote route ++ ")"
  | missingParameter route name => record "MissingParameter" route name
  | emptyPathValue route name => record "EmptyPathValue" route name
where
  record (kind route name : String) : String :=
    kind ++ " \x7b route: " ++ quote route ++ ", name: " ++ quote name ++ " \x7d"

namespace CommandLine

/-- What a run leaves behind. -/
structure Outcome where
  code : Nat
  out : String
  err : String
deriving DecidableEq

namespace Outcome

def success (lines : List String) : Outcome :=
  ⟨0, String.join (lines.map (· ++ "\n")), ""⟩

def failure (lines : List String) : Outcome :=
  ⟨1, "", String.join (lines.map (· ++ "\n"))⟩

end Outcome

/-- The lines that report why there are no settings. -/
def settingsReport (path : String) : SettingsError → List String
  | .unreadable path cause =>
    ["Error: Io \x7b path: " ++ quoteName path ++ ", source: " ++ cause.report ++ " \x7d"]
  | .malformed => ["Error: Parse"]
  | .invalid errors =>
    errors.map (fun e => "error: " ++ e.message) ++
      ["Error: " ++ Text.quote
        (toString errors.length ++ " configuration error(s) in " ++ path)]

/-- The line for a URL. -/
def resolutionLine (t : Table) (url : String) : String :=
  (Json.ofEntries
    [("deeplink", ((t.resolve url).map (·.toJson)).getD .null), ("url", .ofText url)]).print

def routeJson (scheme : String) (r : Route) : Json :=
  .ofEntries
    [("example", .ofText (r.exampleUrl scheme)),
     ("hosts", .array (r.hosts.list.map .ofText)),
     ("name", .ofText r.name),
     ("parameters", .array (r.parameters.map fun p =>
       .ofEntries [("mandatory", .bool p.isMandatory), ("name", .ofText p.name)])),
     ("template", .ofText r.template)]

def checkLine (t : Table) : String :=
  "ok: " ++ toString t.routes.length ++ " route(s), schemas " ++ Text.quoteList t.schemes.list

/-- The lines of a text. A line may end in a carriage return, which is no part of it. -/
def linesOf (text : String) : List String :=
  let ps := Text.pieces '\n' text.toList
  let ended := ps.dropLast.map fun p => if p.getLast? = some '\r' then p.dropLast else p
  let last := ps.getLast?.filter (· ≠ [])
  (ended ++ last.toList).map String.ofList

/-- The URLs in a text: its lines without surrounding white space, empty ones left out. -/
def urlsIn (text : String) : List String :=
  ((linesOf text).map Text.trim).filter (· ≠ "")

def Command.run (t : Table) (input : String) : Command → Outcome
  | resolve urls => .success (urls.map (resolutionLine t))
  | routes => .success [(Json.array (t.routes.map (routeJson t.primaryScheme))).printIndented 0]
  | check => .success [checkLine t]
  | link route values =>
    match t.link route values with
    | .ok url => .success [url]
    | .error e => .failure ["Error: " ++ e.report]
  | watch => .success ((urlsIn input).map (resolutionLine t))

/-- Loads the route file and runs the command. -/
def Invocation.run (i : Invocation) (file : FileState) (input : String) : Outcome :=
  match Settings.load i.routes file with
  | .error e => .failure (settingsReport i.routes e)
  | .ok settings =>
    match settings.manifest.build with
    | .error e => .failure (settingsReport i.routes (.invalid [e]))
    | .ok t => i.command.run t input

def helpText : String :=
  "Usage: deeplinks [--routes FILE] [--log-level LEVEL] " ++
    "(resolve URL... | routes | check | link ROUTE [-p NAME[=VALUE]]... | watch)\n"

/-- The whole program: what it finds under the name of a file, its arguments and its input. -/
def run (files : String → FileState) (args : List String) (input : String) : Outcome :=
  match Invocation.parse args with
  | .error .help => ⟨0, helpText, ""⟩
  | .error .usage => ⟨2, "", helpText⟩
  | .ok i => i.run (files i.routes) input

end CommandLine

end DeepLinks
