import DeepLinks.Text.Blank
import DeepLinks.Url.Host
import DeepLinks.Url.Path

/-!
# URLs

`Url.parse` reads an absolute URL as its scheme, host, path and query, in normal form: scheme and
domain in lower case, dot segments resolved, characters escaped that need it. User, password, port
and fragment are checked as far as they can be wrong, and dropped.
-/

namespace DeepLinks

/-- A URL in normal form. -/
structure Url where
  scheme : String
  /-- Absent if the URL has no authority, or one without a host. -/
  host : Option String
  path : String
  query : Option String
  /-- Whether the path follows the scheme directly, without any slash. -/
  isOpaque : Bool
deriving DecidableEq, Repr

namespace Url

/-- The text before the path: what stands up to the next character that begins a path, a query or
a fragment. -/
def authority (k : Kind) (s : List Char) : List Char × List Char :=
  let stays (c : Char) : Bool := !(k.isSlash c || c == '?' || c == '#')
  (s.takeWhile stays, s.dropWhile stays)

/-- The host and the text after it: the first colon outside brackets ends a host. -/
def cutHost (inBrackets : Bool) : List Char → List Char × List Char
  | [] => ([], [])
  | c :: cs =>
    if c = ':' ∧ !inBrackets then ([], c :: cs)
    else
      let r := cutHost (if c = '[' then true else if c = ']' then false else inBrackets) cs
      (c :: r.1, r.2)

/-- Reads a port, if there is one, and leaves what follows. A backslash ends it for every
scheme. -/
def dropPort : List Char → Except ParseError (List Char)
  | ':' :: s =>
    let digits := s.takeWhile Text.isAsciiDigit
    let rest := s.dropWhile Text.isAsciiDigit
    if 65535 < Hex.valueIn 10 (digits.filterMap Hex.digit?) then .error .invalidPort
    else
      match rest with
      | [] => .ok []
      | '\\' :: _ => .ok rest
      | _ => .error .invalidPort
  | s => .ok s

/-- The user part and the rest of an authority: they are parted by the last `@`. -/
def cutUser (authority : List Char) : Option (List Char) × List Char :=
  if authority.contains '@' then
    let host := (authority.reverse.takeWhile (· ≠ '@')).reverse
    (some (authority.take (authority.length - host.length - 1)), host)
  else (none, authority)

/-- The host of an authority, if it has one, and what is left over for the path. `isLast` says
that nothing follows the authority. -/
def readAuthority (k : Kind) (isLast : Bool) (authority : List Char) :
    Except ParseError (Option (List Char) × List Char) := do
  let (user?, hostPort) := cutUser authority
  if user? = some [] ∧ hostPort = [] ∧ !isLast then throw .emptyHost
  let (text, port) := cutHost false hostPort
  if k.isSpecial ∧ text = [] then throw .emptyHost
  let host ← if k.isSpecial then Host.parse text else Host.parseOpaque text
  if host = [] ∧ port ≠ [] then throw .emptyHost
  let rest ← dropPort port
  let hasUser := user?.any fun user => user ≠ [] ∧ user ≠ [':']
  if host = [] ∧ hasUser then throw .emptyHost
  pure (if host = [] then none else some host, rest)

/-- The host of a `file` URL, where `localhost` is no host. -/
def readFileHost (text : List Char) : Except ParseError (Option (List Char)) := do
  if text = [] then pure none
  else
    let host ← Host.parse text
    pure (if host = "localhost".toList then none else some host)

/-- The escaped and resolved segments of a path. The slash before the first one is read. -/
def segments (k : Kind) (path : List Char) : List Path.Segment :=
  let slashed := path.map fun c => if k.isSlash c then '/' else c
  Path.resolve ((Text.pieces '/' slashed).map (escapeWhere isEscapedInPath))

/-- The texts before and after the first question mark, without the fragment. -/
def cutQuery (s : List Char) : List Char × Option (List Char) :=
  let s := s.takeWhile (· ≠ '#')
  match Text.cut? '?' s with
  | some (path, query) => (path, some query)
  | none => (s, none)

/-- The segments of what follows an authority. A missing slash is understood before a path that is
not empty, and before every path of a special scheme. -/
def authorityPath (k : Kind) (path : List Char) : List Path.Segment :=
  match path with
  | [] => if k.isSpecial then [[]] else []
  | c :: cs => segments k (if k.isSlash c then cs else c :: cs)

def ofParts (k : Kind) (scheme : List Char) (host : Option (List Char))
    (path : List Path.Segment) (query : Option (List Char)) : Url where
  scheme := String.ofList scheme
  host := host.map String.ofList
  path := String.ofList (Path.render path)
  query := query.map fun q => String.ofList (escapeWhere (isEscapedInQuery k.isSpecial) q)
  isOpaque := false

/-- The URL after the scheme and two slashes. -/
def parseHierarchical (k : Kind) (scheme s : List Char) : Except ParseError Url := do
  let (text, rest) := authority k s
  let (host, extra) ← readAuthority k rest.isEmpty text
  let (path, query) := cutQuery (extra ++ rest)
  pure (ofParts k scheme host (authorityPath k path) query)

/-- A `file` URL. A drive letter at the beginning of its path takes the host away. -/
def ofFileParts (scheme : List Char) (host : Option (List Char)) (path : List Path.Segment)
    (query : Option (List Char)) : Url :=
  match Path.drive? path with
  | some path => ofParts .file scheme none path query
  | none => ofParts .file scheme host path query

/-- The URL after `file:`. What stands between two slashes and the path is the host, unless it is a
drive letter: then the path begins with it. -/
def parseFile (scheme s : List Char) : Except ParseError Url := do
  match s with
  | a :: b :: rest =>
    if Kind.file.isSlash a && Kind.file.isSlash b then
      let (text, after) := authority .file rest
      if Path.isDriveLetter text then pure (withHost none rest)
      else
        let host ← readFileHost text
        pure (withHost host after)
    else pure (withHost none s)
  | s => pure (withHost none s)
where
  withHost (host : Option (List Char)) (rest : List Char) : Url :=
    let (path, query) := cutQuery rest
    ofFileParts scheme host (authorityPath .file path) query

/-- The URL after another scheme that no two slashes follow. -/
def parseWithoutHost (scheme s : List Char) : Url :=
  let (path, query) := cutQuery s
  match path with
  | '/' :: path => ofParts .other scheme none (segments .other path) query
  | path =>
    { ofParts .other scheme none [] query with
      path := String.ofList (escapeWhere (fun _ => false) path)
      isOpaque := true }

/-- The text without controls and spaces at its ends and without tabs and line breaks. -/
def clean (s : List Char) : List Char :=
  (Text.trimBy (· ≤ ' ') s).filter fun c => !(['\t', '\n', '\r'].contains c)

/-- The URL that a text writes, which must be absolute. -/
def parse (raw : String) : Except ParseError Url :=
  match scheme? (clean raw.toList) with
  | none => .error .noScheme
  | some (scheme, rest) =>
    match Kind.ofScheme scheme with
    | .special => parseHierarchical .special scheme (rest.dropWhile Kind.special.isSlash)
    | .file => parseFile scheme rest
    | .other =>
      match rest with
      | '/' :: '/' :: rest => parseHierarchical .other scheme rest
      | rest => .ok (parseWithoutHost scheme rest)

end Url

end DeepLinks
