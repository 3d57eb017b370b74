import DeepLinks.Toml.Draft
import DeepLinks.Toml.Scalar
import DeepLinks.Toml.Text

/-!
# Reading TOML

A document is a row of lines: headers, assignments, and lines without content. Arrays, inline
tables, dotted keys and headers may be nested to a limited depth.
-/

namespace DeepLinks.Toml

/-- The greatest depth of arrays and inline tables, and the greatest length of a dotted key. -/
def maxDepth : Nat := 79

def isKeyChar (c : Char) : Bool :=
  Text.isAsciiAlpha c || Text.isAsciiDigit c || c == '-' || c == '_'

/-- A bare key or one in quotes. -/
def key? (s : List Char) : Option (String × List Char) :=
  match s.takeWhile isKeyChar with
  | [] => line? s
  | key => some (String.ofList key, s.dropWhile isKeyChar)

def keysWithin? : Nat → List Char → Option (List String × List Char)
  | 0, _ => none
  | fuel + 1, s => do
    let (key, s) ← key? (skipSpace s)
    match skipSpace s with
    | '.' :: s => do
      let (keys, s) ← keysWithin? fuel s
      some (key :: keys, s)
    | s => some ([key], s)

/-- A dotted key, with the space around its parts. -/
def keys? (s : List Char) : Option (List String × List Char) :=
  keysWithin? maxDepth s

/-- Takes a character from the beginning. -/
def expect? (c : Char) : List Char → Option (List Char)
  | d :: s => if d = c then some s else none
  | [] => none

mutual

/-- A value with at most `depth` levels of brackets; the text is not longer than the fuel. -/
def valueWithin? : Nat → Nat → List Char → Option (Value × List Char)
  | 0, _, _ => none
  | fuel + 1, depth, s =>
    match s with
    | '[' :: s =>
      if depth = 0 then none
      else do
        let (items, s) ← itemsWithin? fuel (depth - 1) (skipGaps false s)
        some (.array items, s)
    | '\x7b' :: s =>
      if depth = 0 then none
      else do
        let (assignments, s) ←
          match skipSpace s with
          | '\x7d' :: s => some ([], s)
          | s => assignmentsWithin? fuel (depth - 1) s
        some (← Draft.inline? assignments, s)
    | '"' :: _ | '\'' :: _ => (string? s).map fun p => (.text p.1, p.2)
    | s =>
      let (word, s) := word s
      (scalar? word).map (·, s)

/-- The items of an array up to its end; the gap before the first one is skipped. -/
def itemsWithin? : Nat → Nat → List Char → Option (List Value × List Char)
  | 0, _, _ => none
  | fuel + 1, depth, s =>
    match s with
    | ']' :: s => some ([], s)
    | s => do
      let (item, s) ← valueWithin? fuel depth s
      match skipGaps false s with
      | ',' :: s => do
        let (items, s) ← itemsWithin? fuel depth (skipGaps false s)
        some (item :: items, s)
      | ']' :: s => some ([item], s)
      | _ => none

/-- The assignments of an inline table up to its end. -/
def assignmentsWithin? : Nat → Nat → List Char → Option (List (List String × Value) × List Char)
  | 0, _, _ => none
  | fuel + 1, depth, s => do
    let (keys, s) ← keys? s
    let s ← expect? '=' s
    let (value, s) ← valueWithin? fuel depth (skipSpace s)
    match skipSpace s with
    | ',' :: s => do
      let (assignments, s) ← assignmentsWithin? fuel depth s
      some ((keys, value) :: assignments, s)
    | '\x7d' :: s => some ([(keys, value)], s)
    | _ => none

end

def value? (s : List Char) : Option (Value × List Char) :=
  -- every level of the readers takes at least one character
  valueWithin? (2 * s.length + 2) maxDepth s

inductive Line where
  | empty
  | header (path : List String)
  | rowHeader (path : List String)
  | assignment (keys : List String) (value : Value)
deriving Repr

/-- What a line says, without its end. -/
def content? (s : List Char) : Option (Line × List Char) :=
  match skipSpace s with
  | '[' :: '[' :: s => do
    let (path, s) ← keys? s
    let s ← expect? ']' s >>= expect? ']'
    some (.rowHeader path, s)
  | '[' :: s => do
    let (path, s) ← keys? s
    let s ← expect? ']' s
    some (.header path, s)
  | s =>
    match skipLineEnd? s with
    | some _ => some (.empty, s)
    | none => do
      let (keys, s) ← keys? s
      let s ← expect? '=' s
      let (value, s) ← value? (skipSpace s)
      some (.assignment keys value, s)

def linesWithin? : Nat → List Char → Option (List Line)
  | _, [] => some []
  | 0, _ => none
  | fuel + 1, s => do
    let (line, s) ← content? s
    let s ← skipLineEnd? s
    let rest ← linesWithin? fuel s
    some (line :: rest)

/-- The lines of a document. A byte order mark may stand before them. -/
def lines? (document : String) : Option (List Line) :=
  let s := match document.toList with
    | '\uFEFF' :: s => s
    | s => s
  linesWithin? (s.length + 1) s

/-- Adds lines that follow the given header. -/
def Draft.addLines : List String → List Line → Entries → Option Entries
  | _, [], es => some es
  | path, .empty :: lines, es => addLines path lines es
  | _, .header path :: lines, es => openTable path es >>= addLines path lines
  | _, .rowHeader path :: lines, es => addTable path es >>= addLines path lines
  | path, .assignment keys v :: lines, es =>
    atPath (assign v keys) path es >>= addLines path lines

/-- The table that a document writes. -/
def parse? (document : String) : Option Value := do
  let lines ← lines? document
  let es ← Draft.addLines [] lines []
  some (.table (Draft.toEntries es))

end DeepLinks.Toml
