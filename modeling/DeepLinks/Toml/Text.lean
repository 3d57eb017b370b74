import DeepLinks.Text.AsciiCase
import DeepLinks.Text.Hex

/-!
# Strings and gaps in TOML

Strings stand between double quotes, with escapes, or between single quotes, as they are; three
quotes surround a string of several lines. Each reader takes its part from the beginning of a text
and leaves the rest.
-/

namespace DeepLinks.Toml

def isSpace (c : Char) : Bool :=
  c == ' ' || c == '\t'

/-- Characters that strings of one line and comments may hold. -/
def isTextChar (c : Char) : Bool :=
  c == '\t' || (0x20 ≤ c.toNat && c.toNat ≠ 0x7F)

def skipSpace (s : List Char) : List Char :=
  s.dropWhile isSpace

/-- Skips space and line breaks. -/
def skipBlanks : List Char → List Char
  | [] => []
  | '\r' :: '\n' :: cs => skipBlanks cs
  | c :: cs => if isSpace c ∨ c = '\n' then skipBlanks cs else c :: cs

/-- Skips space, line breaks and comments. -/
def skipGaps (inComment : Bool) : List Char → List Char
  | [] => []
  | '\n' :: cs => skipGaps false cs
  | '\r' :: '\n' :: cs => skipGaps false cs
  | c :: cs =>
    if inComment then if isTextChar c then skipGaps true cs else c :: cs
    else if isSpace c then skipGaps false cs
    else if c = '#' then skipGaps true cs
    else c :: cs

/-- Skips what may follow on a line: space and a comment, up to the end of the line. -/
def skipLineEnd? (s : List Char) : Option (List Char) :=
  let s := skipSpace s
  let s := if s.head? = some '#' then s.dropWhile isTextChar else s
  match s with
  | [] => some []
  | '\n' :: s => some s
  | '\r' :: '\n' :: s => some s
  | _ => none

/-- The character with a code point, if there is one. -/
def charOfCode? (n : Nat) : Option Char :=
  if h : n.isValidChar then some (Char.ofNatAux n h) else none

def charOfDigits? (digits : List Char) : Option Char := do
  charOfCode? (Hex.valueIn 16 (← digits.mapM Hex.digit?))

/-- The character of an escape whose backslash is read. -/
def escape? : List Char → Option (Char × List Char)
  | 'b' :: s => some ('\x08', s)
  | 't' :: s => some ('\t', s)
  | 'n' :: s => some ('\n', s)
  | 'f' :: s => some ('\x0c', s)
  | 'r' :: s => some ('\r', s)
  | '"' :: s => some ('"', s)
  | '\\' :: s => some ('\\', s)
  | 'u' :: a :: b :: c :: d :: s => (charOfDigits? [a, b, c, d]).map (·, s)
  | 'U' :: a :: b :: c :: d :: e :: f :: g :: h :: s =>
    (charOfDigits? [a, b, c, d, e, f, g, h]).map (·, s)
  | _ => none

/-- The string of one line whose opening quote is read. Only between double quotes does a
backslash begin an escape. The text is not longer than the fuel. -/
def lineWithin? (quote : Char) : Nat → List Char → Option (List Char × List Char)
  | fuel + 1, c :: cs =>
    if c = quote then some ([], cs)
    else if c = '\\' ∧ quote = '"' then do
      let (c, cs) ← escape? cs
      let (text, s) ← lineWithin? quote fuel cs
      some (c :: text, s)
    else if isTextChar c then do
      let (text, s) ← lineWithin? quote fuel cs
      some (c :: text, s)
    else none
  | _, _ => none

/-- What is left after three closing quotes: up to two more belong to the string. -/
def closeBlock (quote : Char) : List Char → List Char × List Char
  | a :: b :: s =>
    if a = quote then if b = quote then ([a, b], s) else ([a], b :: s) else ([], a :: b :: s)
  | [a] => if a = quote then ([a], []) else ([], [a])
  | [] => ([], [])

/-- The text after a backslash at the end of a line, without the space before it goes on. -/
def joinLines? (s : List Char) : Option (List Char) :=
  match skipSpace s with
  | '\n' :: s => some (skipBlanks s)
  | '\r' :: '\n' :: s => some (skipBlanks s)
  | _ => none

/-- The string of several lines whose opening quotes are read. -/
def blockWithin? (quote : Char) : Nat → List Char → Option (List Char × List Char)
  | fuel + 1, c :: cs =>
    if c = quote ∧ [quote, quote].isPrefixOf cs then some (closeBlock quote (cs.drop 2))
    else if c = '\\' ∧ quote = '"' then
      match joinLines? cs with
      | some cs => blockWithin? quote fuel cs
      | none => do
        let (c, cs) ← escape? cs
        let (text, s) ← blockWithin? quote fuel cs
        some (c :: text, s)
    else do
      let (c, cs) ← match c, cs with
        | '\r', '\n' :: cs => some ('\n', cs)
        | c, cs => if c = '\n' ∨ isTextChar c then some (c, cs) else none
      let (text, s) ← blockWithin? quote fuel cs
      some (c :: text, s)
  | _, _ => none

/-- A string of one line. -/
def line? : List Char → Option (String × List Char)
  | [] => none
  | c :: cs =>
    if c = '"' ∨ c = '\'' then
      (lineWithin? c (cs.length + 1) cs).map fun p => (String.ofList p.1, p.2)
    else none

/-- A string of one line or of several; a line break right after three opening quotes is no part
of it. -/
def string? : List Char → Option (String × List Char)
  | a :: b :: c :: s =>
    if (a = '"' ∨ a = '\'') ∧ b = a ∧ c = a then
      let s := match s with
        | '\n' :: s => s
        | '\r' :: '\n' :: s => s
        | s => s
      (blockWithin? a (s.length + 1) s).map fun p => (String.ofList p.1, p.2)
    else line? (a :: b :: c :: s)
  | s => line? s

end DeepLinks.Toml
