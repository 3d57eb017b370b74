import DeepLinks.Json.Basic
import DeepLinks.Text.AsciiCase

/-!
# Reading JSON

Each reader takes a value from the beginning of a text and leaves the rest. Numbers are only
checked for their form, and escapes that name half of a surrogate pair are kept.
-/

namespace DeepLinks.Json

def isSpace (c : Char) : Bool :=
  c == ' ' || c == '\n' || c == '\r' || c == '\t'

def skipSpace (s : List Char) : List Char :=
  s.dropWhile isSpace

/-- The character that a letter after a backslash stands for. -/
def escaped? : Char → Option Char
  | '"' => some '"'
  | '\\' => some '\\'
  | '/' => some '/'
  | 'b' => some '\x08'
  | 'f' => some '\x0c'
  | 'n' => some '\n'
  | 'r' => some '\r'
  | 't' => some '\t'
  | _ => none

def isHighHalf (n : Nat) : Bool := 0xD800 ≤ n && n < 0xDC00

def isLowHalf (n : Nat) : Bool := 0xDC00 ≤ n && n < 0xE000

/-- What an escaped code unit stands for if nothing joins it. -/
def letterOfUnit (n : Nat) : Letter :=
  if isHighHalf n || isLowHalf n then .half n else .char (Char.ofNat n)

/-- Puts a letter in front; the two halves of a pair become a character. -/
def consLetter : Letter → List Letter → List Letter
  | .half high, .half low :: rest =>
    if isHighHalf high && isLowHalf low then
      .char (Char.ofNat (0x10000 + (high - 0xD800) * 0x400 + (low - 0xDC00))) :: rest
    else .half high :: .half low :: rest
  | l, rest => l :: rest

/-- The string whose opening quote is read. -/
def letters? : List Char → Option (List Letter × List Char)
  | [] => none
  | c :: cs =>
    if c = '"' then some ([], cs)
    else if c = '\\' then
      match cs with
      | 'u' :: a :: b :: c :: d :: cs => do
        let digits ← [a, b, c, d].mapM Hex.digit?
        let (rest, s) ← letters? cs
        some (consLetter (letterOfUnit (Hex.valueIn 16 digits)) rest, s)
      | e :: cs => do
        let c ← escaped? e
        let (rest, s) ← letters? cs
        some (.char c :: rest, s)
      | [] => none
    else if c.toNat < 0x20 then none
    else do
      let (rest, s) ← letters? cs
      some (.char c :: rest, s)

/-- One or more digits. -/
def digits? (s : List Char) : Option (List Char × List Char) :=
  match s.takeWhile Text.isAsciiDigit with
  | [] => none
  | ds => some (ds, s.dropWhile Text.isAsciiDigit)

/-- Digits that do not begin with a zero unless it is the only one. -/
def whole? : List Char → Option (List Char × List Char)
  | '0' :: s =>
    match s with
    | c :: _ => if Text.isAsciiDigit c then none else some (['0'], s)
    | [] => some (['0'], s)
  | s => digits? s

def fraction? : List Char → Option (List Char × List Char)
  | '.' :: s => do
    let (ds, s) ← digits? s
    some ('.' :: ds, s)
  | s => some ([], s)

def exponent? : List Char → Option (List Char × List Char)
  | [] => some ([], [])
  | e :: s =>
    if e = 'e' ∨ e = 'E' then do
      let (sign, s) := match s with
        | '+' :: s => (['+'], s)
        | '-' :: s => (['-'], s)
        | s => ([], s)
      let (ds, s) ← digits? s
      some (e :: (sign ++ ds), s)
    else some ([], e :: s)

def number? (s : List Char) : Option (Json × List Char) := do
  let (sign, s) := match s with
    | '-' :: s => (['-'], s)
    | s => ([], s)
  let (whole, s) ← whole? s
  let (fraction, s) ← fraction? s
  let (exponent, s) ← exponent? s
  some (.number (String.ofList (sign ++ whole ++ fraction ++ exponent)), s)

/-- Takes a word from the beginning. -/
def word? (w : List Char) (s : List Char) : Option (List Char) :=
  if w.isPrefixOf s then some (s.drop w.length) else none

mutual

/-- A value, not deeper than the fuel. -/
def valueWithin? : Nat → List Char → Option (Json × List Char)
  | 0, _ => none
  | fuel + 1, s =>
    match skipSpace s with
    | '"' :: s => (letters? s).map fun p => (.string p.1, p.2)
    | '[' :: s =>
      match skipSpace s with
      | ']' :: s => some (.array [], s)
      | s => (itemsWithin? fuel s).map fun p => (.array p.1, p.2)
    | '\x7b' :: s =>
      match skipSpace s with
      | '\x7d' :: s => some (.object [], s)
      | s => (entriesWithin? fuel s).map fun p => (.object p.1, p.2)
    | 'n' :: s => (word? ['u', 'l', 'l'] s).map fun s => (.null, s)
    | 't' :: s => (word? ['r', 'u', 'e'] s).map fun s => (.bool true, s)
    | 'f' :: s => (word? ['a', 'l', 's', 'e'] s).map fun s => (.bool false, s)
    | s => number? s

/-- The items of an array up to its end. -/
def itemsWithin? : Nat → List Char → Option (List Json × List Char)
  | 0, _ => none
  | fuel + 1, s => do
    let (item, s) ← valueWithin? fuel s
    match skipSpace s with
    | ',' :: s => do
      let (items, s) ← itemsWithin? fuel s
      some (item :: items, s)
    | ']' :: s => some ([item], s)
    | _ => none

/-- The entries of an object up to its end. -/
def entriesWithin? : Nat → List Char → Option (List (List Letter × Json) × List Char)
  | 0, _ => none
  | fuel + 1, s => do
    let (key, s) ← match skipSpace s with
      | '"' :: s => letters? s
      | _ => none
    let s ← match skipSpace s with
      | ':' :: s => some s
      | _ => none
    let (value, s) ← valueWithin? fuel s
    match skipSpace s with
    | ',' :: s => do
      let (entries, s) ← entriesWithin? fuel s
      some ((key, value) :: entries, s)
    | '\x7d' :: s => some ([(key, value)], s)
    | _ => none

end

/-- The value that a text writes, with nothing but space around it. -/
def parse? (text : String) : Option Json := do
  -- every level of the readers takes at least one character
  let (value, rest) ← valueWithin? (2 * text.toList.length + 2) text.toList
  guard (skipSpace rest).isEmpty
  some value

end DeepLinks.Json
