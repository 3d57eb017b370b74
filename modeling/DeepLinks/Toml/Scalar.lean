import DeepLinks.Text.AsciiCase
import DeepLinks.Text.Hex
import DeepLinks.Text.Pieces
import DeepLinks.Toml.Value

/-!
# Numbers, dates and truth values in TOML

All of these are words without quotes. A word is read as a whole: what it means does not depend on
what follows.
-/

namespace DeepLinks.Toml

open Text (isAsciiDigit)

/-- Digits with single underscores between them, which are left out. -/
def digits? (isDigit : Char → Bool) (s : List Char) : Option (List Char) :=
  let ps := Text.pieces '_' s
  if ps.all fun p => !p.isEmpty && p.all isDigit then some ps.flatten else none

/-- Decimal digits that do not begin with a zero unless it is the only one. -/
def whole? (s : List Char) : Option (List Char) := do
  let ds ← digits? isAsciiDigit s
  if ds.head? = some '0' ∧ ds.length ≠ 1 then none else some ds

def valueOf (base : Nat) (digits : List Char) : Nat :=
  Hex.valueIn base (digits.filterMap Hex.digit?)

/-- Whether a word begins with a minus sign, and the word without its sign. -/
def cutSign : List Char → Bool × List Char
  | '+' :: s => (false, s)
  | '-' :: s => (true, s)
  | s => (false, s)

/-- The integer of a word, signed and decimal or with a letter for its base. -/
def integer? (word : List Char) : Option Int := do
  let n ← match word with
    | '0' :: 'x' :: ds => based 16 ds
    | '0' :: 'o' :: ds => based 8 ds
    | '0' :: 'b' :: ds => based 2 ds
    | word => do
      let (negative, ds) := cutSign word
      let n := valueOf 10 (← whole? ds)
      some (if negative then -(n : Int) else n)
  if -0x8000000000000000 ≤ n ∧ n < 0x8000000000000000 then some n else none
where
  based (base : Nat) (ds : List Char) : Option Int := do
    let ds ← digits? (fun c => (Hex.digit? c).any (· < base)) ds
    some (valueOf base ds)

/-- Whether the nearest double of `n` times the `e`-th power of ten is infinite. -/
def overflows (n : Nat) (e : Int) : Bool :=
  -- beyond these bounds powers of ten need not be computed
  let size := (Nat.toDigits 10 n).length
  if n = 0 ∨ e + size < 300 then false
  else if 320 < e + size then true
  else
    -- half a unit above the greatest double
    let limit := (Nat.pow 2 54 - 1) * Nat.pow 2 970
    if 0 ≤ e then limit ≤ n * Nat.pow 10 e.toNat else limit * Nat.pow 10 (-e).toNat ≤ n

/-- Whether a word writes a float that is not above the greatest one: a whole part, and a fraction
or an exponent or both. -/
def isFloat (word : List Char) : Bool :=
  let (negative, body) := cutSign word
  body == "inf".toList || body == "nan".toList || (decimal? body).any fun p =>
    negative || !overflows p.1 p.2
where
  /-- A number as digits and a power of ten. -/
  decimal? (s : List Char) : Option (Nat × Int) := do
    let mantissa := s.takeWhile fun c => c ≠ 'e' ∧ c ≠ 'E'
    let exponent ← match s.dropWhile fun c => c ≠ 'e' ∧ c ≠ 'E' with
      | [] => some (0 : Int)
      | _ :: s => do
        let (negative, ds) := cutSign s
        let n := valueOf 10 (← digits? isAsciiDigit ds)
        some (if negative then -(n : Int) else n)
    match Text.cut? '.' mantissa with
    | some (whole, fraction) => do
      let whole ← whole? whole
      let fraction ← digits? isAsciiDigit fraction
      some (valueOf 10 (whole ++ fraction), exponent - fraction.length)
    | none => do
      let whole ← whole? mantissa
      guard (mantissa.length ≠ s.length)
      some (valueOf 10 whole, exponent)

/-- The number of two digits. -/
def pair? (a b : Char) : Option Nat :=
  if isAsciiDigit a && isAsciiDigit b then some (valueOf 10 [a, b]) else none

def isLeapYear (year : Nat) : Bool :=
  year % 4 == 0 && (year % 100 != 0 || year % 400 == 0)

def daysInMonth (year month : Nat) : Nat :=
  if month = 2 then if isLeapYear year then 29 else 28
  else if [4, 6, 9, 11].contains month then 30
  else 31

def isDate : List Char → Bool
  | [a, b, c, d, '-', e, f, '-', g, h] =>
    match pair? a b, pair? c d, pair? e f, pair? g h with
    | some century, some year, some month, some day =>
      1 ≤ month && month ≤ 12 && 1 ≤ day && day ≤ daysInMonth (100 * century + year) month
    | _, _, _, _ => false
  | _ => false

/-- Hours, minutes, and seconds with an optional fraction; a minute may have a leap second. -/
def isTime : List Char → Bool
  | a :: b :: ':' :: c :: d :: ':' :: e :: f :: fraction =>
    (pair? a b).any (· ≤ 23) && (pair? c d).any (· ≤ 59) && (pair? e f).any (· ≤ 60) &&
      match fraction with
      | [] => true
      | '.' :: ds => !ds.isEmpty && ds.all isAsciiDigit
      | _ => false
  | _ => false

/-- The letter Z, or a distance in hours and minutes. -/
def isOffset : List Char → Bool
  | [c] => c == 'Z' || c == 'z'
  | [sign, a, b, ':', c, d] =>
    (sign == '+' || sign == '-') && (pair? a b).any (· ≤ 23) && (pair? c d).any (· ≤ 59)
  | _ => false

/-- A date, a time, or both, which may have an offset. -/
def isDateTime (word : List Char) : Bool :=
  isDate word || isTime word ||
    match word.drop 10 with
    | t :: clock =>
      let isClock (c : Char) : Bool := isAsciiDigit c || c == ':' || c == '.'
      let offset := clock.dropWhile isClock
      isDate (word.take 10) && (t == 'T' || t == 't') && isTime (clock.takeWhile isClock) &&
        (offset.isEmpty || isOffset offset)
    | [] => false

def isWordChar (c : Char) : Bool :=
  Text.isAsciiAlpha c || isAsciiDigit c || ['+', '-', '_', '.', ':'].contains c

/-- The word at the beginning. A time may follow a date after one space. -/
def word (s : List Char) : List Char × List Char :=
  let first := s.takeWhile isWordChar
  match s.dropWhile isWordChar with
  | ' ' :: d :: s =>
    if isDate first && isAsciiDigit d then
      (first ++ 'T' :: (d :: s).takeWhile isWordChar, (d :: s).dropWhile isWordChar)
    else (first, ' ' :: d :: s)
  | s => (first, s)

/-- The value of a word. -/
def scalar? (word : List Char) : Option Value :=
  if word = "true".toList then some (.bool true)
  else if word = "false".toList then some (.bool false)
  else if isDateTime word then some (.date (String.ofList word))
  else if isFloat word then some (.float (String.ofList word))
  else (integer? word).map .integer

end DeepLinks.Toml
