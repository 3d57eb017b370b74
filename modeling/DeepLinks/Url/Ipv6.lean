import DeepLinks.Text.Hex
import DeepLinks.Text.Pieces
import DeepLinks.Text.AsciiCase

/-!
# Addresses of eight groups

Eight hexadecimal groups parted by colons. Two colons in a row stand once for one or more groups
of zero, and four decimal bytes at the end for the last two groups.
-/

namespace DeepLinks.Url.Ipv6

/-- The value of one to four hexadecimal digits. -/
def group? (s : List Char) : Option Nat := do
  guard (!s.isEmpty && s.length ≤ 4)
  Hex.valueIn 16 <$> s.mapM Hex.digit?

/-- The value of a decimal byte without leading zeros. -/
def byte? (s : List Char) : Option Nat := do
  guard (!s.isEmpty && s.all Text.isAsciiDigit && (s.length == 1 || s.head? != some '0'))
  let n := Hex.valueIn 10 (s.filterMap Hex.digit?)
  guard (n ≤ 255)
  some n

/-- The two groups that four decimal bytes stand for. -/
def embedded? (s : List Char) : Option (List Nat) := do
  match ← (Text.pieces '.' s).mapM byte? with
  | [a, b, c, d] => some [256 * a + b, 256 * c + d]
  | _ => none

/-- Groups parted by colons. Those at the end of an address may be written as decimal bytes. -/
def groups? (atEnd : Bool) (s : List Char) : Option (List Nat) := do
  let ps := Text.pieces ':' s
  let last ← ps.getLast?
  let front ← ps.dropLast.mapM group?
  let back ← ((group? last).map ([·])) <|> (if atEnd then embedded? last else none)
  some (front ++ back)

/-- The texts before and after the first two colons in a row. -/
def cutGap? : List Char → Option (List Char × List Char)
  | [] => none
  | c :: cs =>
    match c, cs with
    | ':', ':' :: rest => some ([], rest)
    | c, cs => (cutGap? cs).map fun p => (c :: p.1, p.2)

/-- The eight groups of an address. -/
def parse? (s : List Char) : Option (List Nat) :=
  match cutGap? s with
  | none => do
    let gs ← groups? true s
    guard (gs.length = 8)
    some gs
  | some (before, after) => do
    let front ← if before.isEmpty then some [] else groups? false before
    let back ← if after.isEmpty then some [] else groups? true after
    guard (front.length + back.length ≤ 7)
    some (front ++ List.replicate (8 - front.length - back.length) 0 ++ back)

/-- The length of the row of zeros at the beginning. -/
def zeros (gs : List Nat) : Nat :=
  (gs.takeWhile (· == 0)).length

/-- The first longest row of zeros, as its place and length, from place `i` on. -/
def longestZeros : Nat → List Nat → Nat × Nat
  | i, [] => (i, 0)
  | i, g :: gs =>
    let r := longestZeros (i + 1) gs
    if r.2 ≤ zeros (g :: gs) then (i, zeros (g :: gs)) else r

/-- Hexadecimal groups without leading zeros; the first longest row of two or more zeros is left
out between two colons. -/
def render (gs : List Nat) : List Char :=
  let join (gs : List Nat) := [':'].intercalate (gs.map Hex.ofNat)
  let (place, length) := longestZeros 0 gs
  if 2 ≤ length then join (gs.take place) ++ [':', ':'] ++ join (gs.drop (place + length))
  else join gs

end DeepLinks.Url.Ipv6
