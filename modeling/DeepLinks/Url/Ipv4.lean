import DeepLinks.Text.AsciiCase
import DeepLinks.Text.Hex
import DeepLinks.Text.Pieces

/-!
# Addresses of four bytes

A host whose last part is a number is an address: one to four numbers, decimal, octal after `0` or
hexadecimal after `0x`, where the last one fills the bytes that the others leave.
-/

namespace DeepLinks.Url.Ipv4

/-- The number that digits of the given base write; no digits write zero. -/
def digitsValue? (base : Nat) (digits : List Char) : Option Nat := do
  let ds ← digits.mapM Hex.digit?
  if ds.all (· < base) then some (Hex.valueIn base ds) else none

/-- The number that a part of a host writes, if it writes one. -/
def number? : List Char → Option Nat
  | [] => none
  | '0' :: 'x' :: ds => digitsValue? 16 ds
  | '0' :: 'X' :: ds => digitsValue? 16 ds
  | '0' :: ds => digitsValue? 8 ds
  | ds => digitsValue? 10 ds

/-- The parts of a host; a dot at the end is not followed by one. -/
def parts (host : List Char) : List (List Char) :=
  let ps := Text.pieces '.' host
  if 1 < ps.length && ps.getLast? == some [] then ps.dropLast else ps

/-- Whether the last part of a host makes it an address. -/
def endsInNumber (host : List Char) : Bool :=
  (parts host).getLast?.any fun p =>
    (!p.isEmpty && p.all Text.isAsciiDigit) || (number? p).isSome

/-- The address, as one number. -/
def parse? (host : List Char) : Option Nat := do
  let numbers ← (parts host).mapM number?
  guard (numbers.length ≤ 4)
  let last ← numbers.getLast?
  let leading := numbers.dropLast
  -- the bytes that are left for the last number
  let room := Nat.pow 256 (4 - leading.length)
  guard (leading.all (· ≤ 255) && last < room)
  some (Hex.valueIn 256 leading * room + last)

/-- Four decimal numbers, parted by dots. -/
def render (address : Nat) : List Char :=
  ['.'].intercalate <|
    [address / 0x1000000, address / 0x10000 % 256, address / 256 % 256, address % 256].map
      (Nat.toDigits 10)

end DeepLinks.Url.Ipv4
