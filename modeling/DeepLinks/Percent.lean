import DeepLinks.Text.AsciiCase
import DeepLinks.Text.Hex
import DeepLinks.Text.Quoted

/-!
# Percent encoding

`encode` writes a text with letters, digits, `-`, `.`, `_`, `~` and escapes `%HH` of single bytes
of its UTF-8 form. `decode` reads escapes strictly: every percent sign begins one, and the bytes
must be UTF-8. Form values also write a space as `+`.
-/

namespace DeepLinks.Percent

/-- The bytes of a text in UTF-8. -/
def bytesOf (s : List Char) : List UInt8 :=
  s.flatMap String.utf8EncodeChar

/-- Letters, digits, `-`, `.`, `_` and `~`, which stand for themselves. -/
def isUnreserved (c : Char) : Bool :=
  Text.isAsciiAlpha c || Text.isAsciiDigit c || c == '-' || c == '.' || c == '_' || c == '~'

theorem isUnreserved_iff {c : Char} :
    isUnreserved c = true ↔
      ('a' ≤ c ∧ c ≤ 'z') ∨ ('A' ≤ c ∧ c ≤ 'Z') ∨ ('0' ≤ c ∧ c ≤ '9') ∨
        c = '-' ∨ c = '.' ∨ c = '_' ∨ c = '~' := by
  simp [isUnreserved, Text.isAsciiAlpha, Text.isAsciiDigit, or_assoc]

/-- The escape of a byte. -/
def escape (b : UInt8) : List Char :=
  ['%', Hex.upper (b.toNat / 16), Hex.upper (b.toNat % 16)]

def encodeByte (b : UInt8) : List Char :=
  if isUnreserved (Char.ofNat b.toNat) then [Char.ofNat b.toNat] else escape b

def encode (s : String) : String :=
  String.ofList ((bytesOf s.toList).flatMap encodeByte)

/-- Why a text has no decoded form. Both causes name the whole text. -/
inductive DecodeError where
  /-- Some percent sign is not followed by two hexadecimal digits. -/
  | malformed (text : String)
  /-- The bytes are not UTF-8. -/
  | notUtf8 (text : String)
deriving DecidableEq, Repr

def DecodeError.message : DecodeError → String
  | malformed text => "malformed percent-encoding in " ++ Text.quote text
  | notUtf8 text => "percent-decoded value of " ++ Text.quote text ++ " is not valid UTF-8"

/-- The bytes that a text stands for, or `none` if a percent sign does not begin an escape. -/
def decodeBytes? (plusAsSpace : Bool) : List Char → Option (List UInt8)
  | [] => some []
  | c :: cs =>
    if c = '%' then
      match cs with
      | hi :: lo :: rest => do
        let hi ← Hex.digit? hi
        let lo ← Hex.digit? lo
        let bs ← decodeBytes? plusAsSpace rest
        some (UInt8.ofNat (16 * hi + lo) :: bs)
      | _ => none
    else do
      let bs ← decodeBytes? plusAsSpace cs
      some ((if plusAsSpace && c == '+' then [0x20] else String.utf8EncodeChar c) ++ bs)

/-- Whether a text stands for itself. -/
def isLiteral (plusAsSpace : Bool) (s : List Char) : Bool :=
  !s.contains '%' && !(plusAsSpace && s.contains '+')

/-- Decodes a text whether or not it has anything to decode. -/
def decodeAll (plusAsSpace : Bool) (s : String) : Except DecodeError String :=
  match decodeBytes? plusAsSpace s.toList with
  | none => .error (.malformed s)
  | some bs =>
    match String.fromUTF8? ⟨bs.toArray⟩ with
    | none => .error (.notUtf8 s)
    | some t => .ok t

/-- The text that `s` encodes. One without escapes is answered at once. -/
def decode (plusAsSpace : Bool) (s : String) : Except DecodeError String :=
  if isLiteral plusAsSpace s.toList then .ok s else decodeAll plusAsSpace s

end DeepLinks.Percent
