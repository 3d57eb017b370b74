import DeepLinks.Text.Hex
import DeepLinks.Unicode.Printable

/-!
# Quoted text

Texts inside messages stand between double quotes. A quote and a backslash stand after a
backslash; line feed, carriage return, tab and the null character have letters; every other
character that does not print, and every grapheme extender, is written as a code point in braces.
A quoted text is always one line.
-/

namespace DeepLinks.Text.Quoted

open Unicode

def isPlain (c : Char) : Bool :=
  if c.toNat < 0x7F then 0x20 ≤ c.toNat
  else !unprintable.contains c && !graphemeExtend.contains c

/-- The characters that have an escape letter, with it. -/
def letter? : Char → Option Char
  | '"' => some '"'
  | '\\' => some '\\'
  | '\n' => some 'n'
  | '\r' => some 'r'
  | '\t' => some 't'
  | '\x00' => some '0'
  | _ => none

def encodeChar (c : Char) : List Char :=
  match letter? c with
  | some l => ['\\', l]
  | none => if isPlain c then [c] else ['\\', 'u', '\x7b'] ++ Hex.ofNat c.toNat ++ ['\x7d']

def encode (s : List Char) : List Char :=
  '"' :: (s.flatMap encodeChar ++ ['"'])

end Quoted

/-- The text between quotes, in one line. -/
def quote (s : String) : String :=
  String.ofList (Quoted.encode s.toList)

/-- A list of quoted texts between brackets. -/
def quoteList (l : List String) : String :=
  "[" ++ ", ".intercalate (l.map quote) ++ "]"

end DeepLinks.Text
