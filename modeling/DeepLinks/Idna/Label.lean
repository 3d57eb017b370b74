import DeepLinks.Idna.Mapping
import DeepLinks.Idna.Punycode
import DeepLinks.Unicode.Bidi
import DeepLinks.Unicode.Joining
import DeepLinks.Unicode.Normalization

/-!
# Labels of a domain name

A label is the text between two dots. Its ASCII form begins with `xn--` if it holds other
characters. Besides the mapping of its characters a label must not begin with a combining mark,
holds zero width joiners only where they make a difference, and obeys the rule for writing
direction if any label of its domain is written from right to left.
-/

namespace DeepLinks.Idna

open Unicode

abbrev Label := List Char

namespace Label

def isAscii (l : Label) : Bool :=
  l.all (·.toNat < 0x80)

def asciiMark : List Char := ['x', 'n', '-', '-']

/-- Labels with more characters are refused, so that the work stays small. -/
def longest : Nat := 1000

/-- ASCII forms with more characters are refused. -/
def longestAscii : Nat := 2000

/-- The label that a mapped label stands for: an ASCII form is read, and what it writes must be a
composed text of permitted characters that are not all ASCII. -/
def ofMapped? (l : Label) : Option Label :=
  if asciiMark.isPrefixOf l then do
    guard (l.isAscii && l.length - asciiMark.length ≤ longestAscii)
    let label ← Punycode.decode? (l.drop asciiMark.length)
    guard (!isAscii label && label.all isValid && compose label == label &&
      !asciiMark.isPrefixOf label)
    pure label
  else if l.length ≤ longest || l.isAscii then some l
  else none

def toAscii (l : Label) : List Char :=
  if l.isAscii then l else asciiMark ++ Punycode.encode l

/-- Whether a joiner may stand between the characters before it, nearest first, and those after
it. Both joiners may follow a virama; the non-joiner may also part characters that would join. -/
def joinerFits (joiner : Char) (before after : List Char) : Bool :=
  let follows (cs : List Char) : Option Char := cs.find? (fun c => !transparentJoining.contains c)
  (before.head?.any (combiningClass · == 9)) ||
    (joiner == '\u200c' &&
      (follows before).any (fun c => leftJoining.contains c || dualJoining.contains c) &&
      (follows after).any (fun c => rightJoining.contains c || dualJoining.contains c))

/-- Whether every joiner of a text that follows the given characters stands where it may. -/
def joinersFit (before : List Char) : List Char → Bool
  | [] => true
  | c :: cs =>
    (if c == '\u200c' || c == '\u200d' then joinerFits c before cs else true) &&
      joinersFit (c :: before) cs

def isWellFormed (l : Label) : Bool :=
  l.isAscii || (!(l.head?.any marks.contains) && joinersFit [] l)

/-- Whether a label makes its domain one that is written in both directions. -/
def hasRightToLeft (l : Label) : Bool :=
  l.any fun c => 0x80 ≤ c.toNat && [.right, .arabicNumber].contains (bidiClass c)

/-- The rule for labels of a domain in which some label is written from right to left. -/
def obeysBidi (l : Label) : Bool :=
  let classes := l.map bidiClass
  let ending := (classes.reverse.dropWhile (· == .mark)).head?
  match classes.head? with
  | none => true
  | some .right =>
    !classes.contains .left && ending.any [.right, .europeanNumber, .arabicNumber].contains &&
      !(classes.contains .europeanNumber && classes.contains .arabicNumber)
  | some .left =>
    !classes.contains .right && !classes.contains .arabicNumber &&
      ending.any [.left, .europeanNumber].contains
  | some _ => false

end Label

end DeepLinks.Idna
