import DeepLinks.Unicode.Composition
import DeepLinks.Unicode.Marks

/-!
# Composed normal form

`compose` brings a text into the canonically composed form: characters are decomposed, the marks
after each starter are put in the order of their classes, and what can be composed is composed.
-/

namespace DeepLinks.Unicode

namespace Hangul

def firstSyllable : Nat := 0xAC00
def firstLead : Nat := 0x1100
def firstVowel : Nat := 0x1161
/-- One before the first trailing consonant, so that offset zero means none. -/
def trailBase : Nat := 0x11A7
def leads : Nat := 19
def vowels : Nat := 21
def trails : Nat := 28

/-- The letters of a syllable. -/
def letters? (c : Char) : Option (List Char) :=
  let n := c.toNat - firstSyllable
  if firstSyllable ≤ c.toNat ∧ n < leads * vowels * trails then
    let trail := n % trails
    some ([firstLead + n / (vowels * trails), firstVowel + n % (vowels * trails) / trails] ++
      (if trail = 0 then [] else [trailBase + trail]) |>.map Char.ofNat)
  else none

/-- The syllable of a lead and a vowel, or of an open syllable and a trailing consonant. -/
def pair? (a b : Char) : Option Char :=
  let x := a.toNat
  let y := b.toNat
  if firstLead ≤ x ∧ x < firstLead + leads ∧ firstVowel ≤ y ∧ y < firstVowel + vowels then
    some (Char.ofNat (firstSyllable + ((x - firstLead) * vowels + (y - firstVowel)) * trails))
  else if firstSyllable ≤ x ∧ x < firstSyllable + leads * vowels * trails ∧
      (x - firstSyllable) % trails = 0 ∧ trailBase < y ∧ y < trailBase + trails then
    some (Char.ofNat (x + (y - trailBase)))
  else none

end Hangul

/-- The full canonical decomposition of a character. -/
def decomposition (c : Char) : List Char :=
  if c.toNat < 0xC0 then [c]
  else (Hangul.letters? c <|> canonicalDecompositions.find? c).getD [c]

/-- Puts a character before an ordered text, moving a mark past those of lower classes. -/
def placeMark (c : Char) : List Char → List Char
  | [] => [c]
  | d :: ds =>
    if combiningClass d ≠ 0 ∧ combiningClass d < combiningClass c then d :: placeMark c ds
    else c :: d :: ds

/-- The canonically decomposed and ordered form. -/
def decompose (s : List Char) : List Char :=
  (s.flatMap decomposition).foldr placeMark []

def pair? (a b : Char) : Option Char :=
  Hangul.pair? a b <|> primaryComposites.findSource? [a, b]

/-- Composes the text after the given starter. The marks that stand between the two, last one
first, did not compose with it, and `last` is the class of the last of them. -/
def composeAfter (starter : Char) (between : List Char) (last : Nat) : List Char → List Char
  | [] => starter :: between.reverse
  | c :: cs =>
    let k := combiningClass c
    let composite := if between.isEmpty || last < k then pair? starter c else none
    match composite with
    | some p => composeAfter p between last cs
    | none =>
      if k = 0 then starter :: between.reverse ++ composeAfter c [] 0 cs
      else composeAfter starter (c :: between) k cs

/-- Composes a decomposed text. Marks before the first starter stay as they are. -/
def composeFrom : List Char → List Char
  | [] => []
  | c :: cs => if combiningClass c = 0 then composeAfter c [] 0 cs else c :: composeFrom cs

/-- The canonically composed form of a text. -/
def compose (s : List Char) : List Char :=
  composeFrom (decompose s)

end DeepLinks.Unicode
