import DeepLinks.Text.Hex
import DeepLinks.Text.Pieces

/-!
# Tables of character properties

A property of characters is a set of code points or a map on them. Both are written down in text:
a set as hexadecimal ranges `41-5A 61-7A`, a map as `41-5A>61`, where a range goes to the range
that starts at the target, `100/12E>101`, where only every second code point does, and
`FB01>66+69`, where one character goes to several.
-/

namespace DeepLinks.Unicode

/-- The number that a word of hexadecimal digits writes. -/
def hexWord (w : List Char) : Nat :=
  Hex.valueIn 16 (w.filterMap Hex.digit?)

/-- The words of a text of one or more lines. -/
def words (text : String) : List (List Char) :=
  (text.toList.splitBy fun a b => !isGap a && !isGap b).filter fun w => !w.any isGap
where
  isGap (c : Char) : Bool := c == ' ' || c == '\n'

/-- A set of code points, as closed ranges. -/
structure CodeRanges where
  ranges : List (Nat × Nat)

namespace CodeRanges

def ofText (text : String) : CodeRanges where
  ranges := (words text).map fun word =>
    match Text.cut? '-' word with
    | some (first, last) => (hexWord first, hexWord last)
    | none => (hexWord word, hexWord word)

def contains (r : CodeRanges) (c : Char) : Bool :=
  r.ranges.any fun b => b.1 ≤ c.toNat && c.toNat ≤ b.2

end CodeRanges

/-- Every `step`-th code point from `first` to `last`. A single target is that of `first`, and the
others lie as far from it as their code points from `first`; several targets belong to all. -/
structure Run where
  first : Nat
  last : Nat
  step : Nat
  targets : List Nat

namespace Run

def ofWord (word : List Char) : Run :=
  match Text.cut? '>' word with
  | none => ⟨hexWord word, hexWord word, 1, []⟩
  | some (source, target) =>
    let targets := (Text.pieces '+' target).map hexWord
    match Text.cut? '-' source, Text.cut? '/' source with
    | some (first, last), _ => ⟨hexWord first, hexWord last, 1, targets⟩
    | none, some (first, last) => ⟨hexWord first, hexWord last, 2, targets⟩
    | none, none => ⟨hexWord source, hexWord source, 1, targets⟩

def contains (r : Run) (n : Nat) : Bool :=
  r.first ≤ n && n ≤ r.last && (n - r.first) % r.step == 0

def image (r : Run) (n : Nat) : List Nat :=
  match r.targets with
  | [t] => [t + (n - r.first)]
  | ts => ts

end Run

/-- A map on code points, as runs. -/
structure CodeMap where
  runs : List Run

namespace CodeMap

def ofText (text : String) : CodeMap where
  runs := (words text).map Run.ofWord

/-- What a character goes to, if the map has it. -/
def find? (m : CodeMap) (c : Char) : Option (List Char) :=
  (m.runs.find? (·.contains c.toNat)).map fun r => (r.image c.toNat).map Char.ofNat

/-- The character that goes to exactly the given ones. -/
def findSource? (m : CodeMap) (cs : List Char) : Option Char :=
  (m.runs.find? (fun r => r.targets == cs.map Char.toNat)).map fun r => Char.ofNat r.first

end CodeMap

end DeepLinks.Unicode
