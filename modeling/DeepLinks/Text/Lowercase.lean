import DeepLinks.Unicode.Casing

/-!
# Lower case of a text

Every character goes to its full lowercase form. A capital sigma at the end of a word goes to
final sigma: one that a cased character precedes and none follows, where case-ignorable characters
between them do not count.
-/

namespace DeepLinks.Text

open Unicode

/-- The lowercase form of a character wherever it stands. -/
def lowerChar (c : Char) : List Char :=
  if c.toNat < 0x80 then
    [if 'A' ≤ c ∧ c ≤ 'Z' then Char.ofNat (c.toNat + 32) else c]
  else if c = 'İ' then ['i', '\u0307']
  else (lowercaseForms.find? c).getD [c]

/-- Whether the first character that is not case-ignorable is cased. -/
def startsCased (s : List Char) : Bool :=
  match s.find? (fun c => !caseIgnorable.contains c) with
  | some c => cased.contains c
  | none => false

/-- The lowercase form of a text that follows the given characters, nearest first. -/
def lowerAfter (before : List Char) : List Char → List Char
  | [] => []
  | c :: cs =>
    let form :=
      if c = 'Σ' then [if startsCased before && !startsCased cs then 'ς' else 'σ']
      else lowerChar c
    form ++ lowerAfter (c :: before) cs

def lowercase (s : String) : String :=
  String.ofList (lowerAfter [] s.toList)

end DeepLinks.Text
