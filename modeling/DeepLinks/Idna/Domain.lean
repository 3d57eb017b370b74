import DeepLinks.Idna.Label
import DeepLinks.Text.AsciiCase

/-!
# Domain names in ASCII form

`toAscii?` maps the characters of a name, composes it, and writes each label in its ASCII form.
Names of ASCII labels that are no ASCII forms themselves only change the case of letters.
-/

namespace DeepLinks.Idna

/-- The labels of a name. -/
def labels (domain : List Char) : List Label :=
  Text.pieces '.' domain

/-- Names of plain ASCII labels: no label begins with the mark of an ASCII form. -/
def isPlain (domain : List Char) : Bool :=
  Label.isAscii domain &&
    (labels domain).all fun l => !Label.asciiMark.isPrefixOf (l.map Text.asciiLower)

/-- The mapped, composed and decoded labels of a name. -/
def unicodeLabels? (domain : List Char) : Option (List Label) := do
  let mapped ← domain.mapM mapChar?
  (labels (Unicode.compose mapped.flatten)).mapM Label.ofMapped?

/-- The ASCII form of a name, or `none` if it has none or holds an ASCII character that satisfies
`isForbidden`. -/
def toAscii? (isForbidden : Char → Bool) (domain : List Char) : Option (List Char) :=
  if isPlain domain then
    let lower := domain.map Text.asciiLower
    if lower.any isForbidden then none else some lower
  else do
    let ls ← unicodeLabels? domain
    guard (ls.all Label.isWellFormed)
    guard (!(ls.any Label.hasRightToLeft) || ls.all Label.obeysBidi)
    guard (!(ls.any (·.any isForbidden)))
    pure (['.'].intercalate (ls.map Label.toAscii))

end DeepLinks.Idna
