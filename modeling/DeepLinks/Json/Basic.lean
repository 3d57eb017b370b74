import DeepLinks.Text.Hex

/-!
# JSON values

A string is a row of characters, in which an escape may also name half of a surrogate pair. Such a
string is written down like any other and has no text.
-/

namespace DeepLinks

namespace Json

/-- What stands at one place of a string. -/
inductive Letter where
  | char (c : Char)
  /-- Half of a surrogate pair, alone. -/
  | half (unit : Nat)
deriving DecidableEq, Repr

def Letter.char? : Letter → Option Char
  | char c => some c
  | half _ => none

end Json

inductive Json where
  | null
  | bool (value : Bool)
  /-- A number as it is written. -/
  | number (literal : String)
  | string (letters : List Json.Letter)
  | array (items : List Json)
  | object (entries : List (List Json.Letter × Json))
deriving Repr

namespace Json

def lettersOf (text : String) : List Letter :=
  text.toList.map .char

/-- The text of a string, unless half of a pair stands alone in it. -/
def textOf? (letters : List Letter) : Option String :=
  String.ofList <$> letters.mapM Letter.char?

/-- A row of readers undoes what has been written element by element. -/
theorem mapM_map_eq_some {α β : Type} {write : α → β} {read? : β → Option α}
    (h : ∀ a, read? (write a) = some a) (l : List α) : (l.map write).mapM read? = some l := by
  induction l with
  | nil => rfl
  | cons a l ih => simp [h, ih]

@[simp] theorem textOf?_lettersOf (text : String) : textOf? (lettersOf text) = some text := by
  have hchar (c : Char) : (Letter.char c).char? = some c := rfl
  rw [textOf?, lettersOf, mapM_map_eq_some hchar text.toList]
  simp

/-- The string with a text. -/
def ofText (text : String) : Json :=
  .string (lettersOf text)

/-- A text, or null in its absence. -/
def ofText? (text : Option String) : Json :=
  (text.map ofText).getD .null

/-- The object with the given keys. -/
def ofEntries (entries : List (String × Json)) : Json :=
  .object (entries.map fun e => (lettersOf e.1, e.2))

end Json

end DeepLinks
