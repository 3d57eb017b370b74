import DeepLinks.Json.Basic

/-!
# Writing JSON

Compact, or indented by two spaces a level. Only quotes, backslashes and controls are escaped.
-/

namespace DeepLinks.Json

/-- A code unit as an escape. -/
def escapeUnit (n : Nat) : List Char :=
  ['\\', 'u', Hex.lower (n / 4096 % 16), Hex.lower (n / 256 % 16), Hex.lower (n / 16 % 16),
    Hex.lower (n % 16)]

def printLetter : Letter → List Char
  | .half unit => escapeUnit unit
  | .char '"' => ['\\', '"']
  | .char '\\' => ['\\', '\\']
  | .char '\n' => ['\\', 'n']
  | .char '\r' => ['\\', 'r']
  | .char '\t' => ['\\', 't']
  | .char '\x08' => ['\\', 'b']
  | .char '\x0c' => ['\\', 'f']
  | .char c => if c.toNat < 0x20 then escapeUnit c.toNat else [c]

def printString (letters : List Letter) : String :=
  String.ofList ('"' :: (letters.flatMap printLetter ++ ['"']))

mutual

def print : Json → String
  | null => "null"
  | bool true => "true"
  | bool false => "false"
  | number literal => literal
  | string letters => printString letters
  | array items => "[" ++ ",".intercalate (printItems items) ++ "]"
  | object entries => "\x7b" ++ ",".intercalate (printEntries entries) ++ "\x7d"

def printItems : List Json → List String
  | [] => []
  | j :: js => print j :: printItems js

def printEntries : List (List Letter × Json) → List String
  | [] => []
  | (key, j) :: es => (printString key ++ ":" ++ print j) :: printEntries es

end

/-- A line break and the indentation of a level. -/
def lineBreak (level : Nat) : String :=
  String.ofList ('\n' :: List.replicate (2 * level) ' ')

/-- The parts of an array or object, each on lines of its own. -/
def printBlock (level : Nat) (opening closing : String) (parts : List String) : String :=
  if parts.isEmpty then opening ++ closing
  else
    opening ++ lineBreak (level + 1) ++ ("," ++ lineBreak (level + 1)).intercalate parts
      ++ lineBreak level ++ closing

mutual

/-- Writes a value that stands on a level, over several lines. -/
def printIndented (level : Nat) : Json → String
  | array items => printBlock level "[" "]" (printIndentedItems (level + 1) items)
  | object entries => printBlock level "\x7b" "\x7d" (printIndentedEntries (level + 1) entries)
  | null => print null
  | bool value => print (bool value)
  | number literal => print (number literal)
  | string letters => print (string letters)

def printIndentedItems (level : Nat) : List Json → List String
  | [] => []
  | j :: js => printIndented level j :: printIndentedItems level js

def printIndentedEntries (level : Nat) : List (List Letter × Json) → List String
  | [] => []
  | (key, j) :: es =>
    (printString key ++ ": " ++ printIndented level j) :: printIndentedEntries level es

end

end DeepLinks.Json
