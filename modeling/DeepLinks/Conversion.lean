import DeepLinks.Bindings
import DeepLinks.Text.Quoted

/-!
# Typed parameters

Bindings converted to what a caller expects: a record with named fields, a map, or a list. Bindings
are looked at in the order of their names, and the first one that does not fit is the error; fields
that are missing are found last, in the order of the record.
-/

namespace DeepLinks

/-- What a field of a record takes. -/
inductive FieldType where
  | text
  | optionalText
  /-- An unsigned number of 32 bits, which no text is. -/
  | number
deriving DecidableEq, Repr

/-- The value that a type is described to expect. -/
def FieldType.expectation : FieldType → String
  | text | optionalText => "a string"
  | number => "u32"

structure RecordType where
  fields : List (String × FieldType)
  /-- Whether a binding that is no field is an error. -/
  deniesUnknown : Bool
deriving DecidableEq, Repr

/-- What bindings are converted to. -/
inductive Target where
  /-- A map with any names, to values of one type. -/
  | map (type : FieldType)
  | list
  | record (type : RecordType)
deriving DecidableEq, Repr

inductive ConversionError where
  | unknownField (name : String) (known : List String)
  | missingField (name : String)
  | mismatch (value : Option String) (type : FieldType)
  | notList
deriving DecidableEq, Repr

namespace ConversionError

def tick (name : String) : String := "`" ++ name ++ "`"

/-- The fields that a record has, in words. -/
def expectedFields : List String → String
  | [] => "there are no fields"
  | [a] => "expected " ++ tick a
  | [a, b] => "expected " ++ tick a ++ " or " ++ tick b
  | names => "expected one of " ++ ", ".intercalate (names.map tick)

def message : ConversionError → String
  | unknownField name known => "unknown field " ++ tick name ++ ", " ++ expectedFields known
  | missingField name => "missing field " ++ tick name
  | mismatch value type =>
    let found := match value with
      | none => "null"
      | some text => "string " ++ Text.quote text
    "invalid type: " ++ found ++ ", expected " ++ type.expectation
  | notList => "invalid type: map, expected a sequence"

end ConversionError

namespace FieldType

/-- The value of a field of the type. -/
def convert : FieldType → Option String → Except ConversionError (Option String)
  | text, some value => .ok (some value)
  | optionalText, value => .ok value
  | type, value => .error (.mismatch value type)

/-- The value of a field that is not bound. -/
def whenMissing (name : String) : FieldType → Except ConversionError (Option String)
  | optionalText => .ok none
  | _ => .error (.missingField name)

end FieldType

namespace RecordType

/-- Checks a binding against the record, and converts it if it is a field. -/
def readEntry (type : RecordType) (name : String) (value : Option String) :
    Except ConversionError (Option (String × Option String)) :=
  match type.fields.lookup name with
  | some fieldType => (fieldType.convert value).map fun v => some (name, v)
  | none =>
    if type.deniesUnknown then .error (.unknownField name (type.fields.map (·.1))) else .ok none

/-- The record's fields with their values, in the order of the record. -/
def read (type : RecordType) (b : Bindings) :
    Except ConversionError (List (String × Option String)) := do
  let found ← b.entries.mapM fun e => type.readEntry e.1 e.2
  let found := found.filterMap id
  type.fields.mapM fun f =>
    match found.lookup f.1 with
    | some value => .ok (f.1, value)
    | none => (f.2.whenMissing f.1).map fun v => (f.1, v)

end RecordType

/-- The bindings as the target has them. -/
def Bindings.convert (b : Bindings) : Target → Except ConversionError Bindings
  | .map type => do
    let entries ← b.entries.mapM fun e => (type.convert e.2).map fun v => (e.1, v)
    pure (.ofList entries)
  | .list => .error .notList
  | .record type => do
    let fields ← type.read b
    pure (.ofList fields)

end DeepLinks
