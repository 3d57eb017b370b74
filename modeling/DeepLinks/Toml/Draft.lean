import DeepLinks.Toml.Value

/-!
# Tables in the making

The tables of a document grow line by line. What may still be added to a table depends on how it
came to be, so a draft remembers that until the document is read.
-/

namespace DeepLinks.Toml

/-- How a table came to be. -/
inductive Origin where
  /-- It has a header of its own. -/
  | header
  /-- A longer header passes through it. -/
  | implied
  /-- A dotted key passes through it. -/
  | dotted
deriving DecidableEq, Repr

inductive Draft where
  | value (v : Value)
  | table (origin : Origin) (entries : List (String × Draft))
  /-- Tables with the same header in double brackets. -/
  | tables (items : List (List (String × Draft)))
deriving Repr

namespace Draft

abbrev Entries := List (String × Draft)

/-- Replaces what a key has, or adds the key. -/
def alter (key : String) (f : Option Draft → Option Draft) : Entries → Option Entries
  | [] => (f none).map fun d => [(key, d)]
  | (k, d) :: es =>
    if k = key then (f (some d)).map fun d => (k, d) :: es
    else (alter key f es).map ((k, d) :: ·)

/-- Changes the last one of a row of tables. -/
def alterLast (f : Entries → Option Entries) : List Entries → Option (List Entries)
  | [] => none
  | [es] => (f es).map ([·])
  | es :: rest => (alterLast f rest).map (es :: ·)

/-- Goes into what a header passes through, which is made if it is not there. -/
def passThrough (f : Entries → Option Entries) : Option Draft → Option Draft
  | none => (f []).map (.table .implied)
  | some (.table origin es) => (f es).map (.table origin)
  | some (.tables items) => (alterLast f items).map .tables
  | some (.value _) => none

/-- Goes to the table at the end of a path. -/
def atPath (f : Entries → Option Entries) : List String → Entries → Option Entries
  | [], es => f es
  | key :: path, es => alter key (passThrough (atPath f path)) es

/-- Makes the table of a header. It must be new, or a header must have passed through it. -/
def openTable : List String → Entries → Option Entries
  | [], _ => none
  | [key], es => alter key (fun
      | none => some (.table .header [])
      | some (.table .implied es) => some (.table .header es)
      | _ => none) es
  | key :: path, es => alter key (passThrough (openTable path)) es

/-- Adds a table to the row of a header in double brackets. -/
def addTable : List String → Entries → Option Entries
  | [], _ => none
  | [key], es => alter key (fun
      | none => some (.tables [[]])
      | some (.tables items) => some (.tables (items ++ [[]]))
      | _ => none) es
  | key :: path, es => alter key (passThrough (addTable path)) es

/-- Gives a value to a dotted key. The key must be new, and the table that takes it may not have
been made by a header. -/
def assign (v : Value) : List String → Entries → Option Entries
  | [], _ => none
  | [key], es => alter key (fun
      | none => some (.value v)
      | _ => none) es
  | key :: path, es => alter key (fun
      | none => (assign v path []).map (.table .dotted)
      | some (.table .dotted es) => (assign v path es).map (.table .dotted)
      | some (.table .implied es) =>
        if path.length = 1 then none else (assign v path es).map (.table .implied)
      | some (.tables items) =>
        if path.length = 1 then none else (alterLast (assign v path) items).map .tables
      | _ => none) es

mutual

def toValue : Draft → Value
  | value v => v
  | table _ es => .table (toEntries es)
  | tables items => .array (toTables items)

def toEntries : Entries → List (String × Value)
  | [] => []
  | (key, d) :: es => (key, d.toValue) :: toEntries es

def toTables : List Entries → List Value
  | [] => []
  | es :: items => .table (toEntries es) :: toTables items

end

/-- The table of an inline table with the given assignments. -/
def inline? (assignments : List (List String × Value)) : Option Value := do
  let es ← assignments.foldlM (fun es a => assign a.2 a.1 es) []
  some (.table (toEntries es))

end Draft

end DeepLinks.Toml
