import DeepLinks.Settings.Basic
import DeepLinks.Toml.Parser

/-!
# Settings in TOML

A record is a table with its fields as keys, or an array of its fields in order. Keys that are no
field and items beyond the last field do not matter, and fields with a default may be left out.
-/

namespace DeepLinks

namespace Toml.Value

def text? : Value → Option String
  | text s => some s
  | _ => none

def bool? : Value → Option Bool
  | bool b => some b
  | _ => none

/-- The items of an array that all can be read. -/
def list? {α : Type} (read : Value → Option α) : Value → Option (List α)
  | array items => items.mapM read
  | _ => none

/-- The fields of a record with the given names. A date is a record without any of them. -/
def fields? (names : List String) : Value → Option (List (String × Value))
  | table entries => some entries
  | array items => some (names.zip items)
  | date _ => some []
  | _ => none

/-- A field that must be there. -/
def required {α : Type} (fields : List (String × Value)) (name : String)
    (read : Value → Option α) : Option α :=
  (fields.lookup name).bind read

/-- A field that stands for a default if it is not there. -/
def optional {α : Type} (fields : List (String × Value)) (name : String) (default : α)
    (read : Value → Option α) : Option α :=
  match fields.lookup name with
  | none => some default
  | some v => read v

end Toml.Value

open Toml (Value)
open Toml.Value (required optional)

namespace Settings

def parameter? (v : Value) : Option Parameter := do
  let fs ← v.fields? ["name", "optional"]
  let name ← required fs "name" Value.text?
  let isOptional ← optional fs "optional" false Value.bool?
  some ⟨name, !isOptional⟩

def declaration? (v : Value) : Option Declaration := do
  let fs ← v.fields? ["name", "path", "hosts", "parameters"]
  let name ← required fs "name" Value.text?
  let template ← required fs "path" Value.text?
  let hosts ← optional fs "hosts" [] (Value.list? Value.text?)
  let parameters ← optional fs "parameters" [] (Value.list? parameter?)
  some ⟨name, template, hosts, parameters⟩

/-- A log format is named by a text, or by the only key of a table with nothing in it. -/
def logFormat? : Value → Option LogFormat
  | .text name => LogFormat.ofName? name
  | .table [(name, .table [])] => LogFormat.ofName? name
  | .table [(name, .array [])] => LogFormat.ofName? name
  | _ => none

def logSettings? (v : Value) : Option LogSettings := do
  let fs ← v.fields? ["log_level", "log_format"]
  let level ← optional fs "log_level" LogSettings.default.level Value.text?
  let format ← optional fs "log_format" LogSettings.default.format logFormat?
  some ⟨level, format⟩

def ofValue? (v : Value) : Option Settings := do
  let fs ← v.fields? ["schemas", "default_hosts", "routes", "observability"]
  let schemes ← optional fs "schemas" [] (Value.list? Value.text?)
  let defaultHosts ← optional fs "default_hosts" [] (Value.list? Value.text?)
  let routes ← optional fs "routes" [] (Value.list? declaration?)
  let logging ← optional fs "observability" .default logSettings?
  some ⟨⟨schemes, defaultHosts, routes⟩, logging⟩

/-- The settings that a document writes. -/
def ofDocument? (document : String) : Option Settings :=
  (Toml.parse? document).bind ofValue?

end Settings

end DeepLinks
