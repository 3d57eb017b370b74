import DeepLinks.Deeplink
import DeepLinks.Json.Parser
import DeepLinks.Json.Printer

/-!
# Deep links in JSON

A deep link is an object with the fields `route` and `parameters`, or an array of the two. Other
fields of the object do not matter. Parameters without a value are null.
-/

namespace DeepLinks

namespace Bindings

def toJson (b : Bindings) : Json :=
  .ofEntries (b.entries.map fun e => (e.1, .ofText? e.2))

/-- A text, or nothing for null. -/
def valueOfJson? : Json → Option (Option String)
  | .null => some none
  | .string letters => (Json.textOf? letters).map some
  | _ => none

/-- Of several entries with a key, the last one counts. -/
def ofJson? : Json → Option Bindings
  | .object entries =>
    ofList <$> entries.mapM fun e => do
      let key ← Json.textOf? e.1
      let value ← valueOfJson? e.2
      some (key, value)
  | _ => none

end Bindings

namespace Deeplink

def toJson (d : Deeplink) : Json :=
  .ofEntries [("parameters", d.parameters.toJson), ("route", .ofText d.route)]

def textOfJson? : Json → Option String
  | .string letters => Json.textOf? letters
  | _ => none

/-- The only value of a key. -/
def onlyField? (entries : List (String × Json)) (key : String) : Option Json :=
  match entries.filter (·.1 == key) with
  | [e] => some e.2
  | _ => none

def ofJson? : Json → Option Deeplink
  | .array [route, parameters] => do
    some ⟨← textOfJson? route, ← Bindings.ofJson? parameters⟩
  | .object entries => do
    let entries ← entries.mapM fun e => (Json.textOf? e.1).map fun key => (key, e.2)
    let route ← onlyField? entries "route"
    let parameters ← onlyField? entries "parameters"
    some ⟨← textOfJson? route, ← Bindings.ofJson? parameters⟩
  | _ => none

/-- The deep link that a JSON text writes. -/
def parse? (text : String) : Option Deeplink :=
  (Json.parse? text).bind ofJson?

end Deeplink

end DeepLinks
