import DeepLinks.Location

/-!
# Events

What building, replacing and searching tables of routes reports on the way.
-/

namespace DeepLinks

inductive Event where
  | unboundKey (route key : String)
  | routeCompiled (route template : String) (segments : Nat)
  | tableBuilt (routes : Nat) (schemes : List String)
  | tableReplaced (routes : Nat)
  | unparseableUrl (url : String) (cause : LocationError)
  | schemeNotAccepted (scheme : String)
  | literalMismatch (route literal value : String)
  | parameterMissing (route parameter : String)
  | matched (route host : String)
  | noMatch (host : String) (segments : Nat)
deriving DecidableEq, Repr

namespace Event

/-- How much an event matters, most first. -/
inductive Level where
  | warn
  | info
  | debug
  | trace
deriving DecidableEq, Repr

def Level.name : Level → String
  | warn => "warn"
  | info => "info"
  | debug => "debug"
  | trace => "trace"

def level : Event → Level
  | unboundKey .. => .warn
  | tableBuilt .. | tableReplaced .. => .info
  | routeCompiled .. | unparseableUrl .. | matched .. | noMatch .. => .debug
  | schemeNotAccepted .. | literalMismatch .. | parameterMissing .. => .trace

def message : Event → String
  | unboundKey .. => "Query template key is not a declared parameter and will not be bound"
  | routeCompiled .. => "Compiled route"
  | tableBuilt .. => "Route table built"
  | tableReplaced .. => "Route table replaced"
  | unparseableUrl .. => "Unparseable deeplink URL"
  | schemeNotAccepted .. => "Schema not accepted"
  | literalMismatch .. => "Literal mismatch"
  | parameterMissing .. => "Mandatory parameter missing"
  | matched .. => "Deeplink matched"
  | noMatch .. => "No route matched"

inductive FieldValue where
  | text (value : String)
  | count (value : Nat)
deriving DecidableEq, Repr

/-- The named values that go with an event. -/
def fields : Event → List (String × FieldValue)
  | unboundKey route key => [("route", .text route), ("key", .text key)]
  | routeCompiled route template segments =>
    [("route", .text route), ("template", .text template), ("segments", .count segments)]
  | tableBuilt routes schemes =>
    [("routes", .count routes), ("schemas", .text (Text.quoteList schemes))]
  | tableReplaced routes => [("routes", .count routes)]
  | unparseableUrl url cause => [("url", .text url), ("error", .text cause.message)]
  | schemeNotAccepted scheme => [("schema", .text scheme)]
  | literalMismatch route literal value =>
    [("route", .text route), ("literal", .text literal), ("value", .text value)]
  | parameterMissing route parameter => [("route", .text route), ("parameter", .text parameter)]
  | matched route host => [("route", .text route), ("host", .text host)]
  | noMatch host segments => [("host", .text host), ("segments", .count segments)]

end Event

end DeepLinks
