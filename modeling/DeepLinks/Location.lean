import DeepLinks.Bindings
import DeepLinks.Url.Basic

/-!
# Locations

What routing looks at in a URL: its scheme, its host, the decoded segments of its path and the
decoded values of its query. Empty segments do not count, keys are taken as they are written, and
of several values of a key the first one counts.
-/

namespace DeepLinks

structure Location where
  scheme : String
  host : String
  path : List String
  /-- A key that no `=` follows is bound without a value. -/
  query : Bindings
deriving DecidableEq

/-- Why a text has no location. -/
inductive LocationError where
  | notUrl (cause : Url.ParseError)
  | missingHost
  | undecodable (cause : Percent.DecodeError)
deriving DecidableEq, Repr

def LocationError.message : LocationError → String
  | notUrl cause => "invalid URL: " ++ cause.message
  | missingHost => "URL has no host"
  | undecodable cause => cause.message

namespace Location

/-- The decoded segments of a path. -/
def pathSegments (path : String) : Except Percent.DecodeError (List String) :=
  ((Text.pieces '/' path.toList).filter (· ≠ [])).mapM fun p =>
    Percent.decode true (String.ofList p)

/-- The key of a piece of a query, and its decoded value if it has one. -/
def queryEntry (piece : List Char) : Except Percent.DecodeError (String × Option String) :=
  match Text.cut? '=' piece with
  | some (key, value) => do
    let value ← Percent.decode true (String.ofList value)
    pure (String.ofList key, some value)
  | none => .ok (String.ofList piece, none)

/-- Every value is decoded, also of a key that is bound already. -/
def queryBindings (query : String) : Except Percent.DecodeError Bindings := do
  let entries ← ((Text.pieces '&' query.toList).filter (· ≠ [])).mapM queryEntry
  pure (entries.foldl (fun b e => b.insertIfNew e.1 e.2) ∅)

def ofUrl (url : Url) : Except LocationError Location :=
  match url.host with
  | none => .error .missingHost
  | some host =>
    if url.isOpaque ∨ host = "" then .error .missingHost
    else
      Except.mapError .undecodable do
        let path ← pathSegments url.path
        let query ← queryBindings (url.query.getD "")
        pure ⟨url.scheme, host, path, query⟩

/-- The location that a text names. -/
def parse (raw : String) : Except LocationError Location :=
  match Url.parse raw with
  | .error cause => .error (.notUrl cause)
  | .ok url => ofUrl url

end Location

end DeepLinks
