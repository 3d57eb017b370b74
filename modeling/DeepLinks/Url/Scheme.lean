import DeepLinks.Text.AsciiCase

/-!
# Schemes

The scheme is what stands before the first colon. It decides how the rest is read: special
schemes have a domain as host and take a backslash for a slash, and `file` has rules of its own.
-/

namespace DeepLinks.Url

/-- How the text after a scheme is read. -/
inductive Kind where
  /-- A scheme with a domain name as host. -/
  | special
  | file
  /-- A scheme with a host that is not interpreted. -/
  | other
deriving DecidableEq, Repr

namespace Kind

def ofScheme (scheme : List Char) : Kind :=
  if scheme = "file".toList then .file
  else if ["http", "https", "ws", "wss", "ftp"].contains (String.ofList scheme) then .special
  else .other

/-- Special schemes and `file` share the rules for characters. -/
def isSpecial : Kind → Bool
  | special | file => true
  | other => false

/-- Whether the character parts path segments. -/
def isSlash (k : Kind) (c : Char) : Bool :=
  c == '/' || (k.isSpecial && c == '\\')

@[simp] theorem isSlash_slash (k : Kind) : k.isSlash '/' = true := rfl

end Kind

/-- The scheme of a text, in lower case, and the text after its colon. -/
def scheme? : List Char → Option (List Char × List Char)
  | [] => none
  | c :: cs =>
    let isSchemeChar (c : Char) : Bool :=
      Text.isAsciiAlpha c || Text.isAsciiDigit c || c == '+' || c == '-' || c == '.'
    if Text.isAsciiAlpha c then
      match cs.dropWhile isSchemeChar with
      | ':' :: rest => some ((c :: cs.takeWhile isSchemeChar).map Text.asciiLower, rest)
      | _ => none
    else none

end DeepLinks.Url
