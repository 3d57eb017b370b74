import DeepLinks.Percent

/-!
# Escapes in the parts of a URL

Reading a URL escapes the characters that may not stand in a part of it and leaves existing
escapes alone. Which ASCII characters those are depends on the part; controls and characters
beyond ASCII are escaped in all of them.
-/

namespace DeepLinks.Url

/-- Escapes controls, characters beyond ASCII, and those that satisfy the condition. -/
def escapeWhere (p : Char → Bool) (s : List Char) : List Char :=
  s.flatMap fun c =>
    if c.toNat < 0x20 || 0x7E < c.toNat || p c then
      (String.utf8EncodeChar c).flatMap Percent.escape
    else [c]

/-- ASCII characters that are escaped in a path segment. -/
def isEscapedInPath (c : Char) : Bool :=
  [' ', '"', '#', '<', '>', '?', '\x60', '\x7b', '\x7d'].contains c

/-- ASCII characters that are escaped in a query. -/
def isEscapedInQuery (isSpecial : Bool) (c : Char) : Bool :=
  [' ', '"', '#', '<', '>'].contains c || (isSpecial && c == '\'')

/-- The bytes that a text stands for, where a percent sign that begins no escape stands for
itself. -/
def unescape : List Char → List UInt8
  | [] => []
  | c :: cs =>
    if c = '%' then
      match cs with
      | hi :: lo :: rest =>
        match Hex.digit? hi, Hex.digit? lo with
        | some h, some l => UInt8.ofNat (16 * h + l) :: unescape rest
        | _, _ => 0x25 :: unescape (hi :: lo :: rest)
      | cs => 0x25 :: cs.flatMap String.utf8EncodeChar
    else String.utf8EncodeChar c ++ unescape cs

end DeepLinks.Url
