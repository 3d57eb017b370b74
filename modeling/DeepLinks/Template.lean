import DeepLinks.Text.Pieces
import DeepLinks.Text.Quoted

/-!
# Path templates

A template is a path whose segments are literals or placeholders in braces. The text after a
question mark names query keys and has no other meaning.
-/

namespace DeepLinks

/-- One place of a path. -/
inductive Segment where
  /-- Stands for itself. -/
  | literal (text : String)
  /-- Stands for any text and gives it the name. -/
  | placeholder (name : String)
deriving DecidableEq, Repr, Inhabited

/-- The segment as a template writes it. -/
def Segment.display : Segment → String
  | literal text => text
  | placeholder name => "\x7b" ++ name ++ "\x7d"

/-- The name that a segment gives. -/
def Segment.name? : Segment → Option String
  | literal _ => none
  | placeholder name => some name

@[simp] theorem Segment.name?_literal (text : String) : (Segment.literal text).name? = none := rfl

@[simp] theorem Segment.name?_placeholder (name : String) :
    (Segment.placeholder name).name? = some name := rfl

/-- Why a template has no segments. Both causes name the whole template. -/
inductive TemplateError where
  | emptyPlaceholder (template : String)
  | duplicatePlaceholder (template name : String)
deriving DecidableEq, Repr

def TemplateError.message : TemplateError → String
  | emptyPlaceholder template => "empty placeholder name in template " ++ Text.quote template
  | duplicatePlaceholder template name =>
    "placeholder " ++ (Segment.placeholder name).display ++ " appears more than once in template "
      ++ Text.quote template

namespace Template

/-- The text between braces that surround it. -/
def inBraces? : List Char → Option (List Char)
  | '\x7b' :: s => if s.getLast? = some '\x7d' then some s.dropLast else none
  | _ => none

/-- What a piece of a path stands for; the name of a placeholder may be empty here. -/
def segment (piece : List Char) : Segment :=
  match inBraces? piece with
  | some name => .placeholder (String.ofList name)
  | none => .literal (String.ofList piece)

/-- The text before the first question mark. -/
def pathPart (template : String) : List Char :=
  template.toList.takeWhile (· ≠ '?')

/-- The pieces of the path that stand for something. -/
def pathPieces (template : String) : List (List Char) :=
  (Text.pieces '/' (pathPart template)).filter (· ≠ [])

/-- The segments of pieces that follow placeholders with the given names. -/
def compileAfter (template : String) (names : List String) :
    List (List Char) → Except TemplateError (List Segment)
  | [] => .ok []
  | p :: ps =>
    match segment p with
    | .literal text => do
      let rest ← compileAfter template names ps
      pure (.literal text :: rest)
    | .placeholder name =>
      if name = "" then .error (.emptyPlaceholder template)
      else if name ∈ names then .error (.duplicatePlaceholder template name)
      else do
        let rest ← compileAfter template (name :: names) ps
        pure (.placeholder name :: rest)

/-- The segments of a template. -/
def compile (template : String) : Except TemplateError (List Segment) :=
  compileAfter template [] (pathPieces template)

/-- The keys in the query part of a template, empty ones left out. -/
def queryKeys (template : String) : List String :=
  match Text.cut? '?' template.toList with
  | none => []
  | some (_, query) =>
    ((Text.pieces '&' query).map (·.takeWhile (· ≠ '='))).filterMap fun key =>
      if key = [] then none else some (String.ofList key)

end Template

end DeepLinks
