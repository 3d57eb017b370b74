import DeepLinks.Text.AsciiCase
import DeepLinks.Url.Scheme

/-!
# Paths

A path is a row of segments. Segments of one or two dots, each possibly written `%2e`, are
resolved: one dot stands for nothing, two dots take the segment before them away. At the end of a
path both leave an empty segment.
-/

namespace DeepLinks.Url.Path

abbrev Segment := List Char

/-- The segment with its written dots as dots. -/
def plainDots : Segment → Segment
  | '%' :: '2' :: 'e' :: s => '.' :: plainDots s
  | '%' :: '2' :: 'E' :: s => '.' :: plainDots s
  | c :: s => c :: plainDots s
  | [] => []

def isSelf (s : Segment) : Bool := plainDots s == ['.']

def isParent (s : Segment) : Bool := plainDots s == ['.', '.']

/-- A letter and a colon or a bar. -/
def isDriveLetter : Segment → Bool
  | [c, d] => Text.isAsciiAlpha c && (d == ':' || d == '|')
  | _ => false

theorem isDriveLetter_iff {s : Segment} :
    isDriveLetter s = true ↔
      ∃ c d, s = [c, d] ∧ Text.isAsciiAlpha c = true ∧ (d = ':' ∨ d = '|') := by
  unfold isDriveLetter
  split
  · simp [and_assoc]
  · rename_i h
    refine iff_of_false Bool.false_ne_true ?_
    rintro ⟨c, d, rfl, -⟩
    exact h c d rfl

/-- The path with a colon after the drive letter that it begins with, if it begins with one. -/
def drive? : List Segment → Option (List Segment)
  | [c, d] :: rest => if isDriveLetter [c, d] then some ([c, ':'] :: rest) else none
  | _ => none

@[simp] theorem drive?_eq_none_iff {segments : List Segment} :
    drive? segments = none ↔ ∀ s ∈ segments.head?, isDriveLetter s = false := by
  unfold drive?
  split
  · simp
  · rename_i h
    cases segments with
    | nil => simp
    | cons s rest =>
      have hs : isDriveLetter s = false := by
        unfold isDriveLetter
        split
        · exact absurd rfl (h _ _ rest)
        · rfl
      simp [hs]

/-- Takes the last segment away, unless it names a drive. -/
def parent : List Segment → List Segment
  | [] => []
  | s :: before => if isDriveLetter s then s :: before else before

/-- Resolves segments that follow the given ones, last one first. -/
def resolveAfter (before : List Segment) : List Segment → List Segment
  | [] => before.reverse
  | s :: rest =>
    let close (before : List Segment) := if rest.isEmpty then [] :: before else before
    if isParent s then resolveAfter (close (parent before)) rest
    else if isSelf s then resolveAfter (close before) rest
    else resolveAfter (s :: before) rest

def resolve (segments : List Segment) : List Segment :=
  resolveAfter [] segments

/-- Each segment after a slash. -/
def render (segments : List Segment) : List Char :=
  segments.flatMap ('/' :: ·)

end DeepLinks.Url.Path
