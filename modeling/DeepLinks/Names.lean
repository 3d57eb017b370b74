import DeepLinks.Text.AsciiCase
import DeepLinks.Text.Lowercase

/-!
# Lists of accepted names

Hosts and schemes are accepted by name. The names are kept in lower case, each once, in the order
in which they were given; a name is accepted if it agrees with one of them up to the case of ASCII
letters.
-/

namespace DeepLinks

/-- The list without later repetitions. -/
def distinct : List String → List String
  | [] => []
  | n :: ns => n :: (distinct ns).filter (· ≠ n)

@[simp] theorem mem_distinct {x : String} {ns : List String} : x ∈ distinct ns ↔ x ∈ ns := by
  induction ns with
  | nil => rfl
  | cons n ns ih =>
    by_cases h : x = n <;> simp [distinct, h, ih]

theorem nodup_distinct (ns : List String) : (distinct ns).Nodup := by
  induction ns with
  | nil => exact .nil
  | cons n ns ih =>
    exact List.nodup_cons.mpr ⟨by simp, ih.sublist (List.filter_sublist)⟩

@[simp] theorem distinct_eq_nil {ns : List String} : distinct ns = [] ↔ ns = [] := by
  cases ns <;> simp [distinct]

/-- Names without repetition, the first one preferred. -/
structure Names where
  list : List String
  nodup : list.Nodup
deriving DecidableEq

namespace Names

def ofList (names : List String) : Names :=
  ⟨distinct (names.map Text.lowercase), nodup_distinct _⟩

instance : Inhabited Names := ⟨ofList []⟩

def isEmpty (n : Names) : Bool := n.list.isEmpty

/-- The preferred name; empty if there is none. -/
def first (n : Names) : String := n.list.headD ""

def accepts (n : Names) (name : String) : Bool :=
  n.list.any (Text.equalsIgnoringAsciiCase · name)

@[simp] theorem list_ofList (names : List String) :
    (ofList names).list = distinct (names.map Text.lowercase) := rfl

theorem accepts_iff {n : Names} {name : String} :
    n.accepts name = true ↔
      ∃ m ∈ n.list, m.toList.map Text.asciiLower = name.toList.map Text.asciiLower := by
  simp [accepts, Text.equalsIgnoringAsciiCase_iff]

@[simp] theorem isEmpty_ofList (names : List String) : (ofList names).isEmpty = names.isEmpty := by
  cases names <;> simp [isEmpty, ofList, distinct]

end Names

end DeepLinks
