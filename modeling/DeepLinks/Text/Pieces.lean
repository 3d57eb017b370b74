/-!
# Taking texts apart at a separator

`pieces` cuts at every separator and keeps empty pieces; `cut?` cuts at the first one. Joining the
pieces with the separator gives the text back.
-/

namespace DeepLinks.Text

/-- The texts between the separators, empty ones included: one more than there are separators. -/
def pieces (sep : Char) : List Char → List (List Char)
  | [] => [[]]
  | c :: cs =>
    if c = sep then [] :: pieces sep cs
    else
      match pieces sep cs with
      | [] => [[c]]
      | p :: ps => (c :: p) :: ps

/-- The texts before and after the first separator, if there is one. -/
def cut? (sep : Char) : List Char → Option (List Char × List Char)
  | [] => none
  | c :: cs =>
    if c = sep then some ([], cs) else (cut? sep cs).map fun p => (c :: p.1, p.2)

@[simp] theorem pieces_nil (sep : Char) : pieces sep [] = [[]] := rfl

@[simp] theorem pieces_cons_self (sep : Char) (s : List Char) :
    pieces sep (sep :: s) = [] :: pieces sep s := by
  simp [pieces]

@[simp] theorem length_pieces (sep : Char) (s : List Char) :
    (pieces sep s).length = s.count sep + 1 := by
  induction s with
  | nil => rfl
  | cons c cs ih =>
    by_cases h : c = sep
    · simp [pieces, h, ih]
    · cases hp : pieces sep cs with
      | nil => simp [hp] at ih
      | cons p ps => simpa [pieces, h, hp] using ih

theorem pieces_ne_nil (sep : Char) (s : List Char) : pieces sep s ≠ [] := by
  cases s with
  | nil => simp [pieces]
  | cons c cs =>
    simp only [pieces]
    split
    · simp
    · split <;> simp

/-- Nothing is lost: joined again with the separator, the pieces are the text. -/
@[simp] theorem intercalate_pieces (sep : Char) (s : List Char) :
    [sep].intercalate (pieces sep s) = s := by
  induction s with
  | nil => rfl
  | cons c cs ih =>
    have hne := pieces_ne_nil sep cs
    obtain ⟨p, ps, hp⟩ := List.exists_cons_of_ne_nil hne
    rw [hp] at ih
    by_cases h : c = sep
    · simp only [pieces, h, ↓reduceIte, hp]
      rw [List.intercalate_cons_cons]
      simp [ih]
    · simp only [pieces, h, ↓reduceIte, hp]
      cases ps with
      | nil => simpa [List.intercalate] using ih
      | cons q qs =>
        rw [List.intercalate_cons_cons] at ih ⊢
        simp [← ih]

theorem not_mem_of_mem_pieces {sep : Char} {s p : List Char} (h : p ∈ pieces sep s) :
    sep ∉ p := by
  induction s generalizing p with
  | nil => simp_all [pieces]
  | cons c cs ih =>
    simp only [pieces] at h
    split at h
    · rcases List.mem_cons.mp h with rfl | h
      · simp
      · exact ih h
    · rename_i hc
      split at h
      · rw [List.mem_singleton.mp h]; simpa using Ne.symm hc
      · rename_i q qs hq
        rcases List.mem_cons.mp h with rfl | h
        · have := ih (p := q) (by simp [hq])
          simp [this, Ne.symm hc]
        · exact ih (by simp [hq, h])

/-- The pieces hold nothing but characters of the text. -/
theorem mem_of_mem_pieces {sep c : Char} {s p : List Char} (hp : p ∈ pieces sep s) (hc : c ∈ p) :
    c ∈ s := by
  induction s generalizing p with
  | nil => simp_all [pieces]
  | cons d s ih =>
    simp only [pieces] at hp
    split at hp
    · rcases List.mem_cons.mp hp with rfl | hp
      · contradiction
      · exact List.mem_cons_of_mem _ (ih hp hc)
    · split at hp
      · rw [List.mem_singleton.mp hp, List.mem_singleton] at hc
        exact hc ▸ List.mem_cons_self
      · rename_i q qs hq
        rcases List.mem_cons.mp hp with rfl | hp
        · rcases List.mem_cons.mp hc with rfl | hc
          · exact List.mem_cons_self
          · exact List.mem_cons_of_mem _ (ih (p := q) (by simp [hq]) hc)
        · exact List.mem_cons_of_mem _ (ih (by simp [hq, hp]) hc)

/-- The first piece ends at the first separator. -/
@[simp] theorem head?_pieces (sep : Char) (s : List Char) :
    (pieces sep s).head? = some (s.takeWhile (· ≠ sep)) := by
  induction s with
  | nil => rfl
  | cons c s ih =>
    by_cases hc : c = sep
    · simp [pieces, hc]
    · obtain ⟨p, ps, hp⟩ := List.exists_cons_of_ne_nil (pieces_ne_nil sep s)
      rw [hp, List.head?_cons, Option.some.injEq] at ih
      simp [pieces, hc, hp, ih]

@[simp] theorem pieces_of_not_mem {sep : Char} {s : List Char} (h : sep ∉ s) :
    pieces sep s = [s] := by
  induction s with
  | nil => rfl
  | cons c cs ih =>
    obtain ⟨hc, hcs⟩ := List.ne_and_not_mem_of_not_mem_cons h
    simp [pieces, Ne.symm hc, ih hcs]

/-- What stands between separators is cut on its own. -/
@[simp] theorem pieces_append_cons (sep : Char) (a b : List Char) :
    pieces sep (a ++ sep :: b) = pieces sep a ++ pieces sep b := by
  induction a with
  | nil => simp
  | cons c a ih =>
    obtain ⟨p, ps, hp⟩ := List.exists_cons_of_ne_nil (pieces_ne_nil sep a)
    by_cases hc : c = sep
    · simp [pieces, hc, ih]
    · simp [pieces, hc, ih, hp]

/-- A text without a separator is the first piece of what it begins. -/
theorem pieces_append {sep : Char} {p : List Char} (h : sep ∉ p) (s : List Char) :
    pieces sep (p ++ sep :: s) = p :: pieces sep s := by
  simp [h]

/-- Up to the first separator, a text without one is taken whole. -/
theorem takeWhile_of_not_mem {sep : Char} {s : List Char} (h : sep ∉ s) :
    s.takeWhile (· ≠ sep) = s := by
  have hhead := head?_pieces sep s
  rw [pieces_of_not_mem h, List.head?_cons, Option.some.injEq] at hhead
  exact hhead.symm

theorem takeWhile_append_of_not_mem {sep : Char} {p : List Char} (h : sep ∉ p) (s : List Char) :
    (p ++ sep :: s).takeWhile (· ≠ sep) = p := by
  have hhead := head?_pieces sep (p ++ sep :: s)
  rw [pieces_append h, List.head?_cons, Option.some.injEq] at hhead
  exact hhead.symm

/-- Texts without a separator are the pieces of what they make up. -/
theorem pieces_intercalate {sep : Char} {ps : List (List Char)} (hne : ps ≠ [])
    (h : ∀ p ∈ ps, sep ∉ p) : pieces sep ([sep].intercalate ps) = ps := by
  induction ps with
  | nil => exact absurd rfl hne
  | cons p ps ih =>
    have hp : sep ∉ p := h p (List.mem_cons_self ..)
    cases ps with
    | nil => simpa using pieces_of_not_mem hp
    | cons q qs =>
      have ih := ih (by simp) fun r hr => h r (List.mem_cons_of_mem _ hr)
      simp [List.intercalate_cons_cons, pieces_append hp, ih]

/-- What holds of the separator and throughout the parts holds throughout what they make up. -/
theorem forall_mem_intercalate {P : Char → Prop} {sep : Char} {ps : List (List Char)}
    (hsep : P sep) (h : ∀ p ∈ ps, ∀ c ∈ p, P c) : ∀ c ∈ [sep].intercalate ps, P c := by
  induction ps with
  | nil => simp
  | cons p ps ih =>
    obtain ⟨hp, hps⟩ := List.forall_mem_cons.mp h
    cases ps with
    | nil => simpa using hp
    | cons q qs =>
      rw [List.intercalate_cons_cons, List.forall_mem_append, List.forall_mem_append]
      exact ⟨⟨hp, by simpa using hsep⟩, ih hps⟩

theorem infix_intercalate {sep : Char} {ps : List (List Char)} {p : List Char} (h : p ∈ ps) :
    p <:+: [sep].intercalate ps := by
  induction ps with
  | nil => contradiction
  | cons q ps ih =>
    cases ps with
    | nil => simp_all
    | cons r rs =>
      rw [List.intercalate_cons_cons]
      rcases List.mem_cons.mp h with rfl | h
      · exact (List.prefix_append_of_prefix (List.prefix_append p [sep])).isInfix
      · exact (ih h).trans (List.suffix_append _ _).isInfix

theorem suffix_intercalate {sep : Char} {ps : List (List Char)} {p : List Char}
    (h : p ∈ ps.getLast?) : p <:+ [sep].intercalate ps := by
  induction ps with
  | nil => contradiction
  | cons q ps ih =>
    cases ps with
    | nil => simp_all
    | cons r rs =>
      rw [List.intercalate_cons_cons]
      exact (ih (by simpa using h)).trans (List.suffix_append _ _)

theorem map_intercalate {sep : Char} (f : Char → Char) (ps : List (List Char)) :
    ([sep].intercalate ps).map f = [f sep].intercalate (ps.map (·.map f)) := by
  induction ps with
  | nil => rfl
  | cons p ps ih =>
    cases ps with
    | nil => simp
    | cons q qs =>
      simp only [List.map_cons, List.intercalate_cons_cons, List.map_append] at ih ⊢
      simp [ih]

@[simp] theorem cut?_eq_none_iff {sep : Char} {s : List Char} : cut? sep s = none ↔ sep ∉ s := by
  induction s with
  | nil => simp [cut?]
  | cons c cs ih =>
    by_cases h : c = sep
    · simp [cut?, h]
    · simp [cut?, h, ih, Ne.symm h]

/-- The cut is at the first separator. -/
@[simp] theorem cut?_eq_some_iff {sep : Char} {s a b : List Char} :
    cut? sep s = some (a, b) ↔ s = a ++ sep :: b ∧ sep ∉ a := by
  induction s generalizing a with
  | nil => simp [cut?]
  | cons c cs ih =>
    by_cases h : c = sep
    · cases a with
      | nil => simp [cut?, h]
      | cons x xs =>
        simp only [cut?, h, ↓reduceIte, List.cons_append, List.cons.injEq]
        constructor
        · simp
        · rintro ⟨⟨rfl, -⟩, hx⟩
          simp at hx
    · cases a with
      | nil => simp [cut?, h]
      | cons x xs =>
        simp only [cut?, h, ↓reduceIte, Option.map_eq_some_iff, Prod.mk.injEq, Prod.exists,
          List.cons_append, List.cons.injEq, List.mem_cons, not_or]
        constructor
        · rintro ⟨a, b', hab, ⟨rfl, rfl⟩, rfl⟩
          obtain ⟨hcs, ha⟩ := ih.mp hab
          exact ⟨⟨rfl, hcs⟩, Ne.symm h, ha⟩
        · rintro ⟨⟨rfl, hcs⟩, -, ha⟩
          exact ⟨xs, b, ih.mpr ⟨hcs, ha⟩, ⟨rfl, rfl⟩, rfl⟩

end DeepLinks.Text
