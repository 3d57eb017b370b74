/-!
# Bindings

A finite map from names to values, where a name may also be bound without a value. Entries are
kept in the order of their names, so two bindings with the same answers are equal.
-/

namespace DeepLinks

/-- Names, each with a value or without one, ordered by name. -/
@[ext] structure Bindings where
  entries : List (String × Option String)
  sorted : entries.Pairwise (fun a b => a.1 < b.1)
deriving DecidableEq

namespace Bindings

def empty : Bindings := ⟨[], .nil⟩

instance : EmptyCollection Bindings := ⟨empty⟩
instance : Inhabited Bindings := ⟨empty⟩

def names (b : Bindings) : List String := b.entries.map (·.1)

/-- What a name is bound to: `none` if it is not bound, `some none` if it is bound without a
value. -/
def find? (b : Bindings) (name : String) : Option (Option String) :=
  b.entries.lookup name

def contains (b : Bindings) (name : String) : Bool :=
  (b.find? name).isSome

/-- The value that a name is bound to, if it is bound to one. -/
def value? (b : Bindings) (name : String) : Option String :=
  (b.find? name).join

/-- Puts an entry in its place, over one of the same name. -/
def insertEntry (name : String) (value : Option String) :
    List (String × Option String) → List (String × Option String)
  | [] => [(name, value)]
  | e :: es =>
    if name < e.1 then (name, value) :: e :: es
    else if name = e.1 then (name, value) :: es
    else e :: insertEntry name value es

theorem mem_insertEntry {name : String} {value : Option String}
    {es : List (String × Option String)} {x : String × Option String}
    (h : x ∈ insertEntry name value es) : x = (name, value) ∨ x ∈ es := by
  induction es with
  | nil => simpa [insertEntry] using h
  | cons e es ih =>
    simp only [insertEntry] at h
    split at h
    · simpa using h
    · split at h
      · rcases List.mem_cons.mp h with h | h
        · exact .inl h
        · exact .inr (List.mem_cons_of_mem _ h)
      · rcases List.mem_cons.mp h with h | h
        · exact .inr (by simp [h])
        · exact (ih h).imp_right (List.mem_cons_of_mem _)

theorem pairwise_insertEntry {name : String} {value : Option String}
    {es : List (String × Option String)} (h : es.Pairwise (fun a b => a.1 < b.1)) :
    (insertEntry name value es).Pairwise (fun a b => a.1 < b.1) := by
  induction es with
  | nil => simp [insertEntry]
  | cons e es ih =>
    obtain ⟨he, hes⟩ := List.pairwise_cons.mp h
    simp only [insertEntry]
    split
    · rename_i hlt
      refine List.pairwise_cons.mpr ⟨fun x hx => ?_, h⟩
      rcases List.mem_cons.mp hx with rfl | hx
      · exact hlt
      · exact String.lt_trans hlt (he x hx)
    · split
      · rename_i heq
        exact List.pairwise_cons.mpr ⟨fun x hx => heq ▸ he x hx, hes⟩
      · rename_i hnlt hne
        have hgt : e.1 < name := by
          rcases String.le_total name e.1 with hle | hle
          · exact absurd (String.le_antisymm hle (String.not_lt.mp hnlt)) hne
          · exact String.not_le.mp fun hle' => hne (String.le_antisymm hle' hle)
        refine List.pairwise_cons.mpr ⟨fun x hx => ?_, ih hes⟩
        rcases mem_insertEntry hx with rfl | hx
        · exact hgt
        · exact he x hx

/-- Binds a name, whatever it was bound to. -/
def insert (b : Bindings) (name : String) (value : Option String) : Bindings :=
  ⟨insertEntry name value b.entries, pairwise_insertEntry b.sorted⟩

/-- Binds a name unless it is bound already. -/
def insertIfNew (b : Bindings) (name : String) (value : Option String) : Bindings :=
  if b.contains name then b else b.insert name value

/-- Binds the names of a list in order, so that the last entry of a name counts. -/
def ofList (l : List (String × Option String)) : Bindings :=
  l.foldl (fun b e => b.insert e.1 e.2) ∅

@[simp] theorem find?_empty (name : String) : (∅ : Bindings).find? name = none := rfl

@[simp] theorem lookup_cons_eq (e : String × Option String) (es : List (String × Option String))
    (k : String) : (e :: es).lookup k = if k = e.1 then some e.2 else es.lookup k := by
  rw [List.lookup_cons]
  split <;> simp_all

theorem mem_of_lookup_eq_some {α : Type} {es : List (String × α)} {k : String} {value : α}
    (h : es.lookup k = some value) : (k, value) ∈ es := by
  obtain ⟨before, after, rfl, -⟩ := List.lookup_eq_some_iff.mp h
  exact List.mem_append_right _ List.mem_cons_self

@[simp] theorem lookup_insertEntry (name : String) (value : Option String)
    (es : List (String × Option String)) (k : String) :
    (insertEntry name value es).lookup k = if k = name then some value else es.lookup k := by
  induction es with
  | nil => simp [insertEntry]
  | cons e es ih =>
    simp only [insertEntry]
    split
    · simp
    · split
      · rename_i heq
        by_cases h : k = name <;> simp [h, ← heq]
      · rename_i hne
        by_cases h : k = e.1
        · have hk : k ≠ name := fun hk => hne (hk ▸ h)
          simp [h, h ▸ hk]
        · simp [h, ih]

@[simp] theorem find?_insert (b : Bindings) (name : String) (value : Option String) (k : String) :
    (b.insert name value).find? k = if k = name then some value else b.find? k :=
  lookup_insertEntry name value b.entries k

@[simp] theorem find?_insertIfNew (b : Bindings) (name : String) (value : Option String)
    (k : String) :
    (b.insertIfNew name value).find? k =
      if k = name then some ((b.find? name).getD value) else b.find? k := by
  unfold insertIfNew contains
  cases h : b.find? name with
  | none => simp
  | some v =>
    by_cases hk : k = name
    · simp [hk, h]
    · simp [hk]

@[simp] theorem contains_insert (b : Bindings) (name : String) (value : Option String)
    (k : String) :
    (b.insert name value).contains k = (k == name || b.contains k) := by
  by_cases h : k = name <;> simp [contains, h]

/-- The names are those that are bound. -/
@[simp] theorem mem_names_iff {b : Bindings} {name : String} :
    name ∈ b.names ↔ b.contains name = true := by
  unfold names contains find?
  induction b.entries with
  | nil => simp
  | cons e es ih =>
    by_cases h : name = e.1 <;> simp [h, ih]

theorem lookup_eq_none_of_lt {k : String} {es : List (String × Option String)}
    (h : ∀ e ∈ es, k < e.1) : es.lookup k = none := by
  induction es with
  | nil => rfl
  | cons e es ih =>
    obtain ⟨he, hes⟩ := List.forall_mem_cons.mp h
    have hne : k ≠ e.1 := fun hk => String.lt_irrefl _ (hk ▸ he)
    simp [hne, ih hes]

theorem entries_eq_of_lookup_eq {es fs : List (String × Option String)}
    (hes : es.Pairwise (fun a b => a.1 < b.1)) (hfs : fs.Pairwise (fun a b => a.1 < b.1))
    (h : ∀ k, es.lookup k = fs.lookup k) : es = fs := by
  induction es generalizing fs with
  | nil =>
    cases fs with
    | nil => rfl
    | cons f fs => simpa using h f.1
  | cons e es ih =>
    cases fs with
    | nil => simpa using h e.1
    | cons f fs =>
      obtain ⟨he, hes⟩ := List.pairwise_cons.mp hes
      obtain ⟨hf, hfs⟩ := List.pairwise_cons.mp hfs
      -- the least names agree: a smaller one would be bound on one side only
      have hle {a b : String × Option String} {as bs : List (String × Option String)}
          (hb : ∀ x ∈ bs, b.1 < x.1)
          (hab : (a :: as).lookup a.1 = (b :: bs).lookup a.1) : ¬ a.1 < b.1 := by
        intro hlt
        have hne : a.1 ≠ b.1 := fun hk => String.lt_irrefl _ (hk ▸ hlt)
        have hnone := lookup_eq_none_of_lt fun x hx => String.lt_trans hlt (hb x hx)
        simp [hne, hnone] at hab
      have hname : e.1 = f.1 :=
        String.le_antisymm (String.not_lt.mp (hle he (h f.1).symm))
          (String.not_lt.mp (hle hf (h e.1)))
      have hvalue : e.2 = f.2 := by simpa [hname] using h e.1
      have htail : es = fs := ih hes hfs fun k => by
        by_cases hk : k = e.1
        · rw [hk, lookup_eq_none_of_lt he, hname, lookup_eq_none_of_lt hf]
        · simpa [hk, hname ▸ hk] using h k
      rw [htail, Prod.ext hname hvalue]

/-- Bindings that answer alike are equal. -/
theorem ext_find? {a b : Bindings} (h : ∀ k, a.find? k = b.find? k) : a = b :=
  Bindings.ext (entries_eq_of_lookup_eq a.sorted b.sorted h)

/-- Binding one name after another, the last entry of a name counts. -/
@[simp] theorem find?_foldl_insert (l : List (String × Option String)) (b : Bindings) (k : String) :
    (l.foldl (fun b e => b.insert e.1 e.2) b).find? k =
      (l.reverse.lookup k).or (b.find? k) := by
  induction l generalizing b with
  | nil => simp
  | cons e l ih =>
    by_cases h : k = e.1
    · subst h
      cases hl : l.reverse.lookup e.1 <;> simp [ih, List.lookup_append, hl]
    · simp [ih, List.lookup_append, h]

@[simp] theorem find?_ofList (l : List (String × Option String)) (k : String) :
    (ofList l).find? k = l.reverse.lookup k := by
  simp [ofList]

/-- Names that are bound once may be read in either direction. -/
theorem lookup_reverse {es : List (String × Option String)}
    (h : es.Pairwise (fun a b => a.1 < b.1)) (k : String) :
    es.reverse.lookup k = es.lookup k := by
  induction es with
  | nil => rfl
  | cons e es ih =>
    obtain ⟨he, hes⟩ := List.pairwise_cons.mp h
    by_cases hk : k = e.1
    · subst hk
      simp [List.lookup_append, ih hes, lookup_eq_none_of_lt he]
    · simp [List.lookup_append, ih hes, hk]

@[simp] theorem ofList_entries (b : Bindings) : ofList b.entries = b :=
  ext_find? fun k => by rw [find?_ofList, lookup_reverse b.sorted, find?]

/-- The entries are what is bound. -/
theorem find?_eq_some_iff {b : Bindings} {name : String} {value : Option String} :
    b.find? name = some value ↔ (name, value) ∈ b.entries := by
  obtain ⟨entries, hsorted⟩ := b
  show entries.lookup name = some value ↔ (name, value) ∈ entries
  induction entries with
  | nil => simp
  | cons e es ih =>
    obtain ⟨he, hes⟩ := List.pairwise_cons.mp hsorted
    by_cases hname : name = e.1
    · subst hname
      have hnot : (e.1, value) ∉ es := fun hmem => String.lt_irrefl _ (he (e.1, value) hmem)
      simp [hnot, Prod.ext_iff, eq_comm]
    · simp [hname, Prod.ext_iff, ih hes]

end Bindings

end DeepLinks
