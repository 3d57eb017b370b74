import Mathlib.Data.List.Forall2
import Mathlib.Data.Option.Basic

/-!
# Outcomes

Steps that may fail, one after another and along a list. A row of steps succeeds if each of them
does; the rest of a computation only runs on what a step has given.
-/

namespace DeepLinks

variable {ε δ α β γ : Type}

@[simp] theorem ok_bind (a : α) (f : α → Except ε β) : (Except.ok a >>= f) = f a := rfl

@[simp] theorem error_bind (e : ε) (f : α → Except ε β) :
    (Except.error e >>= f) = .error e := rfl

@[simp] theorem throw_eq_error (e : ε) : (throw e : Except ε α) = .error e := rfl

@[simp] theorem pure_eq_ok (a : α) : (pure a : Except ε α) = .ok a := rfl

@[simp] theorem mapError_ok (f : ε → δ) (a : α) :
    (Except.ok a : Except ε α).mapError f = .ok a := rfl

@[simp] theorem mapError_error (f : ε → δ) (e : ε) :
    (Except.error e : Except ε α).mapError f = .error (f e) := rfl

@[simp] theorem toOption_ok (a : α) : (Except.ok a : Except ε α).toOption = some a := rfl

@[simp] theorem toOption_error (e : ε) : (Except.error e : Except ε α).toOption = none := rfl

@[simp] theorem toOption_eq_some_iff {x : Except ε α} {a : α} :
    x.toOption = some a ↔ x = .ok a := by
  cases x <;> simp

@[simp] theorem bind_eq_ok_iff {x : Except ε α} {f : α → Except ε β} {b : β} :
    (x >>= f) = .ok b ↔ ∃ a, x = .ok a ∧ f a = .ok b := by
  cases x <;> simp

@[simp] theorem bind_eq_error_iff {x : Except ε α} {f : α → Except ε β} {e : ε} :
    (x >>= f) = .error e ↔ x = .error e ∨ ∃ a, x = .ok a ∧ f a = .error e := by
  cases x <;> simp

@[simp] theorem ite_error_eq_ok_iff {p : Prop} [Decidable p] {e : ε} {x : Except ε α} {a : α} :
    (if p then .error e else x) = .ok a ↔ ¬ p ∧ x = .ok a := by
  by_cases h : p <;> simp [h]

/-- A row of steps gives results of its own length, each from the step at its place. -/
theorem mapM_eq_ok_iff {f : α → Except ε β} {as : List α} {bs : List β} :
    as.mapM f = .ok bs ↔ List.Forall₂ (fun a b => f a = .ok b) as bs := by
  induction as generalizing bs with
  | nil => cases bs <;> simp
  | cons a as ih =>
    rw [List.mapM_cons, bind_eq_ok_iff]
    cases bs with
    | nil => simp [bind_eq_ok_iff]
    | cons b bs =>
      rw [List.forall₂_cons, ← ih]
      simp [bind_eq_ok_iff]

/-- A row of steps is determined by what the steps make of its own elements. -/
theorem mapM_congr {f g : α → Except ε β} {as : List α} (h : ∀ a ∈ as, f a = g a) :
    as.mapM f = as.mapM g := by
  induction as with
  | nil => rfl
  | cons a as ih =>
    obtain ⟨ha, has⟩ := List.forall_mem_cons.mp h
    simp only [List.mapM_cons, ha, ih has]

/-- What follows for the left side of related lists, place by place. -/
theorem forall_mem_of_forall₂ {R : α → β → Prop} {P : α → Prop} {as : List α} {bs : List β}
    (h : List.Forall₂ R as bs) (hP : ∀ a b, R a b → P a) : ∀ a ∈ as, P a :=
  ((List.forall₂_and_left as bs).mp (h.imp fun a b hab => ⟨hP a b hab, hab⟩)).1

/-- Each element on the right side of related lists has one on the left side. -/
theorem exists_of_forall₂_right {R : α → β → Prop} {as : List α} {bs : List β}
    (h : List.Forall₂ R as bs) : ∀ b ∈ bs, ∃ a ∈ as, R a b := by
  induction h with
  | nil => simp
  | cons hab _ ih =>
    rw [List.forall_mem_cons]
    exact ⟨⟨_, List.mem_cons_self, hab⟩,
      fun b hb => (ih b hb).imp fun a ha => ⟨List.mem_cons_of_mem _ ha.1, ha.2⟩⟩

theorem forall₂_head? {R : α → β → Prop} {as : List α} {bs : List β} (h : List.Forall₂ R as bs) :
    ∀ b ∈ bs.head?, ∃ a ∈ as.head?, R a b := by
  cases h with
  | nil => simp
  | cons hab _ => simpa using hab

theorem forall₂_getLast? {R : α → β → Prop} {as : List α} {bs : List β}
    (h : List.Forall₂ R as bs) : ∀ b ∈ bs.getLast?, ∃ a ∈ as.getLast?, R a b := by
  have hreverse := forall₂_head? (List.rel_reverse h)
  simpa only [List.head?_reverse] using hreverse

/-- Three lists that are related place by place, two of them at a time. -/
theorem exists_of_forall₂_triangle {R : α → β → Prop} {S : α → γ → Prop} {T : β → γ → Prop}
    {as : List α} {bs : List β} {cs : List γ} (hR : List.Forall₂ R as bs)
    (hS : List.Forall₂ S as cs) (hT : List.Forall₂ T bs cs) :
    ∀ a ∈ as, ∃ b ∈ bs, ∃ c, R a b ∧ S a c ∧ T b c := by
  induction hR generalizing cs with
  | nil => simp
  | cons hab _ ih =>
    cases hS with
    | cons hac hS =>
      cases hT with
      | cons hbc hT =>
        rw [List.forall_mem_cons]
        refine ⟨⟨_, List.mem_cons_self, _, hab, hac, hbc⟩, fun a ha => ?_⟩
        obtain ⟨b, hb, c, hrelated⟩ := ih hS hT a ha
        exact ⟨b, List.mem_cons_of_mem _ hb, c, hrelated⟩

/-- Lists are related place by place if each element has one that it is related to. -/
theorem exists_forall₂_iff {R : α → β → Prop} {as : List α} :
    (∃ bs, List.Forall₂ R as bs) ↔ ∀ a ∈ as, ∃ b, R a b := by
  constructor
  · rintro ⟨bs, h⟩
    exact forall_mem_of_forall₂ h fun a b hab => ⟨b, hab⟩
  · intro h
    induction as with
    | nil => exact ⟨[], .nil⟩
    | cons a as ih =>
      obtain ⟨⟨b, hab⟩, has⟩ := List.forall_mem_cons.mp h
      obtain ⟨bs, hbs⟩ := ih has
      exact ⟨b :: bs, .cons hab hbs⟩

/-- The first place of a row at which something holds is its head, or comes after it. -/
theorem exists_split_cons_iff {P S : α → Prop} {a : α} {as : List α} :
    (∃ before x after, a :: as = before ++ x :: after ∧ (∀ y ∈ before, P y) ∧ S x) ↔
      S a ∨ P a ∧ ∃ before x after, as = before ++ x :: after ∧ (∀ y ∈ before, P y) ∧ S x := by
  constructor
  · rintro ⟨before, x, after, hsplit, hbefore, hx⟩
    cases before with
    | nil =>
      obtain ⟨rfl, -⟩ := List.cons.inj hsplit
      exact .inl hx
    | cons y ys =>
      obtain ⟨rfl, hrest⟩ := List.cons.inj hsplit
      obtain ⟨ha, hys⟩ := List.forall_mem_cons.mp hbefore
      exact .inr ⟨ha, ys, x, after, hrest, hys, hx⟩
  · rintro (ha | ⟨ha, before, x, after, rfl, hbefore, hx⟩)
    · exact ⟨[], a, as, rfl, by simp, ha⟩
    · exact ⟨a :: before, x, after, rfl, List.forall_mem_cons.mpr ⟨ha, hbefore⟩, hx⟩

/-- The first place of a selection is selected from the first place of the row. -/
theorem exists_split_filterMap_iff {f : α → Option β} {P S : β → Prop} {as : List α} :
    (∃ before b after, as.filterMap f = before ++ b :: after ∧ (∀ c ∈ before, P c) ∧ S b) ↔
      ∃ before a after, as = before ++ a :: after ∧ (∀ x ∈ before, ∀ c, f x = some c → P c) ∧
        ∃ b, f a = some b ∧ S b := by
  induction as with
  | nil => simp
  | cons a as ih =>
    rw [exists_split_cons_iff (P := fun x => ∀ c, f x = some c → P c)
      (S := fun x => ∃ b, f x = some b ∧ S b), ← ih]
    cases ha : f a with
    | none =>
      rw [List.filterMap_cons_none ha]
      simp
    | some b =>
      rw [List.filterMap_cons_some ha, exists_split_cons_iff]
      simp

/-- A row of steps fails with the first step that does. -/
theorem mapM_eq_error_iff {f : α → Except ε β} {as : List α} {e : ε} :
    as.mapM f = .error e ↔
      ∃ before a after, as = before ++ a :: after ∧ (∀ x ∈ before, ∃ b, f x = .ok b) ∧
        f a = .error e := by
  induction as with
  | nil => simp
  | cons a as ih =>
    rw [exists_split_cons_iff (P := fun x => ∃ b, f x = .ok b) (S := fun x => f x = .error e), ← ih,
      List.mapM_cons]
    cases f a with
    | error _ => simp
    | ok _ => cases as.mapM f <;> simp

end DeepLinks
