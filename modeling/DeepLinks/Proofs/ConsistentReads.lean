import DeepLinks.Proofs.Outcomes
import DeepLinks.Publication.Interleaving
import Mathlib.Logic.Function.Iterate

/-!
# Reads while tables are replaced

Between two loads a reader only ever moves by its own actions, so what it answers is decided by the
table of its load. What is published, taken or held by a writer was published first or has been
built by some write of the run.
-/

namespace DeepLinks

namespace Reader

/-- How many actions a reader still needs at most. -/
def remaining : Reader → ℕ
  | searching _ rs => rs.length + 1
  | _ => 0

theorem remaining_advance (r : Reader) : r.advance.remaining ≤ r.remaining - 1 := by
  match r with
  | idle | done _ | searching _ [] => simp [advance, remaining]
  | searching u (r :: rs) => cases h : r.bind u <;> simp [advance, remaining, h]

theorem advance_ne_idle {r : Reader} (h : r ≠ idle) : r.advance ≠ idle := by
  match r with
  | idle => exact absurd rfl h
  | done _ | searching _ [] => simp [advance]
  | searching u (r :: rs) => cases h : r.bind u <;> simp [advance, h]

theorem remaining_start_le (t : Table) (url : String) :
    (start t url).remaining ≤ t.routes.length + 1 := by
  unfold start
  cases Location.parse url with
  | error _ => simp [remaining]
  | ok u => dsimp only; split <;> simp [remaining]

theorem start_ne_idle (t : Table) (url : String) : start t url ≠ idle := by
  unfold start
  cases Location.parse url with
  | error _ => simp
  | ok u => dsimp only; split <;> simp

/-- A reader that needs no more actions has answered. -/
theorem eq_done_of_remaining_eq_zero {r : Reader} (hne : r ≠ idle) (h : r.remaining = 0) :
    r = done r.answer := by
  cases r with
  | idle => exact absurd rfl hne
  | searching _ _ => simp [remaining] at h
  | done _ => rfl

@[simp] theorem answer_iterate (r : Reader) (n : ℕ) : (advance^[n] r).answer = r.answer := by
  induction n with
  | zero => rfl
  | succ n ih => rw [Function.iterate_succ_apply', answer_advance, ih]

theorem remaining_iterate (r : Reader) (n : ℕ) :
    (advance^[n] r).remaining ≤ r.remaining - n := by
  induction n with
  | zero => simp
  | succ n ih =>
    rw [Function.iterate_succ_apply']
    have h := remaining_advance (advance^[n] r)
    omega

theorem iterate_ne_idle {r : Reader} (h : r ≠ idle) (n : ℕ) : advance^[n] r ≠ idle := by
  induction n with
  | zero => exact h
  | succ n ih =>
    rw [Function.iterate_succ_apply']
    exact advance_ne_idle ih

/-- With one action more than there are routes, a reader gets to its answer. -/
theorem iterate_start_eq_done {t : Table} {url : String} {n : ℕ} (hn : t.routes.length < n) :
    advance^[n] (start t url) = done (t.resolve url) := by
  have hle := remaining_iterate (start t url) n
  have hstart := remaining_start_le t url
  have hdone := eq_done_of_remaining_eq_zero (iterate_ne_idle (start_ne_idle t url) n) (by omega)
  rw [hdone, answer_iterate, answer_start]

end Reader

/-- A write at once publishes its table as a whole, or changes nothing. -/
theorem Session.step_write (s : Session) (w : Write) :
    (s.step w.step).1 =
      match w.table? with
      | some t => { s with publication := s.publication.publish t }
      | none => s := by
  cases w with
  | replace m =>
    simp only [Write.step, step, Publication.replace, Write.table?, Write.manifest?,
      Option.bind_some]
    cases m.build <;> rfl
  | reload path file =>
    simp only [Write.step, step, Publication.reload, Write.table?, Write.manifest?]
    cases Settings.load path file with
    | error _ => rfl
    | ok settings => cases h : settings.manifest.build <;> simp [h, change]

namespace System

namespace Action

def loads (i : ℕ) : Action → Bool
  | load j _ => j == i
  | _ => false

def advances (i : ℕ) : Action → Bool
  | advance j => j == i
  | _ => false

/-- An action of the writer with that number. -/
def writes (i : ℕ) : Action → Bool
  | prepare j _ | store j => j == i
  | _ => false

/-- Takes a snapshot under that name. -/
def takes (name : String) : Action → Bool
  | session (.take n) => n == name
  | _ => false

/-- The write that an action carries out or prepares. -/
def write? : Action → Option Write
  | prepare _ w => some w
  | session (.replace manifest) => some (.replace manifest)
  | session (.reload path file) => some (.reload path file)
  | _ => none

end Action

@[simp] theorem run_cons (s : System) (a : Action) (actions : List Action) :
    s.run (a :: actions) = (s.act a).run actions := rfl

@[simp] theorem run_append (s : System) (before after : List Action) :
    s.run (before ++ after) = (s.run before).run after :=
  List.foldl_append

@[simp] theorem act_readers {s : System} {a : Action} {i : ℕ} (h : a.loads i = false) :
    (s.act a).readers i = Reader.advance^[if a.advances i then 1 else 0] (s.readers i) := by
  cases a with
  | load j url =>
    have hne : j ≠ i := by simpa [Action.loads] using h
    simp [act, setReader, Action.advances, hne.symm]
  | advance j =>
    by_cases hij : i = j
    · simp [act, setReader, Action.advances, hij]
    · simp [act, setReader, Action.advances, hij, Ne.symm hij]
  | store j =>
    simp only [act, Action.advances]
    cases s.writers j <;> rfl
  | prepare _ _ | session _ => rfl

/-- Without a load of its own, a run moves a reader as often as it acts. -/
theorem run_readers {s : System} {actions : List Action} {i : ℕ}
    (h : ∀ a ∈ actions, a.loads i = false) :
    (s.run actions).readers i =
      Reader.advance^[actions.countP (·.advances i)] (s.readers i) := by
  induction actions generalizing s with
  | nil => rfl
  | cons a actions ih =>
    have hrun := @ih (s.act a) fun b hb => h b (List.mem_cons_of_mem _ hb)
    rw [act_readers (h a (List.mem_cons_self ..)), ← Function.iterate_add_apply] at hrun
    rw [List.countP_cons]
    exact hrun

/-- The search of a reader, from its load on. -/
theorem run_load_readers {s : System} {i : ℕ} {url : String} {actions : List Action}
    (h : ∀ a ∈ actions, a.loads i = false) :
    (s.run (.load i url :: actions)).readers i =
      Reader.advance^[actions.countP (·.advances i)] (.start s.published url) := by
  rw [run_cons, run_readers h]
  simp [act, setReader]

theorem run_load_answer {s : System} {i : ℕ} {url : String} {actions : List Action}
    (h : ∀ a ∈ actions, a.loads i = false) :
    ((s.run (.load i url :: actions)).readers i).answer = s.published.resolve url := by
  rw [run_load_readers h, Reader.answer_iterate, Reader.answer_start]

@[simp] theorem act_writers {s : System} {a : Action} {i : ℕ} (h : a.writes i = false) :
    (s.act a).writers i = s.writers i := by
  cases a with
  | prepare j w =>
    have hne : j ≠ i := by simpa [Action.writes] using h
    simp [act, setWriter, hne.symm]
  | store j =>
    have hne : j ≠ i := by simpa [Action.writes] using h
    simp only [act]
    cases s.writers j <;> simp [publish, setWriter, hne.symm]
  | load _ _ | advance _ | session _ => rfl

theorem run_writers {s : System} {actions : List Action} {i : ℕ}
    (h : ∀ a ∈ actions, a.writes i = false) : (s.run actions).writers i = s.writers i := by
  induction actions generalizing s with
  | nil => rfl
  | cons a actions ih =>
    have hrun := @ih (s.act a) fun b hb => h b (List.mem_cons_of_mem _ hb)
    rw [act_writers (h a (List.mem_cons_self ..))] at hrun
    exact hrun

/-- What a writer holds, from its preparation on. -/
theorem run_prepare_writers {s : System} {i : ℕ} {w : Write} {actions : List Action}
    (h : ∀ a ∈ actions, a.writes i = false) :
    (s.run (.prepare i w :: actions)).writers i = w.table? := by
  rw [run_cons, run_writers h]
  simp [act, setWriter]

@[simp] theorem published_store (s : System) (i : ℕ) :
    (s.act (.store i)).published = (s.writers i).getD s.published := by
  simp only [act]
  cases s.writers i <;> rfl

@[simp] theorem published_write (s : System) (w : Write) :
    (s.act (.session w.step)).published = w.table?.getD s.published := by
  simp only [act, published, Session.step_write]
  cases w.table? <;> rfl

@[simp] theorem lookup_act {s : System} {a : Action} {name : String} (h : a.takes name = false) :
    (s.act a).session.snapshots.lookup name = s.session.snapshots.lookup name := by
  cases a with
  | store i =>
    simp only [act]
    cases s.writers i <;> rfl
  | session step =>
    cases step with
    | take n =>
      have hne : n ≠ name := by simpa [Action.takes] using h
      have hbeq : (name == n) = false := by simpa using hne.symm
      simp [act, Session.step, List.lookup_cons, hbeq]
    | replace m =>
      change (s.session.step (Write.replace m).step).1.snapshots.lookup name = _
      rw [Session.step_write]
      cases (Write.replace m).table? <;> rfl
    | reload path file =>
      change (s.session.step (Write.reload path file).step).1.snapshots.lookup name = _
      rw [Session.step_write]
      cases (Write.reload path file).table? <;> rfl
    | resolve _ _ | resolveRoute _ _ _ | link _ _ _ | restore _ => rfl
  | load _ _ | advance _ | prepare _ _ => rfl

theorem lookup_run {s : System} {actions : List Action} {name : String}
    (h : ∀ a ∈ actions, a.takes name = false) :
    (s.run actions).session.snapshots.lookup name = s.session.snapshots.lookup name := by
  induction actions generalizing s with
  | nil => rfl
  | cons a actions ih =>
    have hrun := @ih (s.act a) fun b hb => h b (List.mem_cons_of_mem _ hb)
    rw [lookup_act (h a (List.mem_cons_self ..))] at hrun
    exact hrun

/-- A name gives the table that was published when a snapshot was last taken under it. -/
theorem run_take_table {s : System} {name : String} {actions : List Action}
    (h : ∀ a ∈ actions, a.takes name = false) :
    (s.run (.session (.take name) :: actions)).session.table (some name) = s.published := by
  simp only [Session.table, Option.bind_some]
  rw [run_cons, lookup_run h]
  simp [act, Session.step, published]

/-- All tables that are in use have the property. -/
structure Carries (s : System) (P : Table → Prop) : Prop where
  published : P s.published
  snapshots : ∀ e ∈ s.session.snapshots, P e.2
  writers : ∀ i t, s.writers i = some t → P t

theorem Carries.publish {s : System} {P : Table → Prop} (h : s.Carries P) {t : Table} (ht : P t) :
    (s.publish t).Carries P :=
  ⟨ht, h.snapshots, h.writers⟩

theorem Carries.setWriter {s : System} {P : Table → Prop} (h : s.Carries P) {i : ℕ}
    {t? : Option Table} (ht : ∀ t, t? = some t → P t) : (s.setWriter i t?).Carries P := by
  refine ⟨h.published, h.snapshots, fun j t hj => ?_⟩
  by_cases hji : j = i
  · exact ht t (by simpa [System.setWriter, hji] using hj)
  · exact h.writers j t (by simpa [System.setWriter, hji] using hj)

theorem Carries.table {s : System} {P : Table → Prop} (h : s.Carries P) (snapshot : Option String) :
    P (s.session.table snapshot) := by
  unfold Session.table
  cases hl : snapshot.bind fun name => s.session.snapshots.lookup name with
  | none => exact h.published
  | some t =>
    obtain ⟨name, -, hname⟩ := Option.bind_eq_some_iff.mp hl
    obtain ⟨before, after, hsnapshots, -⟩ := List.lookup_eq_some_iff.mp hname
    exact h.snapshots (name, t) (by simp [hsnapshots])

theorem Carries.write {s : System} {P : Table → Prop} (h : s.Carries P) {w : Write}
    (hw : ∀ t, w.table? = some t → P t) : (s.act (.session w.step)).Carries P := by
  simp only [act]
  rw [Session.step_write]
  cases ht : w.table? with
  | none => exact h
  | some t => exact h.publish (hw t ht)

/-- An action brings in no table but the one that its write builds. -/
theorem act_carries {s : System} {P : Table → Prop} (h : s.Carries P) {a : Action}
    (ha : ∀ w t, a.write? = some w → w.table? = some t → P t) : (s.act a).Carries P := by
  cases a with
  | load _ _ | advance _ => exact ⟨h.published, h.snapshots, h.writers⟩
  | prepare i w => exact h.setWriter fun t => ha w t rfl
  | store i =>
    simp only [act]
    cases hi : s.writers i with
    | none => exact h
    | some t => exact (h.publish (h.writers i t hi)).setWriter (by simp)
  | session step =>
    cases step with
    | replace m => exact h.write (w := .replace m) fun t => ha _ t rfl
    | reload path file => exact h.write (w := .reload path file) fun t => ha _ t rfl
    | restore name => exact ⟨h.table (some name), h.snapshots, h.writers⟩
    | take name =>
      refine ⟨h.published, fun e he => ?_, h.writers⟩
      rcases List.mem_cons.mp he with rfl | he
      · exact h.published
      · exact h.snapshots e he
    | resolve _ _ | resolveRoute _ _ _ | link _ _ _ => exact h

/-- What holds of the tables of a system and of every table that a write of the run builds, holds
of all tables at the end. -/
theorem run_carries {s : System} {P : Table → Prop} (h : s.Carries P) {actions : List Action}
    (ha : ∀ w ∈ actions.filterMap Action.write?, ∀ t, w.table? = some t → P t) :
    (s.run actions).Carries P := by
  induction actions generalizing s with
  | nil => exact h
  | cons a actions ih =>
    refine ih (act_carries h fun w t hw => ha w ?_ t) fun w hw => ha w ?_
    · exact List.mem_filterMap.mpr ⟨a, List.mem_cons_self .., hw⟩
    · obtain ⟨b, hb, hbw⟩ := List.mem_filterMap.mp hw
      exact List.mem_filterMap.mpr ⟨b, List.mem_cons_of_mem _ hb, hbw⟩

/-- What is published in the end was there at the start or has been built by a write. -/
theorem run_published (t : Table) (actions : List Action) :
    ((start t).run actions).published = t ∨
      ∃ w ∈ actions.filterMap Action.write?, ∃ m, w.manifest? = some m ∧
        m.build = .ok ((start t).run actions).published := by
  have hstart : (start t).Carries fun t' => t' = t ∨
      ∃ w ∈ actions.filterMap Action.write?, ∃ m, w.manifest? = some m ∧ m.build = .ok t' :=
    ⟨.inl rfl, by simp [start, Session.start], by simp [start]⟩
  refine (run_carries hstart fun w hw t' ht => .inr ⟨w, hw, ?_⟩).published
  obtain ⟨m, hm, hbuild⟩ := Option.bind_eq_some_iff.mp ht
  exact ⟨m, hm, toOption_eq_some_iff.mp hbuild⟩

/-- Under every interleaving of any readers and writers around one session:

* a reader that has loaded a table answers what that table leads to, and does so once it has acted
  more often than the table has routes, whatever else happens in between;
* what is published is the table of the start or one that a write of the run has built as a whole;
* a write publishes its table in one action or, if it fails, leaves what is published;
* a snapshot goes on answering by the table that was published when it was taken. -/
theorem run_consistent (t₀ : Table) (actions : List Action) :
    (∀ before i url after, actions = before ++ .load i url :: after →
      (∀ a ∈ after, a.loads i = false) →
      let t := ((start t₀).run before).published
      (∀ d, ((start t₀).run actions).readers i = .done d → d = t.resolve url) ∧
      (t.routes.length < after.countP (·.advances i) →
        ((start t₀).run actions).readers i = .done (t.resolve url))) ∧
    (((start t₀).run actions).published = t₀ ∨
      ∃ w ∈ actions.filterMap Action.write?, ∃ m, w.manifest? = some m ∧
        m.build = .ok ((start t₀).run actions).published) ∧
    (∀ before i (w : Write) after, actions = before ++ .prepare i w :: after →
      (∀ a ∈ after, a.writes i = false) →
      ((start t₀).run (before ++ [.prepare i w])).published =
        ((start t₀).run before).published ∧
      ((start t₀).run (actions ++ [.store i])).published =
        w.table?.getD ((start t₀).run actions).published) ∧
    (∀ w : Write, ((start t₀).run (actions ++ [.session w.step])).published =
      w.table?.getD ((start t₀).run actions).published) ∧
    ∀ before name after, actions = before ++ .session (.take name) :: after →
      (∀ a ∈ after, a.takes name = false) →
      let t := ((start t₀).run before).published
      let reply := fun a => (((start t₀).run actions).session.step a).2
      (∀ url, reply (.resolve (some name) url) = .deeplink (t.resolve url)) ∧
      (∀ route url, reply (.resolveRoute (some name) route url) =
        .deeplink (t.resolveRoute route url)) ∧
      ∀ route values, reply (.link (some name) route values) = .link (t.link route values) := by
  refine ⟨?_, run_published t₀ actions, ?_, fun w => ?_, ?_⟩
  · rintro before i url after rfl hafter
    rw [run_append]
    refine ⟨fun d hd => ?_, fun hlt => ?_⟩
    · have hanswer : (((start t₀).run before).run (.load i url :: after) |>.readers i).answer =
          ((start t₀).run before).published.resolve url := run_load_answer hafter
      rw [hd] at hanswer
      exact hanswer
    · rw [run_load_readers hafter]
      exact Reader.iterate_start_eq_done hlt
  · rintro before i w after rfl hafter
    refine ⟨by rw [run_append]; rfl, ?_⟩
    have hstore := published_store ((start t₀).run (before ++ .prepare i w :: after)) i
    rw [run_append _ before, run_prepare_writers hafter, ← run_append] at hstore
    rw [run_append _ (before ++ .prepare i w :: after)]
    exact hstore
  · rw [run_append]
    exact published_write _ w
  · rintro before name after rfl hafter
    rw [run_append]
    simp only [Session.step, run_take_table hafter]
    exact ⟨fun _ => trivial, fun _ _ => trivial, fun _ _ => trivial⟩

end System

end DeepLinks
