import DeepLinks.Publication.Session

/-!
# Readers and writers at once

Readers load the published table once and then try its routes one at a time, while writers go on
publishing: each builds a table and then stores it in one action. A run is any row of actions of
any readers and writers.
-/

namespace DeepLinks

/-- A reader between two of its actions. -/
inductive Reader where
  | idle
  /-- It has loaded a table, and these routes of it are still to be tried. -/
  | searching (location : Location) (routes : List Route)
  | done (answer : Option Deeplink)

namespace Reader

/-- The one load of a reader, which gives it a table. -/
def start (t : Table) (url : String) : Reader :=
  match Location.parse url with
  | .error _ => done none
  | .ok u => if t.schemes.accepts u.scheme then searching u t.routes else done none

/-- Tries one route. -/
def advance : Reader → Reader
  | searching _ [] => done none
  | searching u (r :: rs) =>
    match r.bind u with
    | .ok b => done (some ⟨r.name, b⟩)
    | .error _ => searching u rs
  | r => r

/-- What a reader is going to answer. -/
def answer : Reader → Option Deeplink
  | idle => none
  | searching u rs => (Table.scan u rs).deeplink
  | done a => a

@[simp] theorem answer_advance (r : Reader) : r.advance.answer = r.answer := by
  match r with
  | idle | done _ | searching _ [] => rfl
  | searching u (r :: rs) =>
    cases h : r.bind u <;> simp [advance, answer, Table.scan, h]

@[simp] theorem answer_start (t : Table) (url : String) : (start t url).answer = t.resolve url := by
  unfold start Table.resolve Table.resolution
  cases Location.parse url with
  | error _ => rfl
  | ok u =>
    unfold Table.search
    dsimp only
    split <;> rfl

end Reader

/-- What a writer sets out to publish: the table of a manifest, or of a route file. -/
inductive Write where
  | replace (manifest : Manifest)
  | reload (path : String) (file : FileState)

namespace Write

/-- The declared routes, if they can be read. -/
def manifest? : Write → Option Manifest
  | replace manifest => some manifest
  | reload path file => (Settings.load path file).toOption.map (·.manifest)

/-- The table that the writer builds, unless the write fails. -/
def table? (w : Write) : Option Table :=
  w.manifest?.bind fun m => m.build.toOption

/-- The write as one step of a session, which nothing else comes between. -/
def step : Write → Session.Step
  | replace manifest => .replace manifest
  | reload path file => .reload path file

end Write

/-- Readers and writers, by number, around one session. A writer that has built a table holds it
until it publishes it. -/
structure System where
  session : Session
  readers : Nat → Reader
  writers : Nat → Option Table

namespace System

inductive Action where
  /-- A reader loads the published table, to resolve a URL with it. -/
  | load (reader : Nat) (url : String)
  /-- A reader tries one route. -/
  | advance (reader : Nat)
  /-- A writer builds its table, or fails and is left without one. -/
  | prepare (writer : Nat) (write : Write)
  /-- A writer publishes the table that it has built. -/
  | store (writer : Nat)
  /-- Something is done in the session. -/
  | session (step : Session.Step)

def start (t : Table) : System := ⟨.start t, fun _ => .idle, fun _ => none⟩

/-- The table that readers are given. -/
def published (s : System) : Table := s.session.publication.table

def setReader (s : System) (i : Nat) (r : Reader) : System :=
  { s with readers := fun j => if j = i then r else s.readers j }

def setWriter (s : System) (i : Nat) (t : Option Table) : System :=
  { s with writers := fun j => if j = i then t else s.writers j }

def publish (s : System) (t : Table) : System :=
  { s with session := { s.session with publication := s.session.publication.publish t } }

def act (s : System) : Action → System
  | .load i url => s.setReader i (.start s.published url)
  | .advance i => s.setReader i (s.readers i).advance
  | .prepare i w => s.setWriter i w.table?
  | .store i =>
    match s.writers i with
    | some t => (s.publish t).setWriter i none
    | none => s
  | .session a => { s with session := (s.session.step a).1 }

def run (s : System) (actions : List Action) : System :=
  actions.foldl act s

end System

end DeepLinks
