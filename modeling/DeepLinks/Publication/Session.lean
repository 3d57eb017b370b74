import DeepLinks.Link
import DeepLinks.Publication.Basic
import DeepLinks.Resolution

/-!
# Sessions

A session is a publication in use: tables are taken from it under names, and whoever took one goes
on with it whatever is published afterwards.
-/

namespace DeepLinks

/-- A publication together with the tables that were taken from it under a name, latest first. -/
structure Session where
  publication : Publication
  snapshots : List (String × Table)

namespace Session

def start (t : Table) : Session := ⟨⟨t⟩, []⟩

/-- The table under a name. Without a name, or if none was taken under it, the published one. -/
def table (s : Session) (snapshot : Option String) : Table :=
  ((snapshot.bind fun name => s.snapshots.lookup name)).getD s.publication.table

/-- What can be done in a session. -/
inductive Step where
  | resolve (snapshot : Option String) (url : String)
  | resolveRoute (snapshot : Option String) (route url : String)
  | link (snapshot : Option String) (route : String) (values : Bindings)
  | take (name : String)
  | restore (name : String)
  | replace (manifest : Manifest)
  | reload (path : String) (file : FileState)

inductive Reply where
  | done
  | deeplink (d : Option Deeplink)
  | link (result : Except LinkError String)
  | faulty (error : ConfigurationError)
  | notLoaded (error : SettingsError)

/-- Goes on with a changed publication, or reports why it has not changed. -/
def change {ε : Type} (s : Session) (report : ε → Reply) :
    Except ε Publication → Session × Reply
  | .ok p => ({ s with publication := p }, .done)
  | .error e => (s, report e)

def step (s : Session) : Step → Session × Reply
  | .resolve snapshot url => (s, .deeplink ((s.table snapshot).resolve url))
  | .resolveRoute snapshot route url =>
    (s, .deeplink ((s.table snapshot).resolveRoute route url))
  | .link snapshot route values => (s, .link ((s.table snapshot).link route values))
  | .take name => ({ s with snapshots := (name, s.publication.table) :: s.snapshots }, .done)
  | .restore name => ({ s with publication := ⟨s.table (some name)⟩ }, .done)
  | .replace manifest => s.change .faulty (s.publication.replace manifest)
  | .reload path file => s.change .notLoaded (s.publication.reload path file)

/-- The states of a session after each of its steps, with the replies. -/
def run (s : Session) : List Step → List (Session × Reply)
  | [] => []
  | a :: as => s.step a :: run (s.step a).1 as

end Session

end DeepLinks
