import DeepLinks.Settings.File

/-!
# Published tables

A publication holds the table that readers are given. Writers replace the table as a whole, and
only by one that has been built, so a failed change leaves it as it was. A reader keeps the table
that it was given.
-/

namespace DeepLinks

structure Publication where
  table : Table
deriving DecidableEq

namespace Publication

/-- Publishes another table. -/
def publish (_ : Publication) (t : Table) : Publication := ⟨t⟩

/-- Publishes the table of a manifest. -/
def replace (p : Publication) (m : Manifest) : Except ConfigurationError Publication :=
  m.build.map p.publish

/-- What publishing the table of a manifest reports. -/
def replaceEvents (m : Manifest) : List Event :=
  m.buildEvents ++
    match m.build with
    | .ok t => [.tableReplaced t.routes.length]
    | .error _ => []

/-- Publishes the table of a route file. -/
def reload (p : Publication) (path : String) (file : FileState) :
    Except SettingsError Publication := do
  let settings ← Settings.load path file
  let table ← settings.manifest.build.mapError fun e => .invalid [e]
  pure (p.publish table)

end Publication

end DeepLinks
