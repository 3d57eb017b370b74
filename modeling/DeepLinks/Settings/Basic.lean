import DeepLinks.Declaration

/-!
# Settings

What a route file says: the routes, and how to log.
-/

namespace DeepLinks

/-- The form of log lines. -/
inductive LogFormat where
  | compact
  | pretty
  | json
deriving DecidableEq, Repr

namespace LogFormat

def name : LogFormat → String
  | compact => "compact"
  | pretty => "pretty"
  | json => "json"

def ofName? (name : String) : Option LogFormat :=
  [compact, pretty, json].find? (·.name == name)

end LogFormat

structure LogSettings where
  level : String
  format : LogFormat
deriving DecidableEq, Repr

namespace LogSettings

def default : LogSettings := ⟨"info", .compact⟩

/-- The filter for log lines: those of the router from the level on. -/
def filter (s : LogSettings) : String :=
  "deeplink_router=" ++ s.level

end LogSettings

structure Settings where
  manifest : Manifest
  logging : LogSettings
deriving DecidableEq, Repr

/-- The settings of an empty file. -/
def Settings.default : Settings := ⟨⟨[], [], []⟩, .default⟩

end DeepLinks
