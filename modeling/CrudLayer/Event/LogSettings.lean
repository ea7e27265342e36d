import CrudLayer.Event.Filter

namespace CrudLayer

inductive LogFormat
  /-- A record of JSON for each event. -/
  | json
  /-- A line of text for each event. -/
  | pretty
  deriving DecidableEq, Repr

/-- The form that a word stands for, in whatever case. Any other word stands for lines of text. -/
def LogFormat.ofWord (word : String) : LogFormat :=
  if Text.lowercase word = "json" then .json else .pretty

structure LogSettings where
  /-- The word for the level, as it was given. -/
  levelWord : String := "info"
  format : LogFormat := .pretty
  /-- Further directives, separated by commas. -/
  targets : Option String := none
  deriving DecidableEq, Repr

namespace LogSettings

def ofEnvironment (environment : String → Option String) : LogSettings where
  levelWord := (environment "CRUDFORGE_LOG_LEVEL").getD "info"
  format := ((environment "CRUDFORGE_LOG_FORMAT").map LogFormat.ofWord).getD .pretty
  targets := environment "CRUDFORGE_LOG_TARGETS"

/-- The level, which is the middle one where the word stands for none. -/
def level (s : LogSettings) : Level :=
  ([("trace", .trace), ("debug", .debug), ("warn", .warn), ("error", .error)].lookup
    (Text.lowercase s.levelWord)).getD .info

def targetDirectives (s : LogSettings) : List String :=
  match s.targets with
  | some targets =>
    ((targets.toList.splitOn ',').map fun piece => Text.trim (.ofList piece)).filter (!·.isEmpty)
  | none => []

def unreadable (s : LogSettings) : List String :=
  s.targetDirectives.filter fun d => (Directive.parse? d).isNone

/-- The filter: that of the variable for filters, if it is there and can be read, or else the
level; and the further directives. -/
def filter (s : LogSettings) (variableText : Option String) : Filter :=
  (variableText.bind Filter.parse?).getD [{ threshold := some s.level }] ++
    s.targetDirectives.filterMap Directive.parse?

end LogSettings
end CrudLayer
