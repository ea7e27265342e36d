import CrudLayer.Event.LogSettings
import CrudLayer.Text.Json

namespace CrudLayer

def FieldValue.inLine : FieldValue → String
  | shown text => text
  | quoted text => Text.quote text
  | count n => n.repr

def FieldValue.inRecord : FieldValue → JsonValue
  | shown text => .text text
  | quoted text => .text text
  | count n => .count n

namespace Event

/-- The level's name, with a space before it if it is one of the short ones. -/
def levelColumn (l : Level) : String := if l.name.length < 5 then " " ++ l.name else l.name

def prettyLine (e : Event) : String :=
  " ".intercalate
    ([levelColumn e.level, e.message] ++
      e.fields.map fun (name, value) => name ++ "=" ++ value.inLine)

/-- The event as a record, whose members are in the order of their names. -/
def record (e : Event) : JsonValue := .record [
  ("fields", .record ((("message", .text e.message) ::
    e.fields.map fun (name, value) => (name, value.inRecord)).mergeSort fun a b => a.1 ≤ b.1)),
  ("level", .text e.level.name), ("target", .text e.target)]

def line (format : LogFormat) (e : Event) : String :=
  match format with
  | .pretty => e.prettyLine
  | .json => e.record.compact

end Event

def Log.lines (log : Log) (format : LogFormat) (filter : Filter) : List String :=
  (log.filter filter.shows).map (·.line format)

end CrudLayer
