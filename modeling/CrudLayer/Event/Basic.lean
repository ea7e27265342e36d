import CrudLayer.Failure

namespace CrudLayer

inductive Level
  | trace
  | debug
  | info
  | warn
  | error
  deriving DecidableEq, Repr

namespace Level

def rank : Level → Nat
  | trace => 0
  | debug => 1
  | info => 2
  | warn => 3
  | error => 4

def name : Level → String
  | trace => "TRACE"
  | debug => "DEBUG"
  | info => "INFO"
  | warn => "WARN"
  | error => "ERROR"

end Level

inductive Event
  /-- The changeset declares more tables than the one that is used. -/
  | furtherTables (ignored : Nat)
  | identitySkipped (column : String)
  | typeUnknown (column storageType : String)
  | changesetLoaded (source : ChangesetSource) (table : String) (columns : Nat)
  | generating (config : Config) (table entity : String)
  | fieldPlanned (column field : String) (type : SemanticType)
  | dryRun (artifacts : Nat)
  | generated (artifacts : Nat)
  /-- A file was written in its place. -/
  | written (kind : ArtifactKind) (path : Path)
  /-- A staged file was moved into its place. -/
  | committed (path : Path)
  /-- A staged file could not be removed. -/
  | stagedLeft (path : Path) (error : FileError)
  | configUsed (path : Path)
  deriving DecidableEq, Repr

inductive FieldValue
  /-- A text that is shown as it is. -/
  | shown (text : String)
  /-- A text that is shown between quotes. -/
  | quoted (text : String)
  | count (n : Nat)
  deriving DecidableEq, Repr

namespace Event

def level : Event → Level
  | furtherTables _ | typeUnknown .. | stagedLeft .. => .warn
  | generating .. | fieldPlanned .. | dryRun _ | generated _ => .info
  | identitySkipped _ | changesetLoaded .. | written .. | committed _ | configUsed _ => .debug

/-- The part of the program that the event comes from, which log filters go by. -/
def target : Event → String
  | furtherTables _ | identitySkipped _ | typeUnknown .. | changesetLoaded .. =>
    "crudforge::changeset::load"
  | generating .. | fieldPlanned .. | dryRun _ | generated _ =>
    "crudforge::generator::project::generate"
  | written .. | committed _ | stagedLeft .. => "crudforge::generator::project::emit"
  | configUsed _ => "crudforge::cli::commands"

def message : Event → String
  | furtherTables _ => "changeset declares more than one createTable; only the first is generated"
  | identitySkipped _ => "skipping identity column"
  | typeUnknown .. => "unmapped storage type, falling back to text"
  | changesetLoaded .. => "loaded changeset"
  | generating .. => "generating CRUD layer"
  | fieldPlanned .. => "column"
  | dryRun _ => "dry run, nothing written"
  | generated _ => "files generated successfully"
  | written .. => "wrote artifact"
  | committed _ => "committed artifact"
  | stagedLeft .. => "failed to remove staged file"
  | configUsed _ => "using config file"

def fields : Event → List (String × FieldValue)
  | furtherTables ignored => [("ignored", .count ignored)]
  | identitySkipped column => [("column", .quoted column)]
  | typeUnknown column storageType =>
    [("column", .quoted column), ("storage_type", .shown storageType)]
  | changesetLoaded source table columns =>
    [("source", .shown source.label), ("table", .quoted table), ("columns", .count columns)]
  | generating config table entity =>
    [("base_package", .shown config.basePackage), ("base_path", .shown config.basePath.text),
      ("table", .quoted table), ("entity", .quoted entity)]
  | fieldPlanned column field type =>
    [("column", .shown column), ("field", .shown field), ("semantic_type", .shown type.label)]
  | dryRun artifacts => [("artifacts", .count artifacts)]
  | generated artifacts => [("artifacts", .count artifacts)]
  | written kind path => [("kind", .shown kind.label), ("path", .shown path.text)]
  | committed path => [("path", .shown path.text)]
  | stagedLeft path error => [("path", .shown path.text), ("error", .shown error.message)]
  | configUsed path => [("path", .shown path.text)]

def fieldNames (e : Event) : List String := "message" :: e.fields.map (·.1)

end Event

abbrev Log := List Event

/-- A computation that records events and may fail with an `ε`. The events that were recorded before
a failure stay. -/
abbrev Logged (ε : Type) (m : Type → Type) := ExceptT ε (StateT Log m)

namespace Logged

variable {ε α : Type} {m : Type → Type} [Monad m]

def record (e : Event) : Logged ε m Unit := modify (· ++ [e])

def ofExcept (r : Except ε α) : Logged ε m α := ExceptT.mk (pure r)

def perform (action : m α) : Logged ε m α := ExceptT.mk do return .ok (← action)

/-- The outcome of an action that records nothing, a failure of which is passed on as `f` says. -/
def attempt {δ : Type} (f : δ → ε) (action : m (Except δ α)) : Logged ε m α :=
  ExceptT.mk do return (← action).mapError f

def outcome (x : Logged ε m α) : m (Except ε α × Log) := (x.run).run []

/-- A computation that needs nothing but the log, inside one that needs more. -/
def ofPure (x : Logged ε Id α) : Logged ε m α :=
  ExceptT.mk fun log => pure (Id.run ((x.run).run log))

end Logged
end CrudLayer
