import CrudLayer.CommandLine.Arguments
import CrudLayer.Config.Loading
import CrudLayer.Event.Line
import CrudLayer.Generation

namespace CrudLayer.CommandLine

structure Outcome where
  /-- Zero if all went well, two if the arguments were wrong, and else one. -/
  status : Nat
  /-- The text on the standard output. -/
  output : String
  /-- The lines on the standard error. -/
  diagnostics : List String
  deriving DecidableEq, Repr

inductive RunFailure
  | config (failure : ConfigFailure)
  | generation (source : ChangesetSource) (failure : Failure)
  | inspection (source : ChangesetSource) (failure : Failure)
  deriving DecidableEq, Repr

def RunFailure.chain : RunFailure → List String
  | config failure => failure.chain
  | generation source failure => ("Failed to generate from " ++ source.label) :: failure.chain
  | inspection source failure => ("Failed to inspect " ++ source.label) :: failure.chain

def reportLine (written : Bool) (a : Artifact) : String :=
  (if written then "✅ Generated " else "🔍 Would generate ") ++ a.kind.label ++ " → " ++ a.path.text

def unlines (lines : List String) : String := String.join (lines.map (· ++ "\n"))

/-- The mode that options ask for, or none for a dry run. -/
def GenerateRequest.mode? (r : GenerateRequest) : Option EmissionMode :=
  if r.dryRun then none else if r.direct then some .direct else some .staged

variable {m : Type → Type} [Monad m] [Files m]

/-- Does what a request asks for. The result is the text for the standard output. -/
def perform : Request → Logged RunFailure m String
  | .generate r => do
    let source := ChangesetSource.ofArgument r.schema
    let config ← ExceptT.adapt .config (Config.choose r.settings r.config source.path?)
    let report ← ExceptT.adapt (.generation source) (Generation.run source config r.mode?)
    return unlines (report.artifacts.map (reportLine report.written))
  | .inspect schema format => do
    let source := ChangesetSource.ofArgument schema
    let table ← ExceptT.adapt (.inspection source) (Changeset.load source)
    return Inspection.render table format ++ "\n"

def versionText : String := "crudforge 0.1.0-alpha.1\n"

def usageText : String := unlines [
  "Usage: crudforge generate [--schema FILE] [--base-package PACKAGE] [--base-path DIRECTORY]",
  "                          [--config FILE] [--dry-run] [--direct]",
  "       crudforge inspect [--schema FILE] [--format text|json]",
  "       crudforge help",
  "       crudforge --version"]

def OptionKey.name (key : OptionKey) : String :=
  match (generateForms ++ inspectForms ++ topForms).find? (·.key == key) with
  | some form => "--" ++ form.long
  | none => ""

def Misuse.message : Misuse → String
  | commandMissing => "a command is required"
  | commandUnknown word => s!"unrecognized command '{word}'"
  | optionUnknown word => s!"unexpected option '{word}'"
  | unexpected word => s!"unexpected argument '{word}'"
  | valueMissing key => "a value is required for " ++ key.name
  | valueInvalid key value => s!"invalid value '{value}' for " ++ key.name
  | valueUnexpected key => "no value is expected for " ++ key.name
  | repeated key => "more than one " ++ key.name

def variableNames : List String := [
  "CRUDFORGE_CONFIG", "CRUDFORGE_LOG_LEVEL", "CRUDFORGE_LOG_FORMAT", "CRUDFORGE_LOG_TARGETS",
  "RUST_LOG"]

def serve (environment : String → Option String) (r : Request) : m Outcome := do
  let settings := LogSettings.ofEnvironment environment
  let warnings := settings.unreadable.map ("Warning: Invalid log filter directive: " ++ ·)
  let (result, log) ← (perform r : Logged RunFailure m String).outcome
  let lines := warnings ++ log.lines settings.format (settings.filter (environment "RUST_LOG"))
  match result with
  | .ok output => return ⟨0, output, lines⟩
  | .error failure => return ⟨1, "", lines ++ ["error: " ++ ": ".intercalate failure.chain]⟩

def run (environment : String → Option String) (arguments : List String) : m Outcome :=
  match request (environment "CRUDFORGE_CONFIG") arguments with
  | .ok r => serve environment r
  | .error .help => return ⟨0, usageText, []⟩
  | .error .version => return ⟨0, versionText, []⟩
  | .error (.misuse misuse) => return ⟨2, "", ["error: " ++ misuse.message, "", usageText]⟩

end CrudLayer.CommandLine
