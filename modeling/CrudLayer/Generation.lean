import CrudLayer.Changeset.Loading
import CrudLayer.Emission

/-!
A run from a changeset to files: the table is loaded, its files are planned, and unless it is a dry
run they are written.
-/
namespace CrudLayer

structure GenerationReport where
  table : Table
  artifacts : List Artifact
  /-- The files were written, and not only planned. -/
  written : Bool

namespace Generation

variable {m : Type → Type} [Monad m] [Files m]

def recordFields : List Column → Logged Failure m Unit
  | [] => return ()
  | c :: rest => do
    Logged.record (.fieldPlanned c.name c.fieldName c.semanticType)
    recordFields rest

/-- Generates the files for the table that a source declares. Without a mode it is a dry run. -/
def run (source : ChangesetSource) (config : Config) (mode : Option EmissionMode) :
    Logged Failure m GenerationReport := do
  let table ← Changeset.load source
  Logged.record (.generating config table.name table.entityName)
  recordFields table.columns
  let artifacts ← Logged.ofExcept (Artifact.plan table config)
  match mode with
  | none => Logged.record (.dryRun artifacts.length)
  | some mode =>
    Emission.write mode artifacts
    Logged.record (.generated artifacts.length)
  return ⟨table, artifacts, mode.isSome⟩

end Generation
end CrudLayer
