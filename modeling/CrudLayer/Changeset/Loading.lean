import CrudLayer.Changeset.Reading
import CrudLayer.Files

namespace CrudLayer.Changeset

variable {m : Type → Type} [Monad m] [Files m]

def decode (source : ChangesetSource) (bytes : ByteArray) : Except Failure String :=
  (Text.Utf8.decode bytes).mapError fun fault => .schema (.notText source fault)

def readText (source : ChangesetSource) : Logged Failure m String := do
  match source with
  | .inline text => return text
  | .file path =>
    let bytes ← Logged.attempt (.io path) (Files.read path)
    Logged.ofExcept (decode source bytes)
  | .standardInput =>
    let bytes ← Logged.attempt (.io ⟨source.label⟩) Files.readInput
    Logged.ofExcept (decode source bytes)

def load (source : ChangesetSource) : Logged Failure m Table := do
  let table ← Logged.ofPure (parse (← readText source))
  Logged.record (.changesetLoaded source table.name table.columns.length)
  return table

end CrudLayer.Changeset
