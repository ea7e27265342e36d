import CrudLayer.Artifact.Plan
import CrudLayer.Event.Basic
import CrudLayer.Files

/-!
Writing generated files. They are either written in their places one after the other, or all of
them are first written beside their places and then moved there, so that a failure before the first
move changes no file that was there.
-/
namespace CrudLayer

/-- How files come to their places. -/
inductive EmissionMode
  /-- Each file is written beside its place. When all are, each is moved to its place. -/
  | staged
  /-- Each file is written in its place. -/
  | direct
  deriving DecidableEq, Repr

namespace Emission

variable {m : Type → Type} [Monad m] [Files m]

def doAt {α : Type} (p : Path) (action : m (Except FileError α)) : Logged Failure m α :=
  Logged.attempt (.io p) action

/-- Makes the directory that a file is in, unless the path names none. -/
def ensureParent (p : Path) : Logged Failure m Unit :=
  match p.parent? with
  | some parent => if parent.isEmpty then return () else doAt parent (Files.makeDirectories parent)
  | none => return ()

/-- The path beside a file's place where it is written first: `a/B.java` is staged at
`a/.B.java.crudforge-tmp`. -/
def stagingPath (target : Path) : Path :=
  target.withFileName ("." ++ target.fileName?.getD "" ++ ".crudforge-tmp")

/-- Writes each file in its place. The first failure ends it; files that were written stay. -/
def writeDirect : List Artifact → Logged Failure m Unit
  | [] => return ()
  | a :: rest => do
    ensureParent a.path
    doAt a.path (Files.write a.path a.content.toUTF8)
    Logged.record (.written a.kind a.path)
    writeDirect rest

/-- Writes a file beside its place, where no directory may stand. -/
def stage (a : Artifact) : Logged Failure m Unit := do
  ensureParent a.path
  if ← Logged.perform (Files.isDirectory a.path) then throw (.io a.path .directoryAtArtifact)
  doAt (stagingPath a.path) (Files.write (stagingPath a.path) a.content.toUTF8)

/-- Removes staged files, as far as they can be removed. -/
def discard : List Artifact → Logged Failure m Unit
  | [] => return ()
  | a :: rest => do
    match ← Logged.perform (Files.remove (stagingPath a.path)) with
    | .ok () => pure ()
    | .error e => Logged.record (.stagedLeft (stagingPath a.path) e)
    discard rest

/-- Stages files after those that are `done`. A failure ends it and discards what is staged. -/
def stageAll (done : List Artifact) : List Artifact → Logged Failure m Unit
  | [] => return ()
  | a :: rest => do
    -- Only the files before it are removed. What a failed write has left of this one stays.
    tryCatch (stage a) fun failure => do
      discard done
      throw failure
    stageAll (done ++ [a]) rest

/-- Moves staged files to their places. A failure ends it and discards those not moved. -/
def commit : List Artifact → Logged Failure m Unit
  | [] => return ()
  | a :: rest => do
    match ← Logged.perform (Files.move (stagingPath a.path) a.path) with
    | .ok () => Logged.record (.committed a.path)
    | .error e =>
      discard (a :: rest)
      throw (.io a.path e)
    commit rest

def writeStaged (artifacts : List Artifact) : Logged Failure m Unit := do
  stageAll [] artifacts
  commit artifacts

/-- Writes the files. A file that is there already is replaced. -/
def write (mode : EmissionMode) (artifacts : List Artifact) : Logged Failure m Unit :=
  match mode with
  | .staged => writeStaged artifacts
  | .direct => writeDirect artifacts

end Emission
end CrudLayer
