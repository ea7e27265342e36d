import CrudLayer.FileError
import CrudLayer.Path

namespace CrudLayer

class Files (m : Type → Type) where
  /-- The bytes of a file. -/
  read : Path → m (Except FileError ByteArray)
  /-- All that is still to come on the standard input. -/
  readInput : m (Except FileError ByteArray)
  /-- Something is there. -/
  isPresent : Path → m Bool
  /-- A directory is there. -/
  isDirectory : Path → m Bool
  /-- Makes a directory in one that is there. -/
  makeDirectory : Path → m (Except FileError Unit)
  /-- Makes a file with these bytes, or gives them to one that is there. -/
  write : Path → ByteArray → m (Except FileError Unit)
  /-- Moves a file, in the place of one that may be there. -/
  move : Path → Path → m (Except FileError Unit)
  /-- Removes a file. -/
  remove : Path → m (Except FileError Unit)

namespace Files

variable {m : Type → Type} [Monad m] [Files m]

/-- Makes the first of these directories if it is not there, and before that those it has to be in,
which are the ones after it, the nearest first. -/
def makeFirst : List Path → m (Except FileError Unit)
  | [] => return .error (.other "failed to create whole tree")
  | p :: above => do
    if p.isEmpty then return .ok ()
    match ← makeDirectory p with
    | .ok () => return .ok ()
    | .error .missing =>
      -- The directory that this one is in is not there: make that one first and try again.
      match ← makeFirst above with
      | .error e => return .error e
      | .ok () =>
        match ← makeDirectory p with
        | .ok () => return .ok ()
        | .error e => if ← isDirectory p then return .ok () else return .error e
    | .error e => if ← isDirectory p then return .ok () else return .error e

def makeDirectories (p : Path) : m (Except FileError Unit) := makeFirst (p :: p.parents)

end Files
end CrudLayer
