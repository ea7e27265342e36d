import CrudLayer.Disk.Basic
import CrudLayer.Files

namespace CrudLayer

structure Machine where
  disk : Disk
  /-- What is still to come on the standard input. -/
  input : ByteArray

namespace Machine

def ask {α : Type} (f : Disk → α) : StateM Machine α := return f (← get).disk

/-- Changes the disk, unless the change fails. -/
def change (f : Disk → Except FileError Disk) : StateM Machine (Except FileError Unit) := do
  match f (← get).disk with
  | .ok d =>
    modify fun m => { m with disk := d }
    return .ok ()
  | .error e => return .error e

instance : Files (StateM Machine) where
  read p := ask (·.read p)
  readInput := modifyGet fun m => (.ok m.input, { m with input := .empty })
  isPresent p := ask (·.isPresent p)
  isDirectory p := ask (·.isDirectory p)
  makeDirectory p := change (·.makeDirectory p)
  write p bytes := change (·.write p bytes)
  move old new := change (·.move old new)
  remove p := change (·.remove p)

end Machine
end CrudLayer
