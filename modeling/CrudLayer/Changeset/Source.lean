import CrudLayer.Path

namespace CrudLayer

inductive ChangesetSource
  | file (path : Path)
  | standardInput
  /-- The text itself. -/
  | inline (text : String)
  deriving DecidableEq, Repr

namespace ChangesetSource

/-- The source that an argument names: a lone dash, or none at all, is the standard input. -/
def ofArgument (argument : Option Path) : ChangesetSource :=
  match argument with
  | some path => if path.sameComponents ⟨"-"⟩ then standardInput else file path
  | none => standardInput

def path? : ChangesetSource → Option Path
  | file path => some path
  | _ => none

def label : ChangesetSource → String
  | file path => path.text
  | standardInput => "<stdin>"
  | inline _ => "<inline>"

end ChangesetSource
end CrudLayer
