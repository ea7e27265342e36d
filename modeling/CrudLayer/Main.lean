import CrudLayer.CommandLine.Run

namespace CrudLayer

def FileError.ofSystem : IO.Error → FileError
  | .noFileOrDirectory .. => .missing
  | .alreadyExists .. => .present
  | .inappropriateType _ 20 _ => .notDirectory
  | .inappropriateType _ 21 _ => .isDirectory
  | .invalidArgument _ 36 _ => .nameTooLong
  | .resourceBusy .. => .busy
  | e => .other (toString e)

def outcomeOf {α : Type} (action : IO α) : IO (Except FileError α) := do
  try return .ok (← action)
  catch e => return .error (.ofSystem e)

def metadata? (p : Path) : IO (Option IO.FS.Metadata) := do
  try return some (← (⟨p.text, ""⟩ : IO.FS.DirEntry).root.metadata)
  catch _ => return none

partial def readOn (stream : IO.FS.Stream) (bytes : ByteArray) : IO ByteArray := do
  let more ← stream.read 65536
  if more.isEmpty then return bytes else readOn stream (bytes ++ more)

instance : Files IO where
  read p := outcomeOf (IO.FS.readBinFile p.text)
  readInput := outcomeOf do readOn (← IO.getStdin) .empty
  isPresent p := return (← metadata? p).isSome
  isDirectory p := return (← metadata? p).any (·.type == .dir)
  makeDirectory p := outcomeOf (IO.FS.createDir p.text)
  write p bytes := outcomeOf (IO.FS.writeBinFile p.text bytes)
  move old new := outcomeOf (IO.FS.rename old.text new.text)
  remove p := outcomeOf (IO.FS.removeFile p.text)

end CrudLayer

def main (arguments : List String) : IO UInt32 := do
  let environment ← CrudLayer.CommandLine.variableNames.mapM fun name =>
    return (name, ← IO.getEnv name)
  let outcome ← CrudLayer.CommandLine.run (fun name => (environment.lookup name).join) arguments
  IO.print outcome.output
  for line in outcome.diagnostics do IO.eprintln line
  return outcome.status.toUInt32
