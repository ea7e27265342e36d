import CrudLayer.Config.Document
import CrudLayer.Event.Basic
import CrudLayer.Files

namespace CrudLayer

inductive ConfigFailure
  /-- The file that was asked for is not there. -/
  | fileMissing (path : Path)
  | fileUnreadable (path : Path) (error : FileError)
  /-- The file is no document of settings. -/
  | fileMalformed (path : Path)
  /-- The settings are incomplete or one is not valid. -/
  | invalid (fault : ConfigFault)
  deriving DecidableEq, Repr

namespace ConfigFailure

/-- The report of the failure and of what is beneath it. A document that is not well formed is
reported by the name of its format alone. -/
def chain : ConfigFailure → List String
  | fileMissing path => ["Config file not found: " ++ path.text]
  | fileUnreadable path error => ["Failed to read config: " ++ path.text, error.message]
  | fileMalformed path => ["Failed to parse config: " ++ path.text, "<toml>"]
  | invalid fault => (Failure.config fault).chain

def message (f : ConfigFailure) : String := ": ".intercalate f.chain

end ConfigFailure

/-- The name of the file that is used when it lies beside the changeset. -/
def configFileName : String := "crudforge.toml"

variable {m : Type → Type} [Monad m] [Files m]

def Settings.load (path : Path) : Logged ConfigFailure m (Option Settings) := do
  if ← Logged.perform (Files.isPresent path) then
    let bytes ← Logged.attempt (.fileUnreadable path) (Files.read path)
    match Text.Utf8.decode bytes with
    | .error _ => throw (.fileUnreadable path .notText)
    | .ok text =>
      match Settings.ofDocument? text with
      | some settings => return some settings
      | none => throw (.fileMalformed path)
  else return none

namespace Config

/-- The file to take settings from: the one that was asked for, or else the one beside the
changeset, if it is there. -/
def file? (explicit changeset : Option Path) : m (Option Path) :=
  match explicit, changeset.bind Path.parent? with
  | some path, _ => return some path
  | none, some directory => do
    let candidate := directory.join ⟨configFileName⟩
    return if ← Files.isPresent candidate then some candidate else none
  | none, none => return none

/-- The configuration that settings make up together with those of the file, which count only where
there is no other. The file that was asked for must be there, needed or not. -/
def choose (settings : Settings) (explicit changeset : Option Path) :
    Logged ConfigFailure m Config := do
  if let some path := explicit then
    unless ← Logged.perform (Files.isPresent path) do throw (.fileMissing path)
  let fromFile ← match ← Logged.perform (file? explicit changeset) with
    | some path => do
      Logged.record (.configUsed path)
      pure ((← Settings.load path).getD {})
    | none => pure {}
  Logged.ofExcept ((settings.orElse fromFile).resolve.mapError .invalid)

end Config
end CrudLayer
