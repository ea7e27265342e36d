import CrudLayer.Path

namespace CrudLayer

inductive ConfigFault
  | packageMissing
  | pathMissing
  | packageEmpty
  /-- A segment of the package is no identifier. -/
  | packageSegment (package segment : String)
  | pathEmpty
  /-- Any other reason, in words. -/
  | other (text : String)
  deriving DecidableEq, Repr

def ConfigFault.message : ConfigFault → String
  | packageMissing => "base package is required (--base-package)"
  | pathMissing => "base path is required (--base-path)"
  | packageEmpty => "base package must not be empty"
  | packageSegment package segment =>
    s!"invalid base package '{package}': segment '{segment}' is not an identifier"
  | pathEmpty => "base path must not be empty"
  | other text => text

/-- The package and the directory of a run. -/
structure Config where
  /-- The dotted name that all generated packages start with. -/
  basePackage : String
  /-- The directory that the package's directories are made in. -/
  basePath : Path
  deriving DecidableEq, Repr

def packageSegments (package : String) : List String :=
  (package.toList.splitOn '.').map String.ofList

def isPackageSegment (segment : String) : Bool :=
  match segment.toList with
  | [] => false
  | c :: rest => (c.isAlpha || c == '_') && rest.all fun c => c.isAlphanum || c == '_'

namespace Config

/-- Refuses the empty package and names the first segment that is no identifier. -/
def checkPackage (package : String) : Except ConfigFault Unit :=
  if package.isEmpty then .error .packageEmpty
  else match (packageSegments package).find? (!isPackageSegment ·) with
    | some segment => .error (.packageSegment package segment)
    | none => .ok ()

/-- The configuration, if the package is well formed and the path is not empty. -/
def validate (package : String) (path : Path) : Except ConfigFault Config := do
  checkPackage package
  if path.isEmpty then throw .pathEmpty
  return ⟨package, path⟩

/-- The package as directories: `com.example` becomes `com/example`. -/
def packagePath (c : Config) : Path := Path.ofNames (packageSegments c.basePackage)

end Config

/-- Settings from one place, each of which may be absent. -/
structure Settings where
  basePackage : Option String := none
  basePath : Option Path := none
  deriving DecidableEq, Repr

namespace Settings

/-- Each setting from the first place that has it. -/
def orElse (s fallback : Settings) : Settings where
  basePackage := s.basePackage <|> fallback.basePackage
  basePath := s.basePath <|> fallback.basePath

/-- The configuration that the settings make up. A missing package is reported before a missing
path, and both before an invalid value. -/
def resolve (s : Settings) : Except ConfigFault Config :=
  match s.basePackage, s.basePath with
  | none, _ => .error .packageMissing
  | some _, none => .error .pathMissing
  | some package, some path => Config.validate package path

end Settings
end CrudLayer
