import CrudLayer.Config
import CrudLayer.Inspection

/-!
What the arguments of the program ask for. They are read from left to right, and the first one that
is wrong, or that asks for help or for the version, decides.
-/
namespace CrudLayer.CommandLine

inductive OptionKey
  | schema
  | basePackage
  | basePath
  | config
  | dryRun
  | direct
  | format
  | help
  | version
  deriving DecidableEq, Repr

structure OptionForm where
  key : OptionKey
  /-- The name after two dashes. -/
  long : String
  /-- The letter after one dash, if there is one. -/
  short : Option Char
  takesValue : Bool
  deriving DecidableEq, Repr

def helpForm : OptionForm := ⟨.help, "help", some 'h', false⟩

def topForms : List OptionForm := [helpForm, ⟨.version, "version", some 'V', false⟩]

def generateForms : List OptionForm := [
  helpForm, ⟨.schema, "schema", some 's', true⟩, ⟨.basePackage, "base-package", some 'p', true⟩,
  ⟨.basePath, "base-path", some 'o', true⟩, ⟨.config, "config", some 'c', true⟩,
  ⟨.dryRun, "dry-run", none, false⟩, ⟨.direct, "direct", none, false⟩]

def inspectForms : List OptionForm := [
  helpForm, ⟨.schema, "schema", some 's', true⟩, ⟨.format, "format", some 'f', true⟩]

inductive Misuse
  | commandMissing
  | commandUnknown (word : String)
  | optionUnknown (word : String)
  /-- The word is no option, and no option waits for a value. -/
  | unexpected (word : String)
  | valueMissing (key : OptionKey)
  /-- The value is not one that the option can have. -/
  | valueInvalid (key : OptionKey) (value : String)
  /-- The option takes no value. -/
  | valueUnexpected (key : OptionKey)
  | repeated (key : OptionKey)
  deriving DecidableEq, Repr

inductive Halt
  | help
  | version
  | misuse (m : Misuse)
  deriving DecidableEq, Repr

/-- The options that were given, with their values. That of an option without one is empty. -/
abbrev Given := List (OptionKey × String)

def format? (word : String) : Option InspectionFormat :=
  [("text", InspectionFormat.text), ("json", .json)].lookup word

/-- The option can have the value. Only a package may be empty, as far as the arguments go. -/
def isValidFor (key : OptionKey) (value : String) : Bool :=
  match key with
  | .schema | .basePath | .config => !value.isEmpty
  | .format => (format? value).isSome
  | _ => true

def give (given : Given) (key : OptionKey) (value : String) : Except Halt Given :=
  if isValidFor key value then
    if (given.lookup key).isSome then .error (.misuse (.repeated key))
    else .ok ((key, value) :: given)
  else .error (.misuse (.valueInvalid key value))

/-- The options with a flag, unless the flag asks for something else to be done. -/
def raise (given : Given) : OptionKey → Except Halt Given
  | .help => .error .help
  | .version => .error .version
  | key => give given key ""

abbrev Progress := Given × Option OptionKey

def readOption (given : Given) (form : Option OptionForm) (word : String)
    (value : Option String) : Except Halt Progress :=
  match form with
  | none => .error (.misuse (.optionUnknown word))
  | some form =>
    match form.takesValue, value with
    | true, some v => (give given form.key v).map (·, none)
    | true, none => .ok (given, some form.key)
    | false, some _ => .error (.misuse (.valueUnexpected form.key))
    | false, none => (raise given form.key).map (·, none)

/-- Reads a word that no option waits for: `--name`, `--name=value`, `-n`, `-nvalue` or
`-n=value`. A flag of one letter counts as soon as it is met, whatever follows it in the word. -/
def readWord (forms : List OptionForm) (given : Given) (word : String) : Except Halt Progress :=
  match word.toList with
  | '-' :: '-' :: rest =>
    let name := rest.takeWhile (· != '=')
    let form := forms.find? (·.long == .ofList name)
    match rest.drop name.length with
    | '=' :: value => readOption given form word (some (.ofList value))
    | _ => readOption given form word none
  | '-' :: letter :: rest =>
    -- The rest of the word is the value of an option that takes one, after at most one equals sign.
    let form := forms.find? (·.short == some letter)
    match form.any (·.takesValue), rest with
    | true, '=' :: value => readOption given form word (some (.ofList value))
    | true, c :: value => readOption given form word (some (.ofList (c :: value)))
    | _, _ => readOption given form word none
  | _ => .error (.misuse (.unexpected word))

/-- The word cannot be a value by itself: it starts with a dash and is more than that. -/
def startsOption (word : String) : Bool :=
  match word.toList with
  | '-' :: _ :: _ => true
  | _ => false

/-- Reads the words after a command. Nothing may follow two dashes. -/
def readWords (forms : List OptionForm) (given : Given) (waiting : Option OptionKey) :
    List String → Except Halt Given
  | [] =>
    match waiting with
    | some key => .error (.misuse (.valueMissing key))
    | none => .ok given
  | word :: rest =>
    match waiting with
    | some key =>
      if startsOption word then .error (.misuse (.valueMissing key))
      else
        match give given key word with
        | .ok given => readWords forms given none rest
        | .error h => .error h
    | none =>
      if word = "--" then
        match rest with
        | [] => .ok given
        | next :: _ => .error (.misuse (.unexpected next))
      else
        match readWord forms given word with
        | .ok (given, waiting) => readWords forms given waiting rest
        | .error h => .error h

structure GenerateRequest where
  schema : Option Path
  /-- The settings that were given as options. -/
  settings : Settings
  /-- The file with further settings. -/
  config : Option Path
  dryRun : Bool
  direct : Bool
  deriving DecidableEq, Repr

inductive Request
  | generate (r : GenerateRequest)
  | inspect (schema : Option Path) (format : InspectionFormat)
  deriving DecidableEq, Repr

def pathIn (given : Given) (key : OptionKey) : Option Path := (given.lookup key).map (⟨·⟩)

def isGiven (given : Given) (key : OptionKey) : Bool := (given.lookup key).isSome

/-- The request of a generating run. The environment may name the file with further settings, and
does so only where no option does. -/
def generateRequest (environmentConfig : Option String) (words : List String) :
    Except Halt Request := do
  let given ← readWords generateForms [] none words
  -- The environment is asked last, so what is wrong with it comes after all else that is wrong.
  let given ← match isGiven given .config, environmentConfig with
    | false, some value => give given .config value
    | _, _ => .ok given
  return .generate {
    schema := pathIn given .schema
    settings := ⟨given.lookup .basePackage, pathIn given .basePath⟩
    config := pathIn given .config
    dryRun := isGiven given .dryRun
    direct := isGiven given .direct }

def inspectRequest (words : List String) : Except Halt Request := do
  let given ← readWords inspectForms [] none words
  return .inspect (pathIn given .schema) (((given.lookup .format).bind format?).getD .text)

/-- What comes of asking for help by a command: at most one command may be named. -/
def helpHalt : List String → Halt
  | [] => .help
  | word :: rest =>
    if word = "generate" ∨ word = "inspect" ∨ word = "help" then
      match rest with
      | [] => .help
      | next :: _ => .misuse (.commandUnknown next)
    else .misuse (.commandUnknown word)

def request (environmentConfig : Option String) : List String → Except Halt Request
  | [] => .error (.misuse .commandMissing)
  | word :: rest =>
    if word = "generate" then generateRequest environmentConfig rest
    else if word = "inspect" then inspectRequest rest
    else if word = "help" then .error (helpHalt rest)
    else if startsOption word ∧ word ≠ "--" then
      match readWord topForms [] word with
      | .ok _ => .error (.misuse .commandMissing)
      | .error h => .error h
    else .error (.misuse (.commandUnknown word))

end CrudLayer.CommandLine
