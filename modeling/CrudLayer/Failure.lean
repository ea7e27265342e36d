import CrudLayer.Artifact.Kind
import CrudLayer.Changeset.Source
import CrudLayer.Config
import CrudLayer.FileError
import CrudLayer.Schema.Table
import CrudLayer.Text.Utf8

namespace CrudLayer

inductive Stage
  | parse
  | config
  | render
  | io
  deriving DecidableEq, Repr

namespace Stage

def name : Stage → String
  | parse => "parse"
  | config => "config"
  | render => "render"
  | io => "io"

def heading : Stage → String
  | parse => "schema parse error"
  | config => "configuration error"
  | render => "render error"
  | io => "I/O error"

end Stage

inductive SchemaFault
  /-- The source's bytes are no text. -/
  | notText (source : ChangesetSource) (fault : Text.Utf8.Fault)
  /-- The text is no well-formed document. -/
  | malformed
  | tableNameMissing
  /-- The column at this position, counted from one, has no name. -/
  | columnNameMissing (position : Nat) (table : String)
  | name (fault : NameFault)
  /-- The file would not lie below the directory that was asked for. -/
  | outside (kind : ArtifactKind) (path base : Path)
  /-- Any other reason, in words. -/
  | other (text : String)
  deriving DecidableEq, Repr

/-- What is wrong with the changeset. A document that is not well formed is reported by the name of
its format alone. -/
def SchemaFault.message : SchemaFault → String
  | notText source fault => s!"{source.label} is not valid UTF-8: {fault.message}"
  | malformed => "<xml>"
  | tableNameMissing => "createTable is missing a tableName attribute"
  | columnNameMissing position table =>
    s!"column #{position} of table '{table}' is missing a name attribute"
  | name fault => fault.message
  | outside kind path base => s!"{kind.label} path {path.text} is outside {base.text}"
  | other text => text

inductive Failure
  | schema (fault : SchemaFault)
  /-- The document declares no table. -/
  | noTable
  | config (fault : ConfigFault)
  /-- A file of this kind could not be written out, for a reason given in words. -/
  | render (kind : ArtifactKind) (reason : String)
  /-- An operation on the file or directory at this path failed. -/
  | io (path : Path) (error : FileError)
  deriving DecidableEq, Repr

namespace Failure

def stage : Failure → Stage
  | schema _ | noTable => .parse
  | config _ => .config
  | render .. => .render
  | io .. => .io

def detail : Failure → String
  | schema fault => fault.message
  | noTable => "no createTable declaration found in changeset"
  | config fault => fault.message
  | render kind reason => s!"failed to render {kind.label}: {reason}"
  | io path error => s!"{path.text}: {error.message}"

def message (f : Failure) : String := f.stage.heading ++ ": " ++ f.detail

def cause? : Failure → Option String
  | render _ reason => some reason
  | io _ error => some error.message
  | _ => none

def chain (f : Failure) : List String := f.message :: f.cause?.toList

end Failure
end CrudLayer
