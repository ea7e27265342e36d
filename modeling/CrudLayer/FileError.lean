namespace CrudLayer

inductive FileError
  /-- Nothing is there. -/
  | missing
  /-- Something is there already. -/
  | present
  /-- A file stands where a directory has to be. -/
  | notDirectory
  /-- A directory stands where a file has to be. -/
  | isDirectory
  /-- The place is in use and cannot be replaced. -/
  | busy
  /-- A name has more than 255 bytes, or a path too many. -/
  | nameTooLong
  /-- A name has a zero character in it. -/
  | zeroInName
  /-- The bytes of a file are no text. -/
  | notText
  /-- A directory stands where an artifact is to be put. -/
  | directoryAtArtifact
  /-- Any other reason, in words. -/
  | other (text : String)
  deriving DecidableEq, Repr

def FileError.message : FileError → String
  | missing => "No such file or directory (os error 2)"
  | present => "File exists (os error 17)"
  | notDirectory => "Not a directory (os error 20)"
  | isDirectory => "Is a directory (os error 21)"
  | busy => "Device or resource busy (os error 16)"
  | nameTooLong => "File name too long (os error 36)"
  | zeroInName => "file name contained an unexpected NUL byte"
  | notText => "stream did not contain valid UTF-8"
  | directoryAtArtifact => "a directory exists at the artifact path"
  | other text => text

end CrudLayer
