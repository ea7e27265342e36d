/-!
Listings, the lines of a file that is to be generated. A file is put together from listings by
setting them one after the other, apart, one step further in, or between a head and a tail that
belong together, so brackets that are opened at the end of a line are closed at the start of one.
-/
namespace CrudLayer

/-- Lines, without their line ends. -/
abbrev Listing := List String

namespace Listing

/-- The file that has these lines. The last one has no line end. -/
def render (ls : Listing) : String := "\n".intercalate ls

/-- The lines one step further in. Blank lines stay blank. -/
def indented (ls : Listing) : Listing :=
  ls.map fun l => if l.isEmpty then l else "    " ++ l

def apart (parts : List Listing) : Listing := [""].intercalate parts

/-- A body in curly brackets that open after `head`. `tail` follows the closing one. -/
def braced (head : String) (body : Listing) (tail : String) : Listing :=
  [head ++ " \x7b"] ++ indented body ++ ["\x7d" ++ tail]

/-- A body in round brackets that open after `head`, and then the body of a block. -/
def parenthesized (head : String) (parameters body : Listing) : Listing :=
  [head ++ "("] ++ indented parameters ++ braced ")" body ""

def continued (head : String) (rest : Listing) : Listing := [head] ++ indented rest

def documentation (ls : Listing) : Listing :=
  ["/**"] ++ (ls.map fun l => if l.isEmpty then " *" else " * " ++ l) ++ [" */"]

def tag (name text : String) : String := "\x7b@" ++ name ++ " " ++ text ++ "\x7d"

def link (typeName : String) : String := tag "link" typeName

def code (text : String) : String := tag "code" text

/-- A pair of curly brackets with nothing between them: the body of a type without members, or the
place in a log message where a value goes. -/
def empty : String := "\x7b\x7d"

def file (package : String) (imports : List String) (declaration : Listing) : Listing :=
  ["package " ++ package ++ ";", ""] ++ (imports.map fun i => "import " ++ i ++ ";") ++ [""] ++
    declaration

end Listing
end CrudLayer
