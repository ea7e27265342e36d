import CrudLayer.Text.Case

/-!
How the names of tables and columns become the names of types, fields and stored columns. Every
generated file takes its names from here, so no two of them disagree.
-/
namespace CrudLayer.Naming

/-- The characters without their underscores, the character after each run of underscores in upper
case. `raise` says that an underscore has just been passed. -/
def camel (raise : Bool) : List Char → List Char
  | [] => []
  | c :: rest =>
    if c = '_' then camel true rest
    else if raise then Text.upper c ++ camel false rest
    else c :: camel false rest

def capital : List Char → List Char
  | [] => []
  | c :: rest => Text.upper c ++ rest

/-- The characters with an underscore wherever an ASCII capital follows an ASCII small letter.
`afterSmall` says that a small letter has just been passed. -/
def separate (afterSmall : Bool) : List Char → List Char
  | [] => []
  | c :: rest =>
    if afterSmall && c.isUpper then '_' :: c :: separate c.isLower rest
    else c :: separate c.isLower rest

/-- The lowerCamel form of a snake_case name: `user_profile` becomes `userProfile`. -/
def snakeToCamel (s : String) : String :=
  String.ofList (camel false s.toList)

def capitalize (s : String) : String :=
  String.ofList (capital s.toList)

def lowerFirst (s : String) : String :=
  match s.toList with
  | [] => ""
  | c :: rest => String.ofList (Text.lower c ++ rest)

/-- The snake_case form of a lowerCamel name. Runs of capitals are not taken apart: `HTTPServer`
becomes `httpserver`. -/
def camelToSnake (s : String) : String :=
  Text.lowercase (String.ofList (separate false s.toList))

/-- The type name of a table: `user_profile` becomes `UserProfile`. -/
def entityName (table : String) : String :=
  capitalize (snakeToCamel table)

def startsIdentifier (c : Char) : Bool :=
  c.isAlpha || c == '_' || c == '$'

def continuesIdentifier (c : Char) : Bool :=
  c.isAlphanum || c == '_' || c == '$'

/-- The name is an identifier of ASCII letters, digits, underscores and dollar signs that starts
with no digit. File names are made of such names, so no separator gets into a path. -/
def isIdentifier (s : String) : Bool :=
  match s.toList with
  | [] => false
  | c :: rest => startsIdentifier c && rest.all continuesIdentifier

end CrudLayer.Naming
