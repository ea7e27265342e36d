import CrudLayer.Text.Quoted

namespace CrudLayer

inductive JsonValue
  | text (s : String)
  | count (n : Nat)
  | list (items : List JsonValue)
  /-- Members by name, in order. -/
  | record (members : List (String × JsonValue))

namespace JsonValue

def escapeLetters : List (Char × Char) := [
  ('"', '"'), ('\\', '\\'), ('\x08', 'b'), ('\t', 't'), ('\n', 'n'), ('\x0c', 'f'), ('\r', 'r')]

/-- A character inside a quoted text. Quotes, backslashes and control characters are escaped. -/
def quoteChar (c : Char) : List Char :=
  match escapeLetters.lookup c with
  | some letter => ['\\', letter]
  | none => if c.toNat < 0x20 then ['\\', 'u'] ++ Text.hexDigits 4 c.toNat else [c]

def quote (s : String) : String := String.ofList (['"'] ++ s.toList.flatMap quoteChar ++ ['"'])

mutual

def compact : JsonValue → String
  | text s => quote s
  | count n => n.repr
  | list items => "[" ++ ",".intercalate (compactItems items) ++ "]"
  | record members => "\x7b" ++ ",".intercalate (compactMembers members) ++ "\x7d"

def compactItems : List JsonValue → List String
  | [] => []
  | v :: rest => v.compact :: compactItems rest

def compactMembers : List (String × JsonValue) → List String
  | [] => []
  | (name, v) :: rest => (quote name ++ ":" ++ v.compact) :: compactMembers rest

end

/-- Items between two brackets, each on lines of its own, two columns further in. -/
def block (left right margin : String) (items : List String) : String :=
  if items.isEmpty then left ++ right
  else
    left ++ "\n" ++ ",\n".intercalate (items.map (margin ++ "  " ++ ·)) ++ "\n" ++ margin ++ right

mutual

/-- The value with each item and member on lines of its own. The first line starts where it is put,
and the others after the margin. -/
def pretty (margin : String) : JsonValue → String
  | text s => quote s
  | count n => n.repr
  | list items => block "[" "]" margin (prettyItems (margin ++ "  ") items)
  | record members => block "\x7b" "\x7d" margin (prettyMembers (margin ++ "  ") members)

def prettyItems (margin : String) : List JsonValue → List String
  | [] => []
  | v :: rest => v.pretty margin :: prettyItems margin rest

def prettyMembers (margin : String) : List (String × JsonValue) → List String
  | [] => []
  | (name, v) :: rest => (quote name ++ ": " ++ v.pretty margin) :: prettyMembers margin rest

end

end JsonValue
end CrudLayer
