import CrudLayer.Text.Case

namespace CrudLayer.Text

def skipSign : List Char → List Char
  | '+' :: r => r
  | '-' :: r => r
  | s => s

def isDigits (s : List Char) : Bool := !s.isEmpty && s.all (·.isDigit)

def isExponent : List Char → Bool
  | [] => true
  | c :: r => (c == 'e' || c == 'E') && isDigits (skipSign r)

/-- A number without a sign: digits, of which some may come after a point, and an exponent. -/
def isMagnitude (s : List Char) : Bool :=
  let whole := s.takeWhile (·.isDigit)
  match s.drop whole.length with
  | '.' :: r =>
    let fraction := r.takeWhile (·.isDigit)
    !(whole.isEmpty && fraction.isEmpty) && isExponent (r.drop fraction.length)
  | r => !whole.isEmpty && isExponent r

def unboundedWords : List String := ["inf", "infinity", "nan"]

/-- A number in decimal notation, with or without a sign, or a word for what is no finite number, in
whatever case. -/
def isDecimal (s : List Char) : Bool :=
  let magnitude := skipSign s
  isMagnitude magnitude || unboundedWords.any (sameIgnoringAsciiCase · (.ofList magnitude))

end CrudLayer.Text
