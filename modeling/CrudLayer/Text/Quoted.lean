import CrudLayer.Text.Concealed

namespace CrudLayer.Text

def hexDigit (n : Nat) : Char :=
  if n < 10 then Char.ofNat (0x30 + n) else Char.ofNat (0x57 + n)

/-- The hexadecimal digits of a number below `16 ^ width`, with as many leading zeros as it takes
to have `width` digits. -/
def hexDigits (width n : Nat) : List Char :=
  match width with
  | 0 => []
  | width + 1 => hexDigits width (n / 16) ++ [hexDigit (n % 16)]

def hexWidth (n : Nat) : Nat :=
  if n < 0x10 then 1 else if n < 0x100 then 2 else if n < 0x1000 then 3
  else if n < 0x10000 then 4 else if n < 0x100000 then 5 else 6

/-- A character inside quotes: quote and backslash are escaped, the common controls have a letter
each, and what is concealed is written by its number. -/
def quoteChar (c : Char) : List Char :=
  if c = '"' then ['\\', '"']
  else if c = '\\' then ['\\', '\\']
  else if c = '\n' then ['\\', 'n']
  else if c = '\r' then ['\\', 'r']
  else if c = '\t' then ['\\', 't']
  else if c.toNat = 0 then ['\\', '0']
  else if isConcealed c then
    ['\\', 'u', '\x7b'] ++ hexDigits (hexWidth c.toNat) c.toNat ++ ['\x7d']
  else [c]

def quote (s : String) : String :=
  String.ofList (['"'] ++ s.toList.flatMap quoteChar ++ ['"'])

end CrudLayer.Text
