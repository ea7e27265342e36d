/-!
Reading UTF-8, one byte after the other. Bytes that are no text are refused at the first sequence
that belongs to no character, and the refusal says where that sequence starts and how much of it
could still have been one.
-/
namespace CrudLayer.Text.Utf8

/-- Why bytes are no text. All bytes before `start` make up whole characters. -/
inductive Fault
  /-- The `length` bytes from `start` on begin no character, whatever follows. -/
  | illFormed (start length : Nat)
  /-- The bytes end inside the character that begins at `start`. -/
  | incomplete (start : Nat)
  deriving DecidableEq, Repr

def Fault.message : Fault → String
  | .illFormed start length =>
    s!"invalid utf-8 sequence of {length} bytes from index {start}"
  | .incomplete start => s!"incomplete utf-8 byte sequence from index {start}"

structure Pending where
  /-- Where the character starts. -/
  start : Nat
  /-- How many of its bytes have been read. -/
  read : Nat
  /-- How many are to come after the next one. -/
  later : Nat
  /-- The least value that the next byte may have. -/
  low : UInt8
  /-- The greatest value that the next byte may have. -/
  high : UInt8
  /-- The number that the bytes so far make up. -/
  value : Nat

/-- The character that a byte of 0x80 or more begins: a shorter form, a surrogate or a number past
the last character is ruled out by the bounds of the second byte. -/
def Pending.begin? (start : Nat) (b : UInt8) : Option Pending :=
  if 0xC2 ≤ b && b ≤ 0xDF then some ⟨start, 1, 0, 0x80, 0xBF, b.toNat % 32⟩
  else if b == 0xE0 then some ⟨start, 1, 1, 0xA0, 0xBF, b.toNat % 16⟩
  else if b == 0xED then some ⟨start, 1, 1, 0x80, 0x9F, b.toNat % 16⟩
  else if 0xE1 ≤ b && b ≤ 0xEF then some ⟨start, 1, 1, 0x80, 0xBF, b.toNat % 16⟩
  else if b == 0xF0 then some ⟨start, 1, 2, 0x90, 0xBF, b.toNat % 8⟩
  else if 0xF1 ≤ b && b ≤ 0xF3 then some ⟨start, 1, 2, 0x80, 0xBF, b.toNat % 8⟩
  else if b == 0xF4 then some ⟨start, 1, 2, 0x80, 0x8F, b.toNat % 8⟩
  else none

/-- The characters of the bytes from `index` on, the first of which may belong to a character that
was begun before. -/
def scan (index : Nat) : Option Pending → List UInt8 → Except Fault (List Char)
  | none, [] => .ok []
  | some p, [] => .error (.incomplete p.start)
  | none, b :: rest =>
    if b < 0x80 then (scan (index + 1) none rest).map (Char.ofNat b.toNat :: ·)
    else match Pending.begin? index b with
      | some p => scan (index + 1) (some p) rest
      | none => .error (.illFormed index 1)
  | some p, b :: rest =>
    if p.low ≤ b && b ≤ p.high then
      let value := p.value * 64 + b.toNat % 64
      match p.later with
      | 0 => (scan (index + 1) none rest).map (Char.ofNat value :: ·)
      | later + 1 => scan (index + 1) (some ⟨p.start, p.read + 1, later, 0x80, 0xBF, value⟩) rest
    else .error (.illFormed p.start p.read)

def decode (bytes : ByteArray) : Except Fault String :=
  (scan 0 none bytes.data.toList).map String.ofList

end CrudLayer.Text.Utf8
