import CommitSearch.Text.Lists
import CommitSearch.Text.Numeral

/-!
# Addresses of servers in numbers

An address of eight pieces is written with colons between them, each in base sixteen. Two colons
stand for one or more pieces that are zero, once at most, and the last two pieces can be written as
four bytes with points between them. An address of four bytes is written as one to four numbers,
the last of which fills the bytes that are left.
-/

namespace CommitSearch.Url

open CommitSearch.Text

/-! ### Eight pieces -/

/-- One piece: up to four digits of base sixteen. -/
def readPiece (cs : List Char) : Option Nat := if cs.length ≤ 4 then readNumeral 16 cs else none

def readByte (cs : List Char) : Option Nat :=
  if cs.head? = some '0' ∧ cs.length ≠ 1 then none else (readNumeral 10 cs).filter (· ≤ 255)

def readDottedPieces (cs : List Char) : Option (List Nat) :=
  match (fields (· == '.') cs).mapM readByte with
  | some [a, b, c, d] => some [256 * a + b, 256 * c + d]
  | _ => none

def readLastPieces : List (List Char) → Option (List Nat)
  | [] => some []
  | [last] => if last.contains '.' then readDottedPieces last else (readPiece last).map ([·])
  | piece :: rest => do return (← readPiece piece) :: (← readLastPieces rest)

/-- The parts between colons; an empty text has none. -/
def colonParts (cs : List Char) : List (List Char) :=
  if cs.isEmpty then [] else fields (· == ':') cs

/-- What stands before and behind the first two colons in a row. -/
def splitGap : List Char → Option (List Char × List Char)
  | [] => none
  | c :: rest =>
    if c = ':' ∧ rest.head? = some ':' then some ([], rest.drop 1)
    else (splitGap rest).map fun (before, behind) => (c :: before, behind)

def readAddress6 (cs : List Char) : Option (List Nat) :=
  match splitGap cs with
  | none => (readLastPieces (colonParts cs)).filter fun pieces => pieces.length = 8
  | some (before, behind) => do
    let front ← (colonParts before).mapM readPiece
    let back ← readLastPieces (colonParts behind)
    if front.length + back.length < 8 then
      return front ++ List.replicate (8 - (front.length + back.length)) 0 ++ back
    else none

/-! ### Four bytes -/

/-- A number of any size: behind `0x` in base sixteen, behind a zero in base eight, else in decimal.
Nothing behind them is zero. -/
def readAnyNumeral : List Char → Option Nat
  | '0' :: 'x' :: digits => if digits.isEmpty then some 0 else readNumeral 16 digits
  | '0' :: digits => if digits.isEmpty then some 0 else readNumeral 8 digits
  | digits => readNumeral 10 digits

/-- The parts of a name between points; a last one that is empty does not count unless it is the
only one. -/
def pointParts (cs : List Char) : List (List Char) :=
  let parts := fields (· == '.') cs
  if parts.length ≠ 1 ∧ parts.getLast? = some [] then parts.dropLast else parts

/-- Whether a name has to be an address: its last part is a number. -/
def endsInNumber (cs : List Char) : Bool :=
  match (pointParts cs).getLast? with
  | some last =>
    (!last.isEmpty && last.all Char.isDigit) || (readAnyNumeral last).isSome
  | none => false

/-- The number of bytes and of a last number that fills the places behind them, where the first byte
has the given place. -/
def joinBytes (last : Nat) : Nat → List Nat → Nat
  | _, [] => last
  | place, b :: rest => b * Nat.pow 256 place + joinBytes last (place - 1) rest

/-- Reads an address of four bytes as the number that they make up. -/
def readAddress4 (cs : List Char) : Option Nat := do
  let numbers ← (pointParts cs).mapM readAnyNumeral
  let bytes := numbers.dropLast
  let last := numbers.getLastD 0
  if numbers.length ≤ 4 ∧ bytes.all (· ≤ 255) ∧ last < Nat.pow 256 (4 - bytes.length) then
    return joinBytes last 3 bytes
  else none

end CommitSearch.Url
