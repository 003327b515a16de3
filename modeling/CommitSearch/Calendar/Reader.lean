import CommitSearch.Calendar.Day
import CommitSearch.Text.CodeRanges

/-!
# Reading days and times of day

A day is written as year, month and day with hyphens between them, a time of day as hours and
minutes with a colon between them. Blanks may stand before each number. The first of the four faults
is reported, in the order of the text; that the date does not exist is seen last.
-/

namespace CommitSearch.Calendar

open CommitSearch.Text

/-- What can be wrong with the text of a date. -/
inductive DateFault
  | outOfRange
  | invalid
  | tooShort
  | trailing
deriving DecidableEq, Repr

def DateFault.message : DateFault → String
  | .outOfRange => "input is out of range"
  | .invalid => "input contains invalid characters"
  | .tooShort => "premature end of input"
  | .trailing => "trailing input"

/-- Reads at least one and at most `width` digits, behind those that are read already if `begun`,
whose value is `n`. Numbers beyond sixty-three bits are out of range at once. -/
def readDigits : Nat → Bool → Nat → List Char → Except DateFault (Nat × List Char)
  | 0, _, n, cs => .ok (n, cs)
  | _ + 1, begun, n, [] => if begun then .ok (n, []) else .error .tooShort
  | width + 1, begun, n, c :: rest =>
    if c.isDigit then
      let m := 10 * n + (c.toNat - '0'.toNat)
      if m < Nat.pow 2 63 then readDigits width true m rest else .error .outOfRange
    else if begun then .ok (n, c :: rest)
    else .error .invalid

/-- Reads a number of at most `width` digits between two bounds. -/
def readNumber (width low high : Nat) (cs : List Char) : Except DateFault (Nat × List Char) := do
  let (n, rest) ← readDigits width false 0 (trimStart cs)
  if low ≤ n ∧ n ≤ high then return (n, rest) else throw .outOfRange

/-- Reads the digits of a year: four at most, or any number behind a sign. -/
def readSignedYear : List Char → Except DateFault (Int × List Char)
  | '-' :: rest =>
    (readDigits (rest.length + 1) false 0 rest).map fun (n, rest) => (-(n : Int), rest)
  | '+' :: rest =>
    (readDigits (rest.length + 1) false 0 rest).map fun (n, rest) => ((n : Int), rest)
  | cs => (readDigits 4 false 0 cs).map fun (n, rest) => ((n : Int), rest)

def readYear (cs : List Char) : Except DateFault (Int × List Char) := do
  let (year, rest) ← readSignedYear (trimStart cs)
  if -2147483648 ≤ year ∧ year < 2147483648 then return (year, rest) else throw .outOfRange

def readMark (mark : Char) : List Char → Except DateFault (List Char)
  | [] => .error .tooShort
  | c :: rest => if c = mark then .ok rest else .error .invalid

def readEnd : List Char → Except DateFault Unit
  | [] => .ok ()
  | _ => .error .trailing

def Day.read (s : String) : Except DateFault Day := do
  let (year, rest) ← readYear s.toList
  let rest ← readMark '-' rest
  let (month, rest) ← readNumber 2 1 12 rest
  let rest ← readMark '-' rest
  let (day, rest) ← readNumber 2 1 31 rest
  readEnd rest
  let d : Day := ⟨year, month, day⟩
  if d.isValid then return d else throw .outOfRange

/-- A time of day. As in an instant, a fraction of a whole second or more marks a leap second. -/
structure TimeOfDay where
  hour : Nat
  minute : Nat
  second : Nat
  nanos : Nat
deriving DecidableEq, Repr

def TimeOfDay.seconds (t : TimeOfDay) : Nat := t.hour * 3600 + t.minute * 60 + t.second

/-- Reads a time of day in hours and minutes. -/
def TimeOfDay.read (s : String) : Except DateFault TimeOfDay := do
  let (hour, rest) ← readNumber 2 0 23 s.toList
  let rest ← readMark ':' rest
  let (minute, rest) ← readNumber 2 0 59 rest
  readEnd rest
  return ⟨hour, minute, 0, 0⟩

end CommitSearch.Calendar
