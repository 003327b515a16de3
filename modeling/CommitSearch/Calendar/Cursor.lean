import CommitSearch.Calendar.Reader

/-!
# Cursor texts

A cursor is an instant written with date, time of day and zone, such as `2020-08-08T19:02:24Z`.
Written cursors are in UTC and have no fraction; a leap second is second sixty. Cursors that are
read may have a fraction, of which nine digits count, and an offset from UTC of less than a day.
-/

namespace CommitSearch.Calendar

open CommitSearch.Text

/-! ### Writing -/

/-- A number in decimal with zeros in front up to a width. -/
def paddedDigits (width n : Nat) : List Char :=
  let digits := Nat.toDigits 10 n
  List.replicate (width - digits.length) '0' ++ digits

/-- A year of the first ten thousand has four digits; others have a sign and at least four. -/
def writeYear (year : Int) : List Char :=
  if 0 ≤ year ∧ year ≤ 9999 then paddedDigits 4 year.toNat
  else (if year < 0 then '-' else '+') :: paddedDigits 4 year.natAbs

/-- The second of the minute as it is written: sixty for a leap second. -/
def Instant.writtenSecond (i : Instant) : Nat :=
  secondOfDay i.seconds % 60 + (if i.nanos < 1000000000 then 0 else 1)

def Instant.cursorChars (i : Instant) : List Char :=
  let d := Day.ofNumber (dayOfSecond i.seconds)
  let s := secondOfDay i.seconds
  writeYear d.year ++ '-' :: paddedDigits 2 d.month ++ '-' :: paddedDigits 2 d.day ++
    'T' :: paddedDigits 2 (s / 3600) ++ ':' :: paddedDigits 2 (s / 60 % 60) ++
    ':' :: paddedDigits 2 i.writtenSecond ++ ['Z']

def Instant.cursor (i : Instant) : String := String.ofList i.cursorChars

/-! ### Reading -/

def readFixed : Nat → Nat → List Char → Except DateFault (Nat × List Char)
  | 0, n, cs => .ok (n, cs)
  | _ + 1, _, [] => .error .tooShort
  | count + 1, n, c :: rest =>
    if c.isDigit then readFixed count (10 * n + (c.toNat - '0'.toNat)) rest else .error .invalid

def readTimeMark : List Char → Except DateFault (List Char)
  | [] => .error .tooShort
  | c :: rest => if c = 'T' ∨ c = 't' ∨ c = ' ' then .ok rest else .error .invalid

/-- Reads the fraction of a second, if there is one, in nanoseconds. -/
def readFraction : List Char → Except DateFault (Nat × List Char)
  | '.' :: rest =>
    let digits := rest.takeWhile Char.isDigit
    let after := rest.dropWhile Char.isDigit
    if digits.isEmpty then .error (if after.isEmpty then .tooShort else .invalid)
    else
      let kept := digits.take 9
      let value := kept.foldl (fun n c => 10 * n + (c.toNat - '0'.toNat)) 0
      .ok (value * Nat.pow 10 (9 - kept.length), after)
  | cs => .ok (0, cs)

def byteLength (cs : List Char) : Nat := cs.foldr (fun c n => c.utf8Size + n) 0

/-- Reads two digits where two bytes at least have to be left. -/
def readPair (cs : List Char) : Except DateFault (Nat × List Char) :=
  if byteLength cs < 2 then .error .tooShort else readFixed 2 0 cs

/-- Reads hours and minutes of an offset behind its sign, in seconds. -/
def readOffset (cs : List Char) : Except DateFault (Nat × List Char) := do
  let (hours, rest) ← readPair cs
  let rest ← readMark ':' rest
  let (minutes, rest) ← readPair rest
  if 60 ≤ minutes then throw .outOfRange
  return (hours * 3600 + minutes * 60, rest)

def readZone : List Char → Except DateFault (Int × List Char)
  | [] => .error .tooShort
  | c :: rest =>
    if c = 'Z' ∨ c = 'z' then .ok (0, rest)
    else if c = '+' then (readOffset rest).map fun (n, rest) => ((n : Int), rest)
    else if c = '-' ∨ c = '\u2212' then (readOffset rest).map fun (n, rest) => (-(n : Int), rest)
    else .error .invalid

def readCursorDay (cs : List Char) : Except DateFault (Day × List Char) := do
  let (year, rest) ← readFixed 4 0 cs
  let rest ← readMark '-' rest
  let (month, rest) ← readFixed 2 0 rest
  let rest ← readMark '-' rest
  let (day, rest) ← readFixed 2 0 rest
  let d : Day := ⟨year, month, day⟩
  if d.isValid then return (d, rest) else throw .outOfRange

/-- Reads the time of a cursor: the second of the day, and the fraction, which is a whole second or
more for second sixty. -/
def readCursorTime (cs : List Char) : Except DateFault ((Nat × Nat) × List Char) := do
  let (hour, rest) ← readFixed 2 0 cs
  let rest ← readMark ':' rest
  let (minute, rest) ← readFixed 2 0 rest
  let rest ← readMark ':' rest
  let (second, rest) ← readFixed 2 0 rest
  let (nanos, rest) ← readFraction rest
  if hour < 24 ∧ minute < 60 ∧ second ≤ 60 then
    let leap := if second = 60 then 1 else 0
    return ((hour * 3600 + minute * 60 + (second - leap), nanos + leap * 1000000000), rest)
  else throw .outOfRange

/-- Reads a cursor. A text of fewer than nineteen bytes is too short before anything else is looked
at; whether the offset is less than a day is looked at last. -/
def Instant.readCursor (s : String) : Except DateFault Instant := do
  let cs := s.toList
  if byteLength cs < 19 then throw .tooShort
  let (day, rest) ← readCursorDay cs
  let rest ← readTimeMark rest
  let ((second, nanos), rest) ← readCursorTime rest
  let (offset, rest) ← readZone rest
  readEnd rest
  if 86400 ≤ offset.natAbs then throw .outOfRange
  return ⟨day.number * 86400 + second - offset, nanos⟩

end CommitSearch.Calendar
