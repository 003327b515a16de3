/-!
# Numbers and bytes in texts

The digits of bases up to sixteen, letters of either case standing for those beyond nine, and the
numbers that rows of digits spell. A count is one or more decimal digits, a plus sign before them
allowed, and no more than a given greatest number. Where numbers below zero can be told apart from
what is no number, zero can have a minus sign.

A percent sign with two digits of base sixteen stands for a byte. Any other percent sign stands for
itself, and what the other characters stand for is said by the text at hand.
-/

namespace CommitSearch.Text

/-! ### Digits -/

/-- The value of a digit of base sixteen, of either case. -/
def hexValue (c : Char) : Option Nat :=
  if c.isDigit then some (c.toNat - '0'.toNat)
  else if 'a' ≤ c ∧ c ≤ 'f' then some (c.toNat - 'a'.toNat + 10)
  else if 'A' ≤ c ∧ c ≤ 'F' then some (c.toNat - 'A'.toNat + 10)
  else none

def digitValue (base : Nat) (c : Char) : Option Nat := (hexValue c).filter (· < base)

/-- The number that one digit or more spell in a base. -/
def readNumeral (base : Nat) (cs : List Char) : Option Nat :=
  if cs.isEmpty then none
  else cs.foldlM (fun n c => (digitValue base c).map (base * n + ·)) 0

/-! ### Counts -/

/-- The count that a text spells, if it is at most `greatest`. -/
def readCount (greatest : Nat) (s : String) : Option Nat :=
  let digits := match s.toList with
    | '+' :: rest => rest
    | cs => cs
  (readNumeral 10 digits).filter (· ≤ greatest)

/-- The count that a text spells, if it is at most `greatest`; zero can have a minus sign. -/
def readSignedCount (greatest : Nat) (s : String) : Option Nat :=
  match s.toList with
  | '-' :: '+' :: _ => none
  | '-' :: rest => readCount 0 (String.ofList rest)
  | _ => readCount greatest s

/-! ### Percent signs -/

/-- The byte of an escape whose percent sign has been read, if there is one. -/
def escapedByte : List Char → Option UInt8
  | high :: low :: _ => do
    let h ← hexValue high
    let l ← hexValue low
    return UInt8.ofNat (16 * h + l)
  | _ => none

/-- The bytes that an encoded text spells, where `plain` spells the characters outside of escapes;
`skipped` characters at the head belong to an escape that has been read. -/
def percentBytes (plain : Char → List UInt8) : Nat → List Char → List UInt8
  | _, [] => []
  | skipped + 1, _ :: rest => percentBytes plain skipped rest
  | 0, c :: rest =>
    if c = '%' then
      match escapedByte rest with
      | some b => b :: percentBytes plain 2 rest
      | none => plain '%' ++ percentBytes plain 0 rest
    else plain c ++ percentBytes plain 0 rest

end CommitSearch.Text
