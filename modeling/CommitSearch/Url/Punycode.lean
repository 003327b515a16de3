/-!
# Letters in domain names

A label of a domain name that holds more than ASCII is written in ASCII: its ASCII characters, a
hyphen if there are any, and numbers that say which character is put where, in ascending order of
characters. A number ends with its first digit below a threshold, and the thresholds adapt to the
size of the numbers before.
-/

namespace CommitSearch.Url

/-- The value of a digit in base thirty-six: letters first. -/
def letterDigit (c : Char) : Option Nat :=
  if 'a' ≤ c ∧ c ≤ 'z' then some (c.toNat - 'a'.toNat)
  else if 'A' ≤ c ∧ c ≤ 'Z' then some (c.toNat - 'A'.toNat)
  else if '0' ≤ c ∧ c ≤ '9' then some (c.toNat - '0'.toNat + 26)
  else none

/-- The digits from which on a number goes on, at a place of the number. -/
def digitThreshold (bias place : Nat) : Nat := min 26 (max 1 (place - bias))

/-- How often a number is divided before it is small, and what is left of it. -/
def shrink (n : Nat) : Nat × Nat :=
  if 455 < n then
    let (times, left) := shrink (n / 35)
    (times + 1, left)
  else (0, n)
termination_by n
decreasing_by omega

/-- The bias behind a number `n`, when the label has `count` characters. -/
def nextBias (n count : Nat) (isFirst : Bool) : Nat :=
  let damped := if isFirst then n / 700 else n / 2
  let (times, left) := shrink (damped + damped / count)
  36 * times + 36 * left / (left + 38)

/-- A label that is being read: its characters, the last one that was put in, where the search for
the next place goes on, and the number that is being read with the weight and the place of its next
digit. -/
structure LabelReader where
  chars : List Char
  last : Nat
  start : Nat
  bias : Nat
  number : Nat
  weight : Nat
  place : Nat

namespace LabelReader

def ofBasic (chars : List Char) : LabelReader := ⟨chars, 0x80, 0, 72, 0, 1, 36⟩

/-- Puts in the character of a number that has been read. -/
def insert (r : LabelReader) : Option LabelReader :=
  let count := r.chars.length + 1
  let code := r.last + (r.start + r.number) / count
  let position := (r.start + r.number) % count
  if code.isValidChar then
    some ⟨r.chars.insertIdx position (Char.ofNat code), code, position + 1,
      nextBias r.number count (r.start = 0), 0, 1, 36⟩
  else none

def next (r : LabelReader) (c : Char) : Option LabelReader := do
  let digit ← letterDigit c
  let threshold := digitThreshold r.bias r.place
  let number := r.number + digit * r.weight
  if digit < threshold then insert { r with number }
  else some { r with number, weight := r.weight * (36 - threshold), place := r.place + 36 }

end LabelReader

def decodeLabel (cs : List Char) : Option (List Char) := do
  let digits := (cs.reverse.takeWhile (· != '-')).reverse
  let basic := (cs.reverse.dropWhile (· != '-')).drop 1 |>.reverse
  let r ← digits.foldlM LabelReader.next (.ofBasic basic)
  if r.place = 36 then some r.chars else none

end CommitSearch.Url
