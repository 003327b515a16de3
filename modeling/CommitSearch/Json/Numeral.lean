import CommitSearch.Json.Fault

/-!
# Numbers in JSON texts

A numeral is kept as it was written: its digits before the point, after it, and its exponent. Its
value is an integer when it has neither point nor exponent and fits into sixty-four bits, and a
double otherwise.

A double is computed from the leading digits, as many as fit into sixty-four bits, and one power of
ten, each rounded, with one more rounding for their product or quotient.
-/

namespace CommitSearch.Json

open CommitSearch.Number

/-- The parts of a number as it was written; an exponent has its sign and its digits. -/
structure Numeral where
  negative : Bool
  whole : List Char
  fraction : List Char
  exponent : Option (Bool × List Char)
deriving DecidableEq, Repr

inductive NumberValue
  | integer (n : Int)
  | float (negative : Bool) (magnitude : BinaryValue)
deriving DecidableEq, Repr

def digitValue (c : Char) : Nat := c.toNat - '0'.toNat

def digitsValue (digits : List Char) : Nat := digits.foldl (fun n c => 10 * n + digitValue c) 0

/-- Appends digits to a significand as long as it fits into sixty-four bits, and counts them. -/
def absorb (significand : Nat) : List Char → Nat × Nat
  | [] => (significand, 0)
  | c :: rest =>
    let next := 10 * significand + digitValue c
    if next < Nat.pow 2 64 then
      let (s, taken) := absorb next rest
      (s, taken + 1)
    else (significand, 0)

/-- Divides a double by a power of ten, by the greatest power of the format at a time. -/
def dividePowerOfTen (x : BinaryValue) (k : Nat) : BinaryValue :=
  if k ≤ 308 then binary64.div x (binary64.ofNat (Nat.pow 10 k))
  else if x.mantissa = 0 then x
  else dividePowerOfTen (binary64.div x (binary64.ofNat (Nat.pow 10 308))) (k - 308)
termination_by k

/-- The double of a significand and a power of ten, unless it is too large. -/
def scaledDouble (significand : Nat) (exponent : Int) : Except Fault BinaryValue :=
  let x := binary64.ofNat significand
  if exponent < 0 then .ok (dividePowerOfTen x exponent.natAbs)
  else if x.mantissa = 0 then .ok x
  else if 308 < exponent then .error .numberOutOfRange
  else
    let y := binary64.mul x (binary64.ofNat (Nat.pow 10 exponent.toNat))
    if binary64.overflows y then .error .numberOutOfRange else .ok y

/-- The magnitude of a numeral as a double. An exponent beyond thirty-two bits makes the number zero
or too large, whatever the digits before it. -/
def Numeral.double (n : Numeral) : Except Fault BinaryValue :=
  let (s, taken) := absorb 0 n.whole
  let dropped := n.whole.length - taken
  let (significand, taken') := absorb s n.fraction
  let base : Int := (dropped : Int) - (taken' : Int)
  match n.exponent with
  | none => scaledDouble significand base
  | some (negative, digits) =>
    let e := digitsValue digits
    if e < Nat.pow 2 31 then scaledDouble significand (if negative then base - e else base + e)
    else if significand ≠ 0 ∧ !negative then .error .numberOutOfRange
    else .ok (binary64.ofNat 0)

def Numeral.value (n : Numeral) : Except Fault NumberValue :=
  let m := digitsValue n.whole
  let isInteger := n.fraction.isEmpty && n.exponent.isNone &&
    (if n.negative then 0 < m && m ≤ Nat.pow 2 63 else m < Nat.pow 2 64)
  if isInteger then .ok (.integer (if n.negative then -m else m))
  else n.double.map fun x => .float n.negative x

/-- How a number is named where another kind of value was wanted. -/
def NumberValue.found : NumberValue → Found
  | .integer n => .integer n
  | .float negative magnitude => .float negative magnitude

/-! ### Scanning -/

/-- The faults of something broken off: for one who reads it, and for one who skips over it. -/
structure Break where
  reading : Fault
  skipping : Fault
deriving DecidableEq, Repr

/-- The fault of a numeral where a digit is missing: at the end of the text, a reader wants more. -/
def missingDigit : List Char → Break
  | [] => ⟨.endOfText .value, .invalidNumber⟩
  | _ => ⟨.invalidNumber, .invalidNumber⟩

def spanDigits (cs : List Char) : List Char × List Char :=
  (cs.takeWhile Char.isDigit, cs.dropWhile Char.isDigit)

/-- The sign of an exponent: whether it is negative, and the rest. -/
def scanSign : List Char → Bool × List Char
  | '-' :: rest => (true, rest)
  | '+' :: rest => (false, rest)
  | rest => (false, rest)

/-- The exponent at the head of a text, if there is one, and the rest. -/
def scanExponent : List Char → Except Break (Option (Bool × List Char) × List Char)
  | c :: rest =>
    if c = 'e' ∨ c = 'E' then
      let (negative, rest) := scanSign rest
      let (digits, rest) := spanDigits rest
      if digits.isEmpty then .error (missingDigit rest) else .ok (some (negative, digits), rest)
    else .ok (none, c :: rest)
  | [] => .ok (none, [])

/-- The point and the digits after it at the head of a text, if there is one, and the rest. -/
def scanFraction : List Char → Except Break (List Char × List Char)
  | '.' :: rest =>
    let (digits, rest) := spanDigits rest
    if digits.isEmpty then .error (missingDigit rest) else .ok (digits, rest)
  | rest => .ok ([], rest)

/-- The digits before the point: a zero stands alone. -/
def scanWhole (cs : List Char) : Except Break (List Char × List Char) :=
  let (digits, rest) := spanDigits cs
  match digits with
  | [] => .error (missingDigit rest)
  | '0' :: _ :: _ => .error ⟨.invalidNumber, .invalidNumber⟩
  | _ => .ok (digits, rest)

/-- The numeral at the head of a text after its sign, and the rest. -/
def scanNumeral (negative : Bool) (cs : List Char) : Except Break (Numeral × List Char) := do
  let (whole, rest) ← scanWhole cs
  let (fraction, rest) ← scanFraction rest
  let (exponent, rest) ← scanExponent rest
  return (⟨negative, whole, fraction, exponent⟩, rest)

end CommitSearch.Json
