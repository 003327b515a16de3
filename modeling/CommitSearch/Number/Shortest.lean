import CommitSearch.Number.Binary

/-!
# The shortest decimal of a binary value

The decimal with the fewest digits that rounds back to a double, and of those the nearest to it. A
decimal rounds back when it lies between the midpoints to the two neighbouring doubles; the
midpoints themselves round back when the mantissa is even.

Decimals are tried by their number of digits. On the grid of decimals with `n` digits only the two
neighbours of the value can be nearest, so these alone are tested.
-/

namespace CommitSearch.Number

/-- The number `digits * 10 ^ exponent`. -/
structure Decimal where
  digits : Nat
  exponent : Int
deriving DecidableEq, Repr

/-- The open or closed interval of numbers that round to a value, as quarters of its last bit. -/
structure RoundingInterval where
  low : Nat
  high : Nat
  unit : Int
  closed : Bool

/-- The rounding interval of a positive double. The gap below a power of two is half the gap
above. -/
def BinaryValue.interval (x : BinaryValue) : RoundingInterval where
  low :=
    let isNarrow : Bool :=
      x.mantissa = Nat.pow 2 (binary64.precision - 1) && binary64.leastExponent < x.exponent
    4 * x.mantissa - if isNarrow then 1 else 2
  high := 4 * x.mantissa + 2
  unit := x.exponent - 2
  closed := x.mantissa % 2 = 0

/-- Compares `a * 10 ^ p` with `b * 2 ^ e` exactly. -/
def compareDecimal (a : Nat) (p : Int) (b : Nat) (e : Int) : Ordering :=
  let ten := powerRatio 10 p
  let two := powerRatio 2 e
  compare (a * ten.1 * two.2) (b * two.1 * ten.2)

def RoundingInterval.holds (i : RoundingInterval) (d : Decimal) : Bool :=
  let aboveLow := match compareDecimal d.digits d.exponent i.low i.unit with
    | .gt => true
    | .eq => i.closed
    | .lt => false
  let belowHigh := match compareDecimal d.digits d.exponent i.high i.unit with
    | .lt => true
    | .eq => i.closed
    | .gt => false
  aboveLow && belowHigh

/-- The position of the leading digit of `num / den`: the greatest `k`, among those from `start`
downward, with `10 ^ k` not above the quotient. -/
def leadingPower (num den : Nat) (start : Int) : Nat → Int
  | 0 => start
  | fuel + 1 =>
    let p := powerRatio 10 start
    if num * p.2 < den * p.1 then leadingPower num den (start - 1) fuel else start

/-- The nearest decimal with unit `10 ^ exponent` that lies in the interval, if one does. -/
def shortestAt (x : BinaryValue) (exponent : Int) : Option Decimal :=
  let r := x.ratio
  let p := powerRatio 10 exponent
  let num := r.1 * p.2
  let den := r.2 * p.1
  let below : Decimal := ⟨num / den, exponent⟩
  let above : Decimal := ⟨num / den + 1, exponent⟩
  match x.interval.holds below, x.interval.holds above with
  | true, true => some (if 2 * (num % den) < den then below else above)
  | true, false => some below
  | false, true => some above
  | false, false => none

/-- The shortest decimal of a double that is not zero, from the value `leading` of its leading
position and with at most `fuel` more digits. -/
def shortestFrom (x : BinaryValue) (exponent : Int) : Nat → Decimal
  | 0 => ⟨0, 0⟩
  | fuel + 1 => match shortestAt x exponent with
    | some d => d
    | none => shortestFrom x (exponent - 1) fuel

/-- The decimal with the fewest digits that rounds back to a double. Seventeen digits always
suffice. -/
def BinaryValue.shortest (x : BinaryValue) : Decimal :=
  if x.mantissa = 0 then ⟨0, 0⟩
  else
    let r := x.ratio
    shortestFrom x (leadingPower r.1 r.2 309 640) 17

end CommitSearch.Number
