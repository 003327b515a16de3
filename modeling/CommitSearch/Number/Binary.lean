/-!
# Exact arithmetic of binary floating-point formats

A finite non-negative value of a binary format is a mantissa times a power of two. `round` brings a
quotient of natural numbers to the nearest such value, a tie going to the even mantissa; products
and quotients are rounded once, from the exact result. Nothing here is opaque: every operation is
computed on natural numbers.
-/

namespace CommitSearch.Number

/-- The non-negative number `mantissa * 2 ^ exponent`. -/
structure BinaryValue where
  mantissa : Nat
  exponent : Int
deriving DecidableEq, Repr

/-- A power of a base with an integer exponent, as a numerator and a denominator. -/
def powerRatio (base : Nat) (exponent : Int) : Nat × Nat :=
  (Nat.pow base exponent.toNat, Nat.pow base (-exponent).toNat)

def BinaryValue.ratio (x : BinaryValue) : Nat × Nat :=
  let p := powerRatio 2 x.exponent
  (x.mantissa * p.1, p.2)

def BinaryValue.lt (x y : BinaryValue) : Bool := x.ratio.1 * y.ratio.2 < y.ratio.1 * x.ratio.2

/-- The natural number nearest to `num / den`, the even one of two. -/
def nearestEven (num den : Nat) : Nat :=
  let q := num / den
  let r := num % den
  if 2 * r < den then q
  else if den < 2 * r then q + 1
  else q + q % 2

/-- A binary format: the bits of a mantissa and the range of exponents of its last bit. -/
structure BinaryFormat where
  precision : Nat
  leastExponent : Int
  greatestExponent : Int

def binary32 : BinaryFormat := ⟨24, -149, 104⟩

def binary64 : BinaryFormat := ⟨53, -1074, 971⟩

namespace BinaryFormat

def below (num den : Nat) (exponent : Int) : Bool :=
  let p := powerRatio 2 exponent
  num * p.2 < den * p.1

/-- The exponent of the last bit of values of the size of `num / den`: the one that leaves a
mantissa of full precision, or the least one. -/
def exponentFor (f : BinaryFormat) (num den : Nat) : Int :=
  let size : Int := (Nat.log2 num : Int) - (Nat.log2 den : Int)
  let top : Int := if below num den size then size else size + 1
  max (top - f.precision) f.leastExponent

/-- The value of the format nearest to `num / den`, were its exponents unbounded above. -/
def round (f : BinaryFormat) (num den : Nat) : BinaryValue :=
  if num = 0 then ⟨0, f.leastExponent⟩
  else
    let e := f.exponentFor num den
    let p := powerRatio 2 e
    let m := nearestEven (num * p.2) (den * p.1)
    if m = Nat.pow 2 f.precision then ⟨Nat.pow 2 (f.precision - 1), e + 1⟩ else ⟨m, e⟩

def ofNat (f : BinaryFormat) (n : Nat) : BinaryValue := f.round n 1

def mul (f : BinaryFormat) (x y : BinaryValue) : BinaryValue :=
  f.round (x.ratio.1 * y.ratio.1) (x.ratio.2 * y.ratio.2)

def div (f : BinaryFormat) (x y : BinaryValue) : BinaryValue :=
  f.round (x.ratio.1 * y.ratio.2) (x.ratio.2 * y.ratio.1)

/-- Whether a rounded value is too large to be finite in the format. -/
def overflows (f : BinaryFormat) (x : BinaryValue) : Bool := f.greatestExponent < x.exponent

/-- The bit pattern of a rounded value: the exponent above the mantissa's bits without its leading
one. -/
def bits (f : BinaryFormat) (x : BinaryValue) : Nat :=
  (x.exponent - f.leastExponent).toNat * Nat.pow 2 (f.precision - 1) + x.mantissa

end BinaryFormat
end CommitSearch.Number
