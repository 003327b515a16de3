import CommitSearch.Number.Binary
import Mathlib.Algebra.Order.Field.Power
import Mathlib.Algebra.Order.Field.Rat
import Mathlib.Tactic.FieldSimp
import Mathlib.Tactic.Linarith
import Mathlib.Tactic.Positivity
import Mathlib.Tactic.Ring

/-!
# Rounding to nearest

A mantissa and an exponent denote a rational number, and comparing two values is comparing what they
denote. Main statement: of the values of a format, none is nearer to a quotient than what `round`
makes of it, and where another is as near, its mantissa is even. A natural number that fits in the
mantissa is not changed, and whether a rounded number is above a value can be said without rounding.
-/

namespace CommitSearch.Number

/-! ### Values -/

/-- The number that a mantissa and an exponent denote. -/
def BinaryValue.value (x : BinaryValue) : ℚ := x.mantissa * 2 ^ x.exponent

theorem powerRatio_pos (e : Int) : 0 < (powerRatio 2 e).2 := Nat.two_pow_pos _

theorem powerRatio_eq (e : Int) : ((powerRatio 2 e).1 : ℚ) = 2 ^ e * (powerRatio 2 e).2 := by
  have hfirst : ((powerRatio 2 e).1 : ℚ) = 2 ^ (e.toNat : Int) := by
    rw [zpow_natCast]
    exact_mod_cast rfl
  have hsecond : ((powerRatio 2 e).2 : ℚ) = 2 ^ ((-e).toNat : Int) := by
    rw [zpow_natCast]
    exact_mod_cast rfl
  have hexponent : e + (-e).toNat = e.toNat := by omega
  rw [hfirst, hsecond, ← zpow_add₀ two_ne_zero, hexponent]

namespace BinaryValue

theorem ratio_pos (x : BinaryValue) : 0 < x.ratio.2 := powerRatio_pos x.exponent

theorem ratio_eq (x : BinaryValue) : (x.ratio.1 : ℚ) = x.value * x.ratio.2 := by
  have hpower := powerRatio_eq x.exponent
  simp only [ratio, value, Nat.cast_mul, hpower, mul_assoc]

theorem lt_zero (x : BinaryValue) (exponent : Int) : x.lt ⟨0, exponent⟩ = false := by
  simp [lt, ratio]

theorem lt_iff_value (x y : BinaryValue) : x.lt y = true ↔ x.value < y.value := by
  have hx : (0 : ℚ) < x.ratio.2 := by exact_mod_cast x.ratio_pos
  have hy : (0 : ℚ) < y.ratio.2 := by exact_mod_cast y.ratio_pos
  rw [lt, decide_eq_true_eq, ← Nat.cast_lt (α := ℚ), Nat.cast_mul, Nat.cast_mul, x.ratio_eq,
    y.ratio_eq, mul_right_comm, mul_right_comm y.value, mul_assoc, mul_assoc,
    mul_comm (y.ratio.2 : ℚ), mul_lt_mul_iff_left₀ (by positivity)]

end BinaryValue

/-! ### The nearest natural number -/

/-- The nearest natural number is the quotient or the next one: the one less than a half away, or the
even one if both are a half away. -/
theorem nearestEven_cases (num den : Nat) :
    nearestEven num den = num / den ∧ 2 * (num % den) < den ∨
      nearestEven num den = num / den + 1 ∧ den < 2 * (num % den) ∨
      nearestEven num den % 2 = 0 ∧ 2 * (num % den) = den ∧
        (nearestEven num den = num / den ∨ nearestEven num den = num / den + 1) := by
  simp only [nearestEven]
  split
  · omega
  · split <;> omega

/-- It is less than a half away from the quotient, or a half away and even. -/
theorem nearestEven_near {num den : Nat} (h : 0 < den) :
    |(nearestEven num den : ℚ) - num / den| < 1 / 2 ∨
      |(nearestEven num den : ℚ) - num / den| = 1 / 2 ∧ nearestEven num den % 2 = 0 := by
  have hden : (0 : ℚ) < den := by exact_mod_cast h
  have hquotient : (num : ℚ) / den = (num / den : Nat) + (num % den : Nat) / den := by
    rw [div_eq_iff hden.ne', add_mul, div_mul_cancel₀ _ hden.ne']
    exact_mod_cast (Nat.div_add_mod' num den).symm
  have hlow : (0 : ℚ) ≤ (num % den : Nat) / den := by positivity
  have hhigh : ((num % den : Nat) : ℚ) / den < 1 := by
    rw [div_lt_one hden]
    exact_mod_cast Nat.mod_lt num h
  rw [hquotient]
  rcases nearestEven_cases num den with ⟨hm, hr⟩ | ⟨hm, hr⟩ | ⟨heven, hr, hm⟩
  · have hr : ((num % den : Nat) : ℚ) / den < 1 / 2 := by
      rw [div_lt_iff₀ hden]
      have hr : (2 * (num % den : Nat) : ℚ) < den := by exact_mod_cast hr
      linarith
    rw [hm]
    left
    rw [abs_lt]
    constructor <;> linarith
  · have hr : 1 / 2 < ((num % den : Nat) : ℚ) / den := by
      rw [lt_div_iff₀ hden]
      have hr : (den : ℚ) < 2 * (num % den : Nat) := by exact_mod_cast hr
      linarith
    rw [hm, Nat.cast_succ]
    left
    rw [abs_lt]
    constructor <;> linarith
  · have hr : ((num % den : Nat) : ℚ) / den = 1 / 2 := by
      rw [div_eq_iff hden.ne']
      have hr : (2 * (num % den : Nat) : ℚ) = den := by exact_mod_cast hr
      linarith
    refine .inr ⟨?_, heven⟩
    rcases hm with hm | hm
    · rw [hm, hr, abs_eq (by norm_num)]
      right
      ring
    · rw [hm, hr, Nat.cast_succ, abs_eq (by norm_num)]
      left
      ring

/-! ### Exponents -/

namespace BinaryFormat

theorem below_iff {num den : Nat} (hden : 0 < den) (e : Int) :
    below num den e = true ↔ (num / den : ℚ) < 2 ^ e := by
  have hpos : (0 : ℚ) < den := by exact_mod_cast hden
  have hscale : (0 : ℚ) < (powerRatio 2 e).2 := by exact_mod_cast powerRatio_pos e
  rw [below, decide_eq_true_eq, ← Nat.cast_lt (α := ℚ), Nat.cast_mul, Nat.cast_mul, powerRatio_eq,
    ← mul_assoc, mul_lt_mul_iff_left₀ hscale, div_lt_iff₀ hpos, mul_comm (den : ℚ)]

theorem zpow_log2_le {n : Nat} (h : n ≠ 0) : (2 : ℚ) ^ (Nat.log2 n : Int) ≤ n := by
  rw [zpow_natCast]
  exact_mod_cast Nat.log2_self_le h

theorem lt_zpow_log2 (n : Nat) : (n : ℚ) < 2 ^ ((Nat.log2 n : Int) + 1) := by
  have hpower : (2 : ℚ) ^ ((Nat.log2 n : Int) + 1) = (2 ^ (Nat.log2 n + 1) : Nat) := by
    rw [← Nat.cast_succ, zpow_natCast, Nat.cast_pow, Nat.cast_ofNat]
  rw [hpower]
  exact_mod_cast Nat.lt_log2_self

/-- The size of a quotient, known up to a factor of two from the sizes of its terms. -/
theorem zpow_size {num den : Nat} (hnum : num ≠ 0) (hden : 0 < den) :
    (2 : ℚ) ^ ((Nat.log2 num : Int) - Nat.log2 den - 1) ≤ num / den ∧
      (num / den : ℚ) < 2 ^ ((Nat.log2 num : Int) - Nat.log2 den + 1) := by
  have hpos : (0 : ℚ) < den := by exact_mod_cast hden
  constructor
  · rw [le_div_iff₀ hpos]
    calc (2 : ℚ) ^ ((Nat.log2 num : Int) - Nat.log2 den - 1) * den
        ≤ 2 ^ ((Nat.log2 num : Int) - Nat.log2 den - 1) * 2 ^ ((Nat.log2 den : Int) + 1) := by
          gcongr
          exact (lt_zpow_log2 den).le
      _ = 2 ^ (Nat.log2 num : Int) := by
          rw [← zpow_add₀ two_ne_zero]
          congr 1
          omega
      _ ≤ num := zpow_log2_le hnum
  · rw [div_lt_iff₀ hpos]
    calc (num : ℚ) < 2 ^ ((Nat.log2 num : Int) + 1) := lt_zpow_log2 num
      _ = 2 ^ ((Nat.log2 num : Int) - Nat.log2 den + 1) * 2 ^ (Nat.log2 den : Int) := by
          rw [← zpow_add₀ two_ne_zero]
          congr 1
          omega
      _ ≤ 2 ^ ((Nat.log2 num : Int) - Nat.log2 den + 1) * den := by
          gcongr
          exact zpow_log2_le hden.ne'

/-- A quotient is below the power of two that a mantissa of full precision does not reach, and it is
not below half of it unless the exponent is the least one. -/
theorem exponentFor_bounds (f : BinaryFormat) {num den : Nat} (hnum : num ≠ 0) (hden : 0 < den) :
    (num / den : ℚ) < 2 ^ (f.exponentFor num den + f.precision) ∧
      (f.leastExponent < f.exponentFor num den →
        (2 : ℚ) ^ (f.exponentFor num den + f.precision - 1) ≤ num / den) := by
  obtain ⟨hlow, hhigh⟩ := zpow_size hnum hden
  have htop : ∃ top : Int, f.exponentFor num den = max (top - f.precision) f.leastExponent ∧
      (num / den : ℚ) < 2 ^ top ∧ (2 : ℚ) ^ (top - 1) ≤ num / den := by
    cases hbelow : below num den ((Nat.log2 num : Int) - Nat.log2 den) with
    | true =>
      exact ⟨_, by simp only [exponentFor, hbelow, if_true], (below_iff hden _).1 hbelow, hlow⟩
    | false =>
      refine ⟨_, by simp only [exponentFor, hbelow, Bool.false_eq_true, if_false], hhigh, ?_⟩
      rw [Int.add_sub_cancel]
      exact not_lt.1 fun hlt => Bool.false_ne_true (hbelow.symm.trans ((below_iff hden _).2 hlt))
  obtain ⟨top, hexponent, hbelow, habove⟩ := htop
  constructor
  · refine hbelow.trans_le (zpow_le_zpow_right₀ one_le_two ?_)
    omega
  · intro hleast
    have htop : f.exponentFor num den + f.precision - 1 = top - 1 := by omega
    rwa [htop]

/-! ### Rounded quotients -/

/-- Whether a value has a mantissa and an exponent of the format. -/
def Has (f : BinaryFormat) (x : BinaryValue) : Prop :=
  x.mantissa < 2 ^ f.precision ∧ f.leastExponent ≤ x.exponent

/-- A value of a format to which a number is rounded: no other is nearer, and where another is as
near, the mantissa is even. -/
structure Rounds (f : BinaryFormat) (q : ℚ) (x : BinaryValue) : Prop where
  has : f.Has x
  nearest : ∀ y, f.Has y → |x.value - q| ≤ |y.value - q|
  even : ∀ y, f.Has y → |x.value - q| = |y.value - q| → x.value = y.value ∨ x.mantissa % 2 = 0

/-- What `round` makes of a quotient, as a multiple of a power of two. -/
theorem round_eq (f : BinaryFormat) {num : Nat} (hnum : num ≠ 0) (den : Nat) :
    ∃ m : Nat, m = nearestEven (num * (powerRatio 2 (f.exponentFor num den)).2)
        (den * (powerRatio 2 (f.exponentFor num den)).1) ∧
      f.round num den =
        if m = 2 ^ f.precision then ⟨2 ^ (f.precision - 1), f.exponentFor num den + 1⟩
        else ⟨m, f.exponentFor num den⟩ :=
  ⟨_, rfl, by rw [round, if_neg hnum]; rfl⟩

theorem leastExponent_le (f : BinaryFormat) (num den : Nat) :
    f.leastExponent ≤ f.exponentFor num den := by
  rw [exponentFor]
  exact le_max_right _ _

/-- A natural number no more than a half away from a number, even if it is a half away, is rounded to
among the natural numbers. -/
theorem nearest_nat {m : Nat} {t : ℚ}
    (near : |(m : ℚ) - t| < 1 / 2 ∨ |(m : ℚ) - t| = 1 / 2 ∧ m % 2 = 0) (k : Nat) :
    |(m : ℚ) - t| ≤ |(k : ℚ) - t| ∧ (|(m : ℚ) - t| = |(k : ℚ) - t| → m = k ∨ m % 2 = 0) := by
  by_cases hk : m = k
  · subst hk
    exact ⟨le_refl _, fun _ => .inl rfl⟩
  have hapart : (1 : ℚ) ≤ |(m : ℚ) - k| := by
    have hint : (1 : ℤ) ≤ |(m : ℤ) - k| := Int.one_le_abs (by omega)
    exact_mod_cast hint
  have hfar : 1 - |(m : ℚ) - t| ≤ |(k : ℚ) - t| := by
    have hsum := abs_sub_le (m : ℚ) t k
    rw [abs_sub_comm t] at hsum
    linarith
  rcases near with hnear | ⟨hnear, heven⟩
  · refine ⟨by linarith, fun he => ?_⟩
    linarith
  · exact ⟨by linarith, fun _ => .inr heven⟩

/-- A value with an exponent that is not below another is a multiple of the other's power of two. -/
theorem value_multiple {y : BinaryValue} {e : Int} (h : e ≤ y.exponent) :
    y.value = (y.mantissa * 2 ^ (y.exponent - e).toNat : Nat) * 2 ^ e := by
  have hpower : (2 : ℚ) ^ y.exponent = 2 ^ ((y.exponent - e).toNat : Int) * 2 ^ e := by
    rw [← zpow_add₀ two_ne_zero]
    congr 1
    omega
  rw [BinaryValue.value, hpower, zpow_natCast]
  push_cast
  ring

/-- A value of a format with an exponent below another is below what a full mantissa makes of the
other's power of two. -/
theorem value_lt_of_exponent {f : BinaryFormat} {y : BinaryValue} {e : Int} (has : f.Has y)
    (h : y.exponent < e) : y.value < 2 ^ (e + f.precision - 1) := by
  have hmantissa : (y.mantissa : ℚ) < 2 ^ (f.precision : Int) := by
    rw [zpow_natCast]
    exact_mod_cast has.1
  calc y.value = y.mantissa * 2 ^ y.exponent := rfl
    _ < 2 ^ (f.precision : Int) * 2 ^ y.exponent := by gcongr
    _ = 2 ^ (y.exponent + f.precision) := by
      rw [← zpow_add₀ two_ne_zero, add_comm]
    _ ≤ 2 ^ (e + f.precision - 1) := zpow_le_zpow_right₀ one_le_two (by omega)

/-- The least full mantissa times a power of two. -/
theorem zpow_full {p : Nat} (e : Int) (hp : 1 ≤ p) :
    (2 : ℚ) ^ (e + p - 1) = (2 ^ (p - 1) : Nat) * 2 ^ e := by
  rw [Nat.cast_pow, Nat.cast_ofNat, ← zpow_natCast, ← zpow_add₀ two_ne_zero]
  congr 1
  omega

/-- A multiple of a power of two to which a number is rounded among the multiples is rounded to among
all values of a format, if the number is so large that values with a lower exponent are below it. -/
theorem nearest_multiple {f : BinaryFormat} {m : Nat} {e : Int} {q : ℚ} (hp : 1 ≤ f.precision)
    (near : |(m : ℚ) - q / 2 ^ e| < 1 / 2 ∨ |(m : ℚ) - q / 2 ^ e| = 1 / 2 ∧ m % 2 = 0)
    (large : f.leastExponent < e → 2 ^ (e + f.precision - 1) ≤ q) {y : BinaryValue}
    (hy : f.Has y) :
    |(m : ℚ) * 2 ^ e - q| ≤ |y.value - q| ∧
      (|(m : ℚ) * 2 ^ e - q| = |y.value - q| → (m : ℚ) * 2 ^ e = y.value ∨ m % 2 = 0) := by
  have hpos : (0 : ℚ) < 2 ^ e := by positivity
  have hscale : ∀ k : Nat, |(k : ℚ) * 2 ^ e - q| = |(k : ℚ) - q / 2 ^ e| * 2 ^ e := by
    intro k
    rw [← abs_of_pos hpos, ← abs_mul, abs_of_pos hpos, sub_mul, div_mul_cancel₀ _ hpos.ne']
  rcases le_or_gt e y.exponent with he | he
  · rw [value_multiple he]
    generalize y.mantissa * 2 ^ (y.exponent - e).toNat = k
    obtain ⟨hle, heven⟩ := nearest_nat near k
    rw [hscale, hscale]
    refine ⟨by gcongr, fun heq => ?_⟩
    rcases heven (mul_right_cancel₀ hpos.ne' heq) with rfl | heven
    · exact .inl rfl
    · exact .inr heven
  · -- The power of two between the value and the number is nearer than the value.
    have hbelow := value_lt_of_exponent hy he
    have hlow := large (hy.2.trans_lt he)
    have hmiddle := zpow_full e hp
    have hnear := (nearest_nat near (2 ^ (f.precision - 1))).1
    have hle : |(m : ℚ) * 2 ^ e - q| ≤ q - 2 ^ (e + f.precision - 1) := by
      rw [hscale, hmiddle]
      calc |(m : ℚ) - q / 2 ^ e| * 2 ^ e
          ≤ |((2 ^ (f.precision - 1) : Nat) : ℚ) - q / 2 ^ e| * 2 ^ e := by gcongr
        _ = |((2 ^ (f.precision - 1) : Nat) : ℚ) * 2 ^ e - q| := (hscale _).symm
        _ = q - (2 ^ (f.precision - 1) : Nat) * 2 ^ e := by
          rw [abs_of_nonpos (by linarith), neg_sub]
    have hlt : |(m : ℚ) * 2 ^ e - q| < |y.value - q| := by
      rw [abs_of_neg (by linarith : y.value - q < 0)]
      linarith
    exact ⟨hlt.le, fun heq => absurd heq hlt.ne⟩

theorem rounds_zero (f : BinaryFormat) : f.Rounds 0 ⟨0, f.leastExponent⟩ := by
  have hvalue : (⟨0, f.leastExponent⟩ : BinaryValue).value = 0 := by simp [BinaryValue.value]
  refine ⟨⟨Nat.two_pow_pos _, le_refl _⟩, fun y _ => ?_, fun _ _ _ => .inr rfl⟩
  rw [hvalue, sub_zero, abs_zero]
  exact abs_nonneg _

theorem scaled_quotient (num : Nat) {den : Nat} (hden : 0 < den) (e : Int) :
    ((num * (powerRatio 2 e).2 : Nat) : ℚ) / (den * (powerRatio 2 e).1 : Nat) =
      num / den / 2 ^ e := by
  have hne : ((powerRatio 2 e).2 : ℚ) ≠ 0 := by exact_mod_cast (powerRatio_pos e).ne'
  have hdenne : (den : ℚ) ≠ 0 := by exact_mod_cast hden.ne'
  rw [Nat.cast_mul, Nat.cast_mul, powerRatio_eq]
  field_simp

theorem le_of_near {m k : Nat} {t : ℚ}
    (near : |(m : ℚ) - t| < 1 / 2 ∨ |(m : ℚ) - t| = 1 / 2 ∧ m % 2 = 0) (h : t < k) : m ≤ k := by
  have hhalf : |(m : ℚ) - t| ≤ 1 / 2 := by
    rcases near with near | near
    · exact near.le
    · exact near.1.le
  have hlt : (m : ℚ) < (k + 1 : Nat) := by
    rw [Nat.cast_succ]
    linarith [(abs_le.1 hhalf).2]
  exact Nat.le_of_lt_succ (by exact_mod_cast hlt)

/-- A mantissa that has become too large is halved, which does not change the value. -/
theorem value_carried {p : Nat} (e : Int) (hp : 1 ≤ p) :
    (⟨2 ^ (p - 1), e + 1⟩ : BinaryValue).value = (2 ^ p : Nat) * 2 ^ e := by
  have hdouble : 2 ^ p = 2 * 2 ^ (p - 1) := by
    rw [← Nat.pow_succ']
    congr 1
    omega
  rw [BinaryValue.value, hdouble, zpow_add₀ two_ne_zero, zpow_one]
  push_cast
  ring

theorem two_pow_even {p : Nat} (hp : 1 ≤ p) : 2 ^ p % 2 = 0 :=
  Nat.mod_eq_zero_of_dvd (dvd_pow_self 2 (by omega))

/-- Rounding takes a quotient to a value that is nearest to it, the even one of two. -/
theorem rounds_round (f : BinaryFormat) (hp : 2 ≤ f.precision) (num : Nat) {den : Nat}
    (hden : 0 < den) : f.Rounds (num / den) (f.round num den) := by
  by_cases hnum : num = 0
  · have hq : ((num : ℚ) / den) = 0 := by simp [hnum]
    rw [hq, round, if_pos hnum]
    exact f.rounds_zero
  obtain ⟨m, hm, hround⟩ := f.round_eq hnum den
  obtain ⟨hhigh, hlow⟩ := f.exponentFor_bounds hnum hden
  have hleast := f.leastExponent_le num den
  generalize f.exponentFor num den = e at hm hround hhigh hlow hleast
  have near : |(m : ℚ) - num / den / 2 ^ e| < 1 / 2 ∨
      |(m : ℚ) - num / den / 2 ^ e| = 1 / 2 ∧ m % 2 = 0 := by
    rw [← scaled_quotient num hden e, hm]
    exact nearestEven_near (Nat.mul_pos hden (Nat.two_pow_pos _))
  have hquotient : (num / den / 2 ^ e : ℚ) < (2 ^ f.precision : Nat) := by
    rw [div_lt_iff₀ (by positivity), Nat.cast_pow, Nat.cast_ofNat, ← zpow_natCast,
      ← zpow_add₀ two_ne_zero, add_comm]
    exact hhigh
  have hle := le_of_near near hquotient
  have hnearest := fun y hy => nearest_multiple (f := f) (y := y) (by omega) near hlow hy
  by_cases hfull : m = 2 ^ f.precision
  · rw [if_pos hfull] at hround
    have hvalue : (f.round num den).value = m * 2 ^ e := by
      rw [hround, hfull, value_carried e (by omega)]
    refine ⟨?_, fun y hy => ?_, fun _ _ _ => .inr ?_⟩
    · rw [hround]
      exact ⟨Nat.pow_lt_pow_right (by decide) (by omega), by simp only; omega⟩
    · rw [hvalue]
      exact (hnearest y hy).1
    · rw [hround]
      exact two_pow_even (by omega)
  · rw [if_neg hfull] at hround
    rw [hround]
    exact ⟨⟨lt_of_le_of_ne hle hfull, hleast⟩, fun y hy => (hnearest y hy).1,
      fun y hy => (hnearest y hy).2⟩

/-! ### Quotients and natural numbers -/

theorem ofNat_zero (f : BinaryFormat) : f.ofNat 0 = ⟨0, f.leastExponent⟩ := rfl

theorem div_ofNat_zero (f : BinaryFormat) (y : BinaryValue) :
    f.div (f.ofNat 0) y = ⟨0, f.leastExponent⟩ := by
  simp [div, ofNat_zero, BinaryValue.ratio, round]

/-- A quotient of two values is rounded once. -/
theorem rounds_div (f : BinaryFormat) (hp : 2 ≤ f.precision) (x : BinaryValue) {y : BinaryValue}
    (hy : 0 < y.value) : f.Rounds (x.value / y.value) (f.div x y) := by
  have hxr : (x.ratio.2 : ℚ) ≠ 0 := by exact_mod_cast x.ratio_pos.ne'
  have hyr : (0 : ℚ) < y.ratio.2 := by exact_mod_cast y.ratio_pos
  have hnum : (0 : ℚ) < y.ratio.1 := by
    rw [y.ratio_eq]
    positivity
  have hden : 0 < x.ratio.2 * y.ratio.1 := Nat.mul_pos x.ratio_pos (by exact_mod_cast hnum)
  have hq : x.value / y.value =
      ((x.ratio.1 * y.ratio.2 : Nat) : ℚ) / (x.ratio.2 * y.ratio.1 : Nat) := by
    rw [Nat.cast_mul, Nat.cast_mul, x.ratio_eq, y.ratio_eq]
    field_simp
  rw [hq]
  exact f.rounds_round hp _ hden

/-- A natural number is off by no more than what its bits below the precision amount to. -/
theorem ofNat_off (f : BinaryFormat) (hp : 2 ≤ f.precision) (hleast : f.leastExponent ≤ 0)
    (n : Nat) :
    |(f.ofNat n).value - n| ≤ (n % 2 ^ (Nat.log2 n + 1 - f.precision) : Nat) := by
  have hrounds : f.Rounds n (f.ofNat n) := by
    rw [ofNat, ← div_one (n : ℚ), ← Nat.cast_one]
    exact f.rounds_round hp n Nat.one_pos
  generalize hk : Nat.log2 n + 1 - f.precision = k
  have hcut : f.Has ⟨n / 2 ^ k, k⟩ := by
    refine ⟨?_, by simp only; omega⟩
    rw [Nat.div_lt_iff_lt_mul (Nat.two_pow_pos k), ← Nat.pow_add]
    exact Nat.lt_of_lt_of_le Nat.lt_log2_self (Nat.pow_le_pow_right (by decide) (by omega))
  have hvalue : (⟨n / 2 ^ k, k⟩ : BinaryValue).value - n = -((n % 2 ^ k : Nat) : ℚ) := by
    have hsplit : ((n / 2 ^ k * 2 ^ k + n % 2 ^ k : Nat) : ℚ) = n := by
      rw [Nat.div_add_mod']
    rw [BinaryValue.value, ← hsplit, zpow_natCast]
    push_cast
    ring
  have hnear := hrounds.nearest _ hcut
  rwa [hvalue, abs_neg, Nat.abs_cast] at hnear

/-- A natural number that fits in the mantissa is not changed. -/
theorem value_ofNat (f : BinaryFormat) (hp : 2 ≤ f.precision) (hleast : f.leastExponent ≤ 0)
    {n : Nat} (h : n < 2 ^ f.precision) : (f.ofNat n).value = n := by
  have hoff := f.ofNat_off hp hleast n
  have hbits : Nat.log2 n + 1 - f.precision = 0 := by
    by_cases hn : n = 0
    · rw [hn, Nat.log2_zero]
      omega
    · have := (Nat.log2_lt hn).2 h
      omega
  rw [hbits, Nat.pow_zero, Nat.mod_one, Nat.cast_zero] at hoff
  exact sub_eq_zero.1 (abs_nonpos_iff.1 hoff)

/-- A natural number of any size is changed by a small part of it. -/
theorem ofNat_near (f : BinaryFormat) (hp : 2 ≤ f.precision) (hleast : f.leastExponent ≤ 0)
    (n : Nat) : |(f.ofNat n).value - n| ≤ n / 2 ^ (f.precision - 1) := by
  refine (f.ofNat_off hp hleast n).trans ?_
  rw [le_div_iff₀ (by positivity)]
  by_cases hbits : Nat.log2 n + 1 ≤ f.precision
  · have hzero : Nat.log2 n + 1 - f.precision = 0 := by omega
    rw [hzero, Nat.pow_zero, Nat.mod_one, Nat.cast_zero, zero_mul]
    positivity
  · have hn : n ≠ 0 := by
      rintro rfl
      rw [Nat.log2_zero] at hbits
      omega
    have hle : n % 2 ^ (Nat.log2 n + 1 - f.precision) * 2 ^ (f.precision - 1) ≤ n :=
      calc n % 2 ^ (Nat.log2 n + 1 - f.precision) * 2 ^ (f.precision - 1)
          ≤ 2 ^ (Nat.log2 n + 1 - f.precision) * 2 ^ (f.precision - 1) :=
            Nat.mul_le_mul_right _ (Nat.mod_lt _ (Nat.two_pow_pos _)).le
        _ = 2 ^ Nat.log2 n := by
          rw [← Nat.pow_add]
          congr 1
          omega
        _ ≤ n := Nat.log2_self_le hn
    exact_mod_cast hle

/-! ### Comparing a rounded quotient -/

theorem full_mul_zpow {p m : Nat} (e : Int) (hp : 1 ≤ p) (hfull : 2 ^ (p - 1) ≤ m) :
    (2 : ℚ) ^ (e + p - 1) ≤ m * 2 ^ e := by
  rw [zpow_full e hp]
  gcongr

/-- There is no value between a full mantissa times a power of two and the next. -/
theorem le_of_lt_next {f : BinaryFormat} {x : BinaryValue} {m : Nat} {e : Int} (has : f.Has x)
    (hp : 1 ≤ f.precision) (hfull : 2 ^ (f.precision - 1) ≤ m)
    (h : x.value < ((m + 1 : Nat) : ℚ) * 2 ^ e) : x.value ≤ m * 2 ^ e := by
  rcases lt_or_ge x.exponent e with he | he
  · exact ((value_lt_of_exponent has he).trans_le (full_mul_zpow e hp hfull)).le
  · rw [value_multiple he] at h ⊢
    have hlt := lt_of_mul_lt_mul_right h (by positivity)
    gcongr
    exact Nat.le_of_lt_succ (by exact_mod_cast hlt)

/-- A full odd mantissa times a power of two has no even mantissa in any other spelling. -/
theorem odd_of_value_eq {f : BinaryFormat} {x : BinaryValue} {m : Nat} {e : Int} (has : f.Has x)
    (hp : 1 ≤ f.precision) (hfull : 2 ^ (f.precision - 1) ≤ m) (hodd : m % 2 = 1)
    (h : x.value = m * 2 ^ e) : x.mantissa % 2 = 1 := by
  rcases lt_or_ge x.exponent e with he | he
  · have hlt := (value_lt_of_exponent has he).trans_le (full_mul_zpow e hp hfull)
    exact absurd h hlt.ne
  · have hne : (2 : ℚ) ^ e ≠ 0 := zpow_ne_zero _ two_ne_zero
    rw [value_multiple he] at h
    have hm : x.mantissa * 2 ^ (x.exponent - e).toNat = m := by
      exact_mod_cast mul_right_cancel₀ hne h
    rw [← hm, Nat.mul_mod] at hodd
    rcases Nat.mod_two_eq_zero_or_one x.mantissa with heven | hodd'
    · rw [heven, Nat.zero_mul] at hodd
      cases hodd
    · exact hodd'

/-- A number is rounded to a value above a full odd mantissa times a power of two exactly if it is not
below the middle between that mantissa and the next. -/
theorem lt_rounded_iff {f : BinaryFormat} {q : ℚ} {x : BinaryValue} (h : f.Rounds q x) {m : Nat}
    {e : Int} (hp : 1 ≤ f.precision) (he : f.leastExponent ≤ e) (hfull : 2 ^ (f.precision - 1) ≤ m)
    (hfits : m + 1 < 2 ^ f.precision) (hodd : m % 2 = 1) :
    (m * 2 ^ e : ℚ) < x.value ↔ (m + 1 / 2) * 2 ^ e ≤ q := by
  have hpos : (0 : ℚ) < 2 ^ e := by positivity
  have hlow : |x.value - q| ≤ |m * 2 ^ e - q| := h.nearest ⟨m, e⟩ ⟨Nat.lt_of_succ_lt hfits, he⟩
  have hhigh : |x.value - q| ≤ |((m + 1 : Nat) : ℚ) * 2 ^ e - q| :=
    h.nearest ⟨m + 1, e⟩ ⟨hfits, he⟩
  have hnext : ((m + 1 : Nat) : ℚ) * 2 ^ e = m * 2 ^ e + 2 ^ e := by
    push_cast
    ring
  have hmiddle : ((m : ℚ) + 1 / 2) * 2 ^ e = m * 2 ^ e + 2 ^ e / 2 := by ring
  rw [hmiddle]
  constructor
  · intro hlt
    by_contra hq
    have hbelow : x.value < ((m + 1 : Nat) : ℚ) * 2 ^ e := by
      have hreach : x.value - q ≤ |m * 2 ^ e - q| := (le_abs_self _).trans hlow
      rw [hnext]
      rcases abs_cases ((m : ℚ) * 2 ^ e - q) with ⟨habs, _⟩ | ⟨habs, _⟩ <;> linarith
    exact absurd (le_of_lt_next h.has hp hfull hbelow) (not_le.2 hlt)
  · intro hq
    by_contra hle
    rw [not_lt] at hle
    -- The next mantissa is no farther from the number, so the tie is for the even one of the two.
    have hreach : |((m + 1 : Nat) : ℚ) * 2 ^ e - q| ≤ q - m * 2 ^ e := by
      rw [hnext, abs_le]
      constructor <;> linarith
    have hdistance : |x.value - q| = q - x.value := by
      rw [abs_sub_comm, abs_of_nonneg (by linarith)]
    have hequal : x.value = m * 2 ^ e := by linarith
    have heven := h.even ⟨m + 1, e⟩ ⟨hfits, he⟩ (by
      refine le_antisymm hhigh ?_
      rw [hdistance, hequal]
      exact hreach)
    rcases heven with hsame | heven
    · have hsame : x.value = ((m + 1 : Nat) : ℚ) * 2 ^ e := hsame
      linarith
    · have hodd' := odd_of_value_eq h.has hp hfull hodd hequal
      omega

end BinaryFormat

end CommitSearch.Number
