/-!
# Instants

A point in time is counted in seconds from the beginning of 1970, UTC, with a fraction in
nanoseconds. A fraction of a whole second or more marks a leap second: it lies behind the named
second and before the next.
-/

namespace CommitSearch.Calendar

/-- A point in time; `nanos` is below two thousand million. -/
structure Instant where
  seconds : Int
  nanos : Nat
deriving DecidableEq, Repr, Inhabited

namespace Instant

def ofSeconds (seconds : Int) : Instant := ⟨seconds, 0⟩

def before (a b : Instant) : Bool :=
  a.seconds < b.seconds || (a.seconds == b.seconds && a.nanos < b.nanos)

def isWhole (a : Instant) : Bool := a.nanos == 0

def leastSecond : Int := -8334601228800

def greatestSecond : Int := 8210266876799

def isLegalSecond (seconds : Int) : Bool := leastSecond ≤ seconds && seconds ≤ greatestSecond

theorem before_irrefl (a : Instant) : a.before a = false := by
  simp [before]

theorem before_trans {a b c : Instant} (h : a.before b = true) (g : b.before c = true) :
    a.before c = true := by
  simp only [before, Bool.or_eq_true, Bool.and_eq_true, decide_eq_true_eq, beq_iff_eq] at *
  omega

theorem before_total (a b : Instant) : a.before b = true ∨ a = b ∨ b.before a = true := by
  obtain ⟨s, n⟩ := a
  obtain ⟨t, m⟩ := b
  simp only [before, Bool.or_eq_true, Bool.and_eq_true, decide_eq_true_eq, beq_iff_eq,
    Instant.mk.injEq]
  omega

theorem before_of_seconds_lt {a b : Instant} (h : a.seconds < b.seconds) : a.before b = true := by
  simp [before, h]

theorem not_before_of_before {a b : Instant} (h : a.before b = true) : b.before a = false := by
  refine Bool.eq_false_iff.2 fun hba => ?_
  have hirr := before_trans h hba
  rw [before_irrefl] at hirr
  cases hirr

theorem eq_of_not_before {a b : Instant} (h : a.before b = false) (g : b.before a = false) :
    a = b := by
  rcases before_total a b with hab | rfl | hba
  · rw [h] at hab
    cases hab
  · rfl
  · rw [g] at hba
    cases hba

end Instant
end CommitSearch.Calendar
