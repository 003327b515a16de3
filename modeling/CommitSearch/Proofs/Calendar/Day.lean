import CommitSearch.Calendar.Day

/-!
# Days and their numbers

The date of a number exists, and its number is that number. The years of an era are found by a
division that is right at the first and at the last day of each year, which is checked, and so on all
days between, since it is monotone.
-/

namespace CommitSearch.Calendar

/-! ### Years of an era -/

/-- The number of leap-year corrected days by which the year of an era is found. -/
def evenDays (dayOfEra : Int) : Int :=
  dayOfEra - dayOfEra / 1460 + dayOfEra / 36524 - dayOfEra / 146096

/-- The first day of a year of an era. -/
def yearStart (year : Int) : Int := 365 * year + year / 4 - year / 100

/-- The last day of a year of an era; the last year of all has a leap day. -/
def yearEnd (year : Int) : Int := if year = 399 then 146096 else yearStart (year + 1) - 1

theorem evenDays_mono {a b : Int} (h : a ≤ b) : evenDays a ≤ evenDays b := by
  unfold evenDays
  omega

theorem evenDays_ends : ((List.range 400).all fun year =>
    evenDays (yearStart year) / 365 == year && evenDays (yearEnd year) / 365 == year) = true := by
  decide +kernel

theorem exists_year {dayOfEra : Int} (h0 : 0 ≤ dayOfEra) (h1 : dayOfEra < 146097) :
    ∃ year : Nat, year < 400 ∧ yearStart year ≤ dayOfEra ∧ dayOfEra ≤ yearEnd year := by
  have below : ∀ count : Nat, count < 400 → dayOfEra < yearStart count →
      ∃ year : Nat, year < count ∧ yearStart year ≤ dayOfEra ∧ dayOfEra < yearStart (year + 1) := by
    intro count
    induction count with
    | zero =>
      intro _ h
      simp only [yearStart] at h
      omega
    | succ count ih =>
      intro hc h
      by_cases hlt : dayOfEra < yearStart count
      · obtain ⟨year, hy, hs, he⟩ := ih (by omega) hlt
        exact ⟨year, by omega, hs, he⟩
      · exact ⟨count, by omega, by omega, h⟩
  by_cases hlast : yearStart 399 ≤ dayOfEra
  · exact ⟨399, by omega, hlast, by simp only [yearEnd]; omega⟩
  · obtain ⟨year, hy, hs, he⟩ := below 399 (by omega) (by simpa using hlast)
    refine ⟨year, by omega, hs, ?_⟩
    rw [yearEnd, if_neg (by omega)]
    omega

/-- The year of an era that the division finds for a day holds that day. -/
theorem year_spec {dayOfEra year : Int} (h0 : 0 ≤ dayOfEra) (h1 : dayOfEra < 146097)
    (hy : year = evenDays dayOfEra / 365) :
    0 ≤ year ∧ year < 400 ∧ yearStart year ≤ dayOfEra ∧ dayOfEra ≤ yearEnd year := by
  obtain ⟨y, hlt, hs, he⟩ := exists_year h0 h1
  have hends := List.all_eq_true.1 evenDays_ends y (List.mem_range.2 hlt)
  rw [Bool.and_eq_true, beq_iff_eq, beq_iff_eq] at hends
  have hlow := evenDays_mono hs
  have hhigh := evenDays_mono he
  have hyear : year = y := by omega
  subst hyear
  exact ⟨by omega, by omega, hs, he⟩

/-! ### Dates -/

/-- The number of a day by the year that begins in March, its era, and the day of that year. -/
structure MarchDay (n era year dayOfYear : Int) : Prop where
  number_eq : n = era * 146097 + (yearStart year + dayOfYear) - 719468
  year_nonneg : 0 ≤ year
  year_lt : year < 400
  day_nonneg : 0 ≤ dayOfYear
  day_le : yearStart year + dayOfYear ≤ yearEnd year

theorem MarchDay.day_lt {n era year d : Int} (h : MarchDay n era year d) : d ≤ 365 := by
  have hle := h.day_le
  have h0 := h.year_nonneg
  have h1 := h.year_lt
  unfold yearEnd yearStart at hle
  split at hle <;> omega

/-- Only a year that ends with a leap day has 366 days. -/
theorem MarchDay.isLeapYear {n era year : Int} (h : MarchDay n era year 365) :
    isLeapYear (year + era * 400 + 1) = true := by
  have hle := h.day_le
  have h0 := h.year_nonneg
  have h1 := h.year_lt
  simp only [Calendar.isLeapYear, Bool.and_eq_true, Bool.or_eq_true, beq_iff_eq, bne_iff_ne]
  unfold yearEnd yearStart at hle
  split at hle <;> omega

def marchMonth (dayOfYear : Int) : Int := (5 * dayOfYear + 2) / 153

theorem marchMonth_spec {d : Int} (h0 : 0 ≤ d) (h1 : d ≤ 365) :
    0 ≤ marchMonth d ∧ marchMonth d ≤ 11 ∧ (153 * marchMonth d + 2) / 5 ≤ d ∧
      d < (153 * (marchMonth d + 1) + 2) / 5 := by
  unfold marchMonth
  omega

/-- Every month but February is as long as the years that begin in March have it. -/
theorem monthLength_march {m : Int} (h0 : 0 ≤ m) (h1 : m < 11) (year : Int) :
    (153 * (m + 1) + 2) / 5 - (153 * m + 2) / 5 =
      monthLength year (if m < 10 then m + 3 else m - 9).toNat := by
  have hm : m = 0 ∨ m = 1 ∨ m = 2 ∨ m = 3 ∨ m = 4 ∨ m = 5 ∨ m = 6 ∨ m = 7 ∨ m = 8 ∨ m = 9 ∨
      m = 10 := by omega
  rcases hm with rfl | rfl | rfl | rfl | rfl | rfl | rfl | rfl | rfl | rfl | rfl <;> rfl

theorem exists_marchDay (n : Int) : ∃ era year d, MarchDay n era year d ∧
    Day.ofNumber n =
      ⟨if marchMonth d < 10 then year + era * 400 else year + era * 400 + 1,
        (if marchMonth d < 10 then marchMonth d + 3 else marchMonth d - 9).toNat,
        (d - (153 * marchMonth d + 2) / 5 + 1).toNat⟩ := by
  have h0 : 0 ≤ (n + 719468) % 146097 := by omega
  have h1 : (n + 719468) % 146097 < 146097 := by omega
  obtain ⟨hy0, hy1, hs, he⟩ := year_spec h0 h1 rfl
  have hm : MarchDay n ((n + 719468) / 146097) (evenDays ((n + 719468) % 146097) / 365)
      ((n + 719468) % 146097 - yearStart (evenDays ((n + 719468) % 146097) / 365)) :=
    ⟨by omega, hy0, hy1, by omega, by omega⟩
  refine ⟨_, _, _, hm, ?_⟩
  have hd := marchMonth_spec hm.day_nonneg hm.day_lt
  have hshift : n - -719468 = n + 719468 := by omega
  simp only [Day.ofNumber, eraStart, daysPerEra, hshift]
  rw [← evenDays, ← yearStart, ← marchMonth]
  by_cases hmonth : marchMonth ((n + 719468) % 146097 -
      yearStart (evenDays ((n + 719468) % 146097) / 365)) < 10
  · rw [if_pos hmonth, if_pos hmonth, if_neg (by omega)]
  · rw [if_neg hmonth, if_neg hmonth, if_pos (by omega)]

theorem number_ofNumber (n : Int) : (Day.ofNumber n).number = n := by
  obtain ⟨era, year, d, hm, he⟩ := exists_marchDay n
  obtain ⟨hm0, hm11, hlow, hhigh⟩ := marchMonth_spec hm.day_nonneg hm.day_lt
  have hn := hm.number_eq
  have hy0 := hm.year_nonneg
  have hy1 := hm.year_lt
  rw [he]
  simp only [Day.number, daysPerEra, eraStart]
  generalize marchMonth d = month at *
  unfold yearStart at hn
  by_cases hmonth : month < 10
  · simp only [if_pos hmonth]
    rw [if_neg (by omega), if_neg (by omega)]
    omega
  · simp only [if_neg hmonth]
    rw [if_pos (by omega), if_pos (by omega)]
    omega

theorem isValid_ofNumber {n : Int} (h : isCalendarYear (Day.ofNumber n).year = true) :
    (Day.ofNumber n).isValid = true := by
  obtain ⟨era, year, d, hm, he⟩ := exists_marchDay n
  obtain ⟨hm0, hm11, hlow, hhigh⟩ := marchMonth_spec hm.day_nonneg hm.day_lt
  have hd := hm.day_lt
  rw [he] at h ⊢
  simp only [Day.isValid, Bool.and_eq_true, decide_eq_true_eq]
  refine ⟨⟨⟨⟨h, ?_⟩, ?_⟩, ?_⟩, ?_⟩
  · split <;> omega
  · split <;> omega
  · omega
  · by_cases hmonth : marchMonth d < 11
    · have hlen := monthLength_march hm0 hmonth
        (if marchMonth d < 10 then year + era * 400 else year + era * 400 + 1)
      omega
    · have hfeb : marchMonth d = 11 := by omega
      rw [hfeb] at hlow ⊢
      simp only [Int.reduceLT, if_false, Int.reduceSub, Int.reduceToNat, monthLength, if_true]
      by_cases hleap : d = 365
      · subst hleap
        rw [hm.isLeapYear]
        decide
      · split <;> omega

end CommitSearch.Calendar
