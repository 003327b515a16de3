import CommitSearch.Calendar.Cursor
import CommitSearch.Proofs.Calendar.Day
import Mathlib.Algebra.Group.Nat.Defs

/-!
# Cursor texts are read back

The cursor of an instant of the first ten thousand years is read as that instant without its
fraction. A leap second stays one.
-/

namespace CommitSearch.Calendar

/-! ### Digits -/

theorem readFixed_digits {ds : List Char} (h : ∀ c ∈ ds, c.isDigit = true) (n : Nat)
    (rest : List Char) :
    readFixed ds.length n (ds ++ rest) = .ok (Nat.ofDigitChars 10 ds n, rest) := by
  induction ds generalizing n with
  | nil => rfl
  | cons c ds ih =>
    have hc := h c List.mem_cons_self
    simp only [List.length_cons, List.cons_append, readFixed, hc, if_true, Nat.ofDigitChars_cons]
    exact ih (fun d hd => h d (List.mem_cons_of_mem c hd)) _

theorem length_paddedDigits {width n : Nat} (hw : 0 < width) (hn : n < 10 ^ width) :
    (paddedDigits width n).length = width := by
  have hlen := (Nat.length_toDigits_le_iff (by decide) hw).2 hn
  simp only [paddedDigits, List.length_append, List.length_replicate]
  omega

theorem isDigit_of_mem_paddedDigits {width n : Nat} {c : Char} (h : c ∈ paddedDigits width n) :
    c.isDigit = true := by
  rcases List.mem_append.1 h with h | h
  · rw [(List.mem_replicate.1 h).2]
    rfl
  · exact Nat.isDigit_of_mem_toDigits (by decide) (by decide) h

theorem ofDigitChars_paddedDigits (width n : Nat) :
    Nat.ofDigitChars 10 (paddedDigits width n) 0 = n := by
  simp [paddedDigits, Nat.ofDigitChars_append]

theorem readFixed_paddedDigits {width n : Nat} (hw : 0 < width) (hn : n < 10 ^ width)
    (rest : List Char) : readFixed width 0 (paddedDigits width n ++ rest) = .ok (n, rest) := by
  have hd : ∀ c ∈ paddedDigits width n, c.isDigit = true := fun _ => isDigit_of_mem_paddedDigits
  have h := readFixed_digits hd 0 rest
  rwa [length_paddedDigits hw hn, ofDigitChars_paddedDigits] at h

/-! ### Date and time -/

theorem writeYear_eq {year : Int} (h0 : 0 ≤ year) (h1 : year ≤ 9999) :
    writeYear year = paddedDigits 4 year.toNat := by
  rw [writeYear, if_pos ⟨h0, h1⟩]

theorem monthLength_le (year : Int) (month : Nat) : monthLength year month ≤ 31 := by
  unfold monthLength
  split
  · split <;> omega
  · split <;> omega

theorem readCursorDay_written {d : Day} (hv : d.isValid = true) (h0 : 0 ≤ d.year)
    (h1 : d.year ≤ 9999) (rest : List Char) :
    readCursorDay (writeYear d.year ++ ('-' :: (paddedDigits 2 d.month ++
      ('-' :: (paddedDigits 2 d.day ++ rest))))) = .ok (d, rest) := by
  have hbounds := hv
  simp only [Day.isValid, Bool.and_eq_true, decide_eq_true_eq] at hbounds
  have hlen := monthLength_le d.year d.month
  have hyear : ((d.year.toNat : Nat) : Int) = d.year := by omega
  rw [writeYear_eq h0 h1, readCursorDay, readFixed_paddedDigits (by decide) (by omega)]
  simp only [bind, Except.bind, readMark, if_true]
  rw [readFixed_paddedDigits (by decide) (by omega)]
  simp only [if_true]
  rw [readFixed_paddedDigits (by decide) (by omega)]
  simp only [hyear, hv, if_true]
  rfl

/-- An instant of which a second can be written: a leap second follows second fifty-nine. -/
def Instant.IsClockTime (i : Instant) : Prop :=
  i.nanos < 1000000000 ∨ (secondOfDay i.seconds % 60 = 59 ∧ i.nanos < 2000000000)

/-- An instant without its fraction, where a leap second counts as a whole one. -/
def Instant.floor (i : Instant) : Instant :=
  ⟨i.seconds, if i.nanos < 1000000000 then 0 else 1000000000⟩

theorem secondOfDay_lt (seconds : Int) : secondOfDay seconds < 86400 := by
  unfold secondOfDay
  omega

theorem readCursorTime_written {i : Instant} (h : i.IsClockTime) {rest : List Char}
    (hrest : rest.head? ≠ some '.') :
    readCursorTime (paddedDigits 2 (secondOfDay i.seconds / 3600) ++
      (':' :: (paddedDigits 2 (secondOfDay i.seconds / 60 % 60) ++
        (':' :: (paddedDigits 2 i.writtenSecond ++ rest))))) =
      .ok ((secondOfDay i.seconds, i.floor.nanos), rest) := by
  have hs := secondOfDay_lt i.seconds
  have hw : i.writtenSecond ≤ 60 := by
    unfold Instant.writtenSecond
    split <;> omega
  have hfraction : readFraction rest = .ok (0, rest) := by
    unfold readFraction
    split
    · simp at hrest
    · rfl
  rw [readCursorTime, readFixed_paddedDigits (by decide) (by omega)]
  simp only [bind, Except.bind, readMark, if_true]
  rw [readFixed_paddedDigits (by decide) (by omega)]
  simp only [if_true]
  rw [readFixed_paddedDigits (by decide) (by omega)]
  simp only [hfraction]
  rw [if_pos ⟨by omega, by omega, hw⟩]
  simp only [Instant.floor, Instant.writtenSecond, pure, Except.pure, Except.ok.injEq,
    Prod.mk.injEq, and_true]
  rcases h with h | ⟨h59, h⟩
  · simp only [h, if_true]
    rw [if_neg (by omega)]
    omega
  · split <;> split <;> omega

theorem byteLength_ge (cs : List Char) : cs.length ≤ byteLength cs := by
  induction cs with
  | nil => exact Nat.zero_le _
  | cons c rest ih =>
    have hc := Char.utf8Size_pos c
    simp only [byteLength, List.length_cons, List.foldr_cons] at *
    omega

/-! ### Instants -/

def Instant.year (i : Instant) : Int := (Day.ofNumber (dayOfSecond i.seconds)).year

theorem isValid_date {i : Instant} (h0 : 0 ≤ i.year) (h1 : i.year ≤ 9999) :
    (Day.ofNumber (dayOfSecond i.seconds)).isValid = true := by
  refine isValid_ofNumber ?_
  unfold Instant.year at h0 h1
  simp only [isCalendarYear, Bool.and_eq_true, decide_eq_true_eq]
  omega

theorem length_cursorChars (i : Instant) : 19 ≤ i.cursorChars.length := by
  have hdigits : ∀ width n, width ≤ (paddedDigits width n).length := by
    intro width n
    simp only [paddedDigits, List.length_append, List.length_replicate]
    omega
  have hyear : 4 ≤ (writeYear (Day.ofNumber (dayOfSecond i.seconds)).year).length := by
    unfold writeYear
    split
    · exact hdigits 4 _
    · exact Nat.le_succ_of_le (hdigits 4 _)
  have hmonth := hdigits 2 (Day.ofNumber (dayOfSecond i.seconds)).month
  have hday := hdigits 2 (Day.ofNumber (dayOfSecond i.seconds)).day
  have hhour := hdigits 2 (secondOfDay i.seconds / 3600)
  have hminute := hdigits 2 (secondOfDay i.seconds / 60 % 60)
  have hsecond := hdigits 2 i.writtenSecond
  simp only [Instant.cursorChars, List.length_append, List.length_cons, List.length_nil]
  omega

theorem byteLength_cursorChars (i : Instant) : ¬ byteLength i.cursorChars < 19 := by
  have hchars := length_cursorChars i
  have hbytes := byteLength_ge i.cursorChars
  omega

/-- The cursor of an instant of the years 0 to 9999 is read as that instant without its fraction. -/
theorem readCursor_cursor {i : Instant} (h0 : 0 ≤ i.year) (h1 : i.year ≤ 9999)
    (h : i.IsClockTime) : Instant.readCursor i.cursor = .ok i.floor := by
  have hv := isValid_date h0 h1
  unfold Instant.year at h0 h1
  have hnumber := number_ofNumber (dayOfSecond i.seconds)
  rw [Instant.readCursor, Instant.cursor, String.toList_ofList,
    if_neg (byteLength_cursorChars i)]
  simp only [Instant.cursorChars, List.append_assoc, List.cons_append]
  rw [readCursorDay_written hv h0 h1]
  simp only [bind, Except.bind, readTimeMark, true_or, if_true]
  rw [readCursorTime_written h (by simp)]
  simp only [readZone, true_or, if_true, readEnd]
  rw [if_neg (by decide), hnumber]
  simp only [pure, Except.pure, Except.ok.injEq, Instant.floor, Instant.mk.injEq, and_true]
  unfold dayOfSecond secondOfDay
  omega

theorem readCursor_cursor_of_whole {i : Instant} (h0 : 0 ≤ i.year) (h1 : i.year ≤ 9999)
    (hw : i.isWhole = true) : Instant.readCursor i.cursor = .ok i := by
  have hn : i.nanos = 0 := by simpa [Instant.isWhole] using hw
  have h := readCursor_cursor h0 h1 (.inl (by omega))
  rw [h, Instant.floor, hn]
  exact congrArg _ (congrArg (Instant.mk i.seconds) hn.symm)

/-! ### Years that are written with a sign -/

/-- The last sixty days of an era, from the beginning of January, are those of its last year. -/
theorem MarchDay.last_days {n era year d : Int} (h : MarchDay n era year d) :
    year = 399 ∧ 306 ≤ d ↔ 146037 ≤ yearStart year + d := by
  have hle := h.day_le
  have hy0 := h.year_nonneg
  have hy1 := h.year_lt
  by_cases hlast : year = 399
  · subst hlast
    simp only [yearStart, true_and]
    omega
  · rw [yearEnd, if_neg hlast] at hle
    have hstart : yearStart (year + 1) ≤ 145731 := by
      unfold yearStart
      omega
    omega

/-- The first and the last second of the years 0 to 9999. -/
theorem Instant.year_iff (i : Instant) :
    (0 ≤ i.year ∧ i.year ≤ 9999) ↔ (-62167219200 ≤ i.seconds ∧ i.seconds ≤ 253402300799) := by
  obtain ⟨era, year, d, hm, he⟩ := exists_marchDay (dayOfSecond i.seconds)
  have hlast := hm.last_days
  have hn := hm.number_eq
  have hy0 := hm.year_nonneg
  have hy1 := hm.year_lt
  have hyear : i.year = if d < 306 then year + era * 400 else year + era * 400 + 1 := by
    rw [Instant.year, he]
    have hmonth : marchMonth d < 10 ↔ d < 306 := by
      unfold marchMonth
      omega
    simp only [hmonth]
  have hday : 0 ≤ yearStart year + d ∧ yearStart year + d ≤ 146096 := by
    have hd0 := hm.day_nonneg
    have hle := hm.day_le
    have hend : yearEnd year ≤ 146096 := by
      unfold yearEnd yearStart
      split <;> omega
    have hstart : 0 ≤ yearStart year := by
      unfold yearStart
      omega
    omega
  rw [hyear]
  unfold dayOfSecond at hn
  generalize yearStart year + d = day at *
  split <;> omega

/-- A cursor that begins with a sign cannot be read. -/
theorem readCursor_cursor_signed {i : Instant} (h : ¬ (0 ≤ i.year ∧ i.year ≤ 9999)) :
    Instant.readCursor i.cursor = .error .invalid := by
  have hday : ∀ rest, readCursorDay (writeYear i.year ++ rest) = .error .invalid := by
    intro rest
    rw [writeYear, if_neg h]
    split <;> rfl
  rw [Instant.readCursor, Instant.cursor, String.toList_ofList, if_neg (byteLength_cursorChars i)]
  unfold Instant.year at hday
  simp only [Instant.cursorChars, List.append_assoc, hday]
  rfl

end CommitSearch.Calendar
