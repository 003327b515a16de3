import CommitSearch.Proofs.Calendar.Cursor
import CommitSearch.Request

/-!
# Dates of cursors

A cursor begins with the date of its instant, four digits of a year and two each of a month and a
day. Read as a day, these ten characters stand for the midnight before the instant.
-/

namespace CommitSearch.Calendar

open CommitSearch.Text

/-! ### Digits -/

theorem not_blank_of_isDigit {c : Char} (h : c.isDigit = true) : isBlank c = false := by
  rw [Bool.eq_false_iff]
  intro hblank
  obtain ⟨b, hb, hlow, hhigh⟩ := CodeRanges.exists_of_covers hblank
  have hdigit : 48 ≤ c.toNat ∧ c.toNat ≤ 57 := Char.isDigit_iff_toNat.1 h
  have hapart : ∀ b ∈ blankRanges, b.2 < 48 ∨ 57 < b.1 := by decide
  have := hapart b hb
  omega

theorem le_ofDigitChars (ds : List Char) (n : Nat) : n ≤ Nat.ofDigitChars 10 ds n := by
  induction ds generalizing n with
  | nil => exact Nat.le_refl n
  | cons c ds ih =>
    have hrest := ih (10 * n + (c.toNat - '0'.toNat))
    rw [Nat.ofDigitChars_cons]
    omega

theorem readDigits_digits {ds : List Char} (h : ∀ c ∈ ds, c.isDigit = true) {n : Nat}
    (hn : Nat.ofDigitChars 10 ds n < 2 ^ 63) (begun : Bool) (rest : List Char) :
    readDigits ds.length begun n (ds ++ rest) = .ok (Nat.ofDigitChars 10 ds n, rest) := by
  induction ds generalizing n begun with
  | nil => rfl
  | cons c ds ih =>
    have hc := h c List.mem_cons_self
    rw [Nat.ofDigitChars_cons] at hn ⊢
    have hlt : 10 * n + (c.toNat - '0'.toNat) < Nat.pow 2 63 :=
      Nat.lt_of_le_of_lt (le_ofDigitChars ds _) hn
    simp only [List.length_cons, List.cons_append, readDigits, hc, if_true]
    rw [if_pos hlt]
    exact ih (fun d hd => h d (List.mem_cons_of_mem c hd)) hn true

theorem readDigits_paddedDigits {width n : Nat} (hw : 0 < width) (hn : n < 10 ^ width)
    (hbound : n < 2 ^ 63) (rest : List Char) :
    readDigits width false 0 (paddedDigits width n ++ rest) = .ok (n, rest) := by
  have hd : ∀ c ∈ paddedDigits width n, c.isDigit = true := fun _ => isDigit_of_mem_paddedDigits
  have hvalue := ofDigitChars_paddedDigits width n
  have h := readDigits_digits hd (n := 0) (by rwa [hvalue]) false rest
  rwa [length_paddedDigits hw hn, hvalue] at h

theorem exists_paddedDigits {width n : Nat} (hw : 0 < width) (hn : n < 10 ^ width) :
    ∃ c ds, paddedDigits width n = c :: ds ∧ c.isDigit = true := by
  have hlen := length_paddedDigits hw hn
  cases hds : paddedDigits width n with
  | nil =>
    rw [hds, List.length_nil] at hlen
    omega
  | cons c ds =>
    have hc : c ∈ paddedDigits width n := hds ▸ List.mem_cons_self
    exact ⟨c, ds, rfl, isDigit_of_mem_paddedDigits hc⟩

theorem trimStart_paddedDigits {width n : Nat} (hw : 0 < width) (hn : n < 10 ^ width)
    (rest : List Char) :
    trimStart (paddedDigits width n ++ rest) = paddedDigits width n ++ rest := by
  obtain ⟨c, ds, hds, hc⟩ := exists_paddedDigits hw hn
  have hblank := not_blank_of_isDigit hc
  simp [hds, trimStart, hblank]

theorem readNumber_paddedDigits {n low high : Nat} (hlow : low ≤ n) (hhigh : n ≤ high)
    (hn : n < 100) (rest : List Char) :
    readNumber 2 low high (paddedDigits 2 n ++ rest) = .ok (n, rest) := by
  rw [readNumber, trimStart_paddedDigits (by decide) hn,
    readDigits_paddedDigits (by decide) hn (by omega)]
  simp only [bind, Except.bind]
  rw [if_pos ⟨hlow, hhigh⟩]
  rfl

theorem readSignedYear_paddedDigits {n : Nat} (hn : n < 10 ^ 4) (rest : List Char) :
    readSignedYear (paddedDigits 4 n ++ rest) = .ok ((n : Int), rest) := by
  have hread := readDigits_paddedDigits (by decide) hn (by omega) rest
  obtain ⟨c, ds, hds, hc⟩ := exists_paddedDigits (by decide) hn
  rw [hds, List.cons_append] at hread ⊢
  unfold readSignedYear
  split
  · next heq =>
    rw [(List.cons.inj heq).1] at hc
    cases hc
  · next heq =>
    rw [(List.cons.inj heq).1] at hc
    cases hc
  · rw [hread]
    rfl

theorem readYear_written {year : Int} (h0 : 0 ≤ year) (h1 : year ≤ 9999) (rest : List Char) :
    readYear (writeYear year ++ rest) = .ok (year, rest) := by
  have hn : year.toNat < 10 ^ 4 := by omega
  have hyear : ((year.toNat : Nat) : Int) = year := by omega
  have hrange : -2147483648 ≤ year ∧ year < 2147483648 := by omega
  have hsigned := readSignedYear_paddedDigits hn rest
  rw [hyear] at hsigned
  rw [writeYear_eq h0 h1, readYear, trimStart_paddedDigits (by decide) hn, hsigned]
  simp only [bind, Except.bind, if_pos hrange, pure, Except.pure]

/-! ### Days -/

/-- A date of the years 0 to 9999 as it is written. -/
def Day.dateChars (d : Day) : List Char :=
  writeYear d.year ++ '-' :: (paddedDigits 2 d.month ++ '-' :: paddedDigits 2 d.day)

theorem read_dateChars {d : Day} (hv : d.isValid = true) (h0 : 0 ≤ d.year) (h1 : d.year ≤ 9999) :
    Day.read (String.ofList d.dateChars) = .ok d := by
  have hbounds := hv
  simp only [Day.isValid, Bool.and_eq_true, decide_eq_true_eq] at hbounds
  have hlen := monthLength_le d.year d.month
  rw [Day.read, String.toList_ofList, Day.dateChars, readYear_written h0 h1]
  simp only [bind, Except.bind, readMark, if_true]
  rw [readNumber_paddedDigits (by omega) (by omega) (by omega)]
  simp only [if_true]
  rw [← List.append_nil (paddedDigits 2 d.day),
    readNumber_paddedDigits (by omega) (by omega) (by omega)]
  simp only [readEnd, hv, if_true]
  rfl

theorem length_dateChars {d : Day} (hv : d.isValid = true) (h0 : 0 ≤ d.year)
    (h1 : d.year ≤ 9999) : d.dateChars.length = 10 := by
  simp only [Day.isValid, Bool.and_eq_true, decide_eq_true_eq] at hv
  have hlen := monthLength_le d.year d.month
  rw [Day.dateChars, writeYear_eq h0 h1]
  simp only [List.length_append, List.length_cons]
  rw [length_paddedDigits (by decide) (by omega), length_paddedDigits (by decide) (by omega),
    length_paddedDigits (by decide) (by omega)]

theorem take_cursor {i : Instant} (h0 : 0 ≤ i.year) (h1 : i.year ≤ 9999) :
    i.cursor.toList.take 10 = (Day.ofNumber (dayOfSecond i.seconds)).dateChars := by
  have hlen := length_dateChars (isValid_date h0 h1) h0 h1
  obtain ⟨time, htime⟩ : ∃ time,
      i.cursorChars = (Day.ofNumber (dayOfSecond i.seconds)).dateChars ++ time := by
    simp only [Instant.cursorChars, Day.dateChars, List.append_assoc, List.cons_append]
    exact ⟨_, rfl⟩
  rw [Instant.cursor, String.toList_ofList, htime, ← hlen, List.take_left]

/-! ### Date texts -/

/-- The midnight with which the day of an instant begins. -/
def Instant.midnight (i : Instant) : Instant := .ofSeconds (86400 * (i.seconds / 86400))

/-- The cursor of an instant of the years 0 to 9999 is read as that instant without its fraction,
and the date with which it begins as the midnight of its day. -/
theorem cursor_and_date_read {i : Instant} (h0 : 0 ≤ i.year) (h1 : i.year ≤ 9999)
    (h : i.IsClockTime) :
    readCursor i.cursor = .ok i.floor ∧
      readBound (String.ofList (i.cursor.toList.take 10)) = .ok (some i.midnight) := by
  have hvalid := isValid_date h0 h1
  have hread := read_dateChars hvalid h0 h1
  have hgiven : (String.ofList (i.cursor.toList.take 10)).isEmpty = false := by
    have hlen := length_dateChars hvalid h0 h1
    rw [← take_cursor h0 h1] at hlen
    rw [Bool.eq_false_iff, Ne, String.isEmpty_iff, String.ofList_eq_empty_iff]
    intro hnil
    rw [hnil] at hlen
    cases hlen
  have hmidnight : (Day.ofNumber (dayOfSecond i.seconds)).start = i.midnight := by
    rw [Day.start, number_ofNumber, dayOfSecond, Instant.midnight, Int.mul_comm]
  constructor
  · rw [readCursor, readCursor_cursor h0 h1 h]
  · rw [readBound, hgiven, take_cursor h0 h1, hread, ← hmidnight]
    rfl

/-- A leap second in the middle of which the leap day of a century ends. -/
theorem cursor_and_date_read_leap :
    let i : Instant := ⟨-11670912001, 1500000000⟩
    i.cursor = "1600-02-29T23:59:60Z" ∧ readCursor i.cursor = .ok ⟨-11670912001, 1000000000⟩ ∧
      readBound "1600-02-29" = .ok (some ⟨-11670998400, 0⟩) := by
  intro i
  have hcursor : i.cursor = "1600-02-29T23:59:60Z" := by decide
  have hread := cursor_and_date_read (i := i) (by decide) (by decide) (.inr (by decide))
  have hdate : String.ofList (i.cursor.toList.take 10) = "1600-02-29" := by
    rw [hcursor]
    decide
  rw [hdate] at hread
  exact ⟨hcursor, hread⟩

end CommitSearch.Calendar
