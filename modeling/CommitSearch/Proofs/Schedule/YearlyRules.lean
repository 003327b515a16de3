import CommitSearch.Proofs.Schedule.LocalTime
import CommitSearch.Schedule

/-!
# Changes of the named zones

The two changes of a yearly rule come in their months, give or take a few days, so that they stay
apart when the months do, year after year. What a zone has of changes before its rule is checked one
by one, up to the first year of the rule. Main statement: the changes that the tables hold for a name,
those of 2010 to 2099, are at least two days apart, each of one day at most.
-/

namespace CommitSearch.Schedule

open CommitSearch.Calendar

/-! ### Months -/

/-- The number of the first day of a month, where months are counted from March of the year zero. -/
def monthStart (i : Int) : Int :=
  i / 12 * 365 + i / 12 / 4 - i / 12 / 100 + i / 12 / 400 + (153 * (i % 12) + 2) / 5 - 719468

theorem number_first {year : Int} {month : Nat} (low : 1 ≤ month) (high : month ≤ 12) :
    (⟨year, month, 1⟩ : Day).number = monthStart (12 * year + month - 3) := by
  simp only [Day.number, monthStart, daysPerEra, eraStart]
  by_cases hmonth : month ≤ 2
  · have hyear : (12 * year + month - 3) / 12 = year - 1 := by omega
    have hrest : (12 * year + month - 3) % 12 = month + 9 := by omega
    rw [if_pos hmonth, if_pos hmonth, hyear, hrest]
    omega
  · have hyear : (12 * year + month - 3) / 12 = year := by omega
    have hrest : (12 * year + month - 3) % 12 = month - 3 := by omega
    rw [if_neg hmonth, if_neg hmonth, hyear, hrest]
    omega

theorem monthStart_apart {i j : Int} (h : i + 2 ≤ j) : monthStart i + 50 ≤ monthStart j := by
  unfold monthStart
  omega

/-- Whether a change comes in a month, give or take three days. -/
def Change.InMonth (c : Change) (i : Int) : Prop :=
  (monthStart i - 3) * 86400 ≤ c.second ∧ c.second ≤ (monthStart i + 37) * 86400

theorem Change.InMonth.apart {c c' : Change} {i j : Int} (h : c.InMonth i) (h' : c'.InMonth j)
    (months : i + 2 ≤ j) : c.second + 172800 ≤ c'.second := by
  have hstarts := monthStart_apart months
  unfold InMonth at h h'
  omega

/-! ### Rules -/

/-- A day of the year that exists, with a time of day that the offset shifts by three days at most. -/
structure YearDay.IsPlain (d : YearDay) (offset : Int) : Prop where
  month_pos : 1 ≤ d.month
  month_le : d.month ≤ 12
  week_le : d.week ≤ 5
  shift_le : (d.second - offset).natAbs ≤ 259200

theorem YearDay.IsPlain.inMonth {d : YearDay} {offset : Int} (h : d.IsPlain offset) (year : Int)
    (after : Int) : (⟨d.secondIn year - offset, after⟩ : Change).InMonth (12 * year + d.month - 3) := by
  have hweek := h.week_le
  have hshift := h.shift_le
  unfold Change.InMonth secondIn
  rw [number_first h.month_pos h.month_le]
  generalize monthStart (12 * year + d.month - 3) = first
  have hweekday : (d.weekday + 7 - weekdayOf first) % 7 < 7 := Nat.mod_lt _ (by decide)
  generalize (d.weekday + 7 - weekdayOf first) % 7 = inWeek at hweekday ⊢
  dsimp only
  split <;> omega

instance (d : YearDay) (offset : Int) : Decidable (d.IsPlain offset) :=
  decidable_of_iff (1 ≤ d.month ∧ d.month ≤ 12 ∧ d.week ≤ 5 ∧ (d.second - offset).natAbs ≤ 259200)
    ⟨fun ⟨low, high, week, shift⟩ => ⟨low, high, week, shift⟩,
      fun ⟨low, high, week, shift⟩ => ⟨low, high, week, shift⟩⟩

namespace YearlyRule

/-- The months of a rule's days, in the order of the year. -/
def early (r : YearlyRule) : Nat := min r.begins.month r.ends.month

def late (r : YearlyRule) : Nat := max r.begins.month r.ends.month

/-- A rule whose months are apart in the year and over its end. -/
structure IsPlain (r : YearlyRule) : Prop where
  begins : r.begins.IsPlain r.standard
  ends : r.ends.IsPlain r.saving
  apart : r.early + 2 ≤ r.late
  apart_next : r.late ≤ r.early + 10
  small : (r.saving - r.standard).natAbs ≤ 86400

instance (r : YearlyRule) : Decidable r.IsPlain :=
  decidable_of_iff (r.begins.IsPlain r.standard ∧ r.ends.IsPlain r.saving ∧ r.early + 2 ≤ r.late ∧
      r.late ≤ r.early + 10 ∧ (r.saving - r.standard).natAbs ≤ 86400)
    ⟨fun ⟨begins, ends, apart, next, small⟩ => ⟨begins, ends, apart, next, small⟩,
      fun ⟨begins, ends, apart, next, small⟩ => ⟨begins, ends, apart, next, small⟩⟩

variable {r : YearlyRule}

/-- The two changes of a year, of which the second brings back the offset of its beginning. -/
theorem IsPlain.changesIn_eq (h : r.IsPlain) (year : Int) :
    ∃ c c', r.changesIn year = [c, c'] ∧ c.InMonth (12 * year + r.early - 3) ∧
      c'.InMonth (12 * year + r.late - 3) ∧ (c.offset - r.atNewYear).natAbs ≤ 86400 ∧
      c'.offset = r.atNewYear := by
  have hbegins := h.begins.inMonth year r.saving
  have hends := h.ends.inMonth year r.standard
  have hapart := h.apart
  have hsmall := h.small
  by_cases horder : r.begins.month < r.ends.month
  · have hearly : r.early = r.begins.month := by rw [early]; omega
    have hlate : r.late = r.ends.month := by rw [late]; omega
    rw [hearly, hlate] at hapart ⊢
    have hlater := hbegins.apart hends (by omega)
    refine ⟨_, _, ?_, hbegins, hends, ?_, ?_⟩
    · exact if_pos (by dsimp only at hlater ⊢; omega)
    · rwa [atNewYear, if_pos horder]
    · rw [atNewYear, if_pos horder]
  · have hearly : r.early = r.ends.month := by rw [early]; omega
    have hlate : r.late = r.begins.month := by rw [late]; omega
    rw [hearly, hlate] at hapart ⊢
    have hlater := hends.apart hbegins (by omega)
    refine ⟨_, _, ?_, hends, hbegins, ?_, ?_⟩
    · exact if_neg (by dsimp only at hlater ⊢; omega)
    · rw [atNewYear, if_neg horder]
      dsimp only
      omega
    · rw [atNewYear, if_neg horder]

/-- The changes of a number of years from one year on. -/
def changesFrom (r : YearlyRule) (year count : Nat) : List Change :=
  (List.range count).flatMap fun n => r.changesIn (year + n : Nat)

theorem changesFrom_succ (r : YearlyRule) (year count : Nat) :
    r.changesFrom year (count + 1) = r.changesIn year ++ r.changesFrom (year + 1) count := by
  rw [changesFrom, List.range_succ_eq_map, List.flatMap_cons, List.flatMap_map, changesFrom]
  refine congrArg _ (List.flatMap_congr fun n _ => ?_)
  have hyear : year + n.succ = year + 1 + n := by omega
  rw [hyear]

/-- Year after year, the changes of a rule come later and are apart. -/
theorem IsPlain.spaced_from (h : r.IsPlain) (year count : Nat) :
    Spaced 86400 r.atNewYear (r.changesFrom year count) ∧
      ∀ c ∈ r.changesFrom year count, ∃ i, 12 * (year : Int) + r.early - 3 ≤ i ∧ c.InMonth i := by
  induction count generalizing year with
  | zero => exact ⟨⟨.nil, .singleton _⟩, nofun⟩
  | succ count ih =>
    obtain ⟨hspaced, hmonths⟩ := ih (year + 1)
    obtain ⟨c, c', hchanges, hc, hc', hsmall, hback⟩ := h.changesIn_eq year
    have hapart := h.apart
    have hnext := h.apart_next
    rw [changesFrom_succ, hchanges]
    rw [← hback] at hspaced
    have hbehind : ∀ {d : Change} {i : Int}, d.InMonth i → i ≤ 12 * (year : Int) + r.late - 3 →
        ∀ d' ∈ r.changesFrom (year + 1) count, d.second + 172800 ≤ d'.second := by
      intro d i hd hi d' hd'
      obtain ⟨j, hj, hmonth⟩ := hmonths d' hd'
      exact hd.apart hmonth (by omega)
    constructor
    · refine spaced_cons.2 ⟨fun d hd => ?_, hsmall, spaced_cons.2 ⟨?_, ?_, hspaced⟩⟩
      · rcases List.mem_cons.1 hd with rfl | hd
        · exact hc.apart hc' (by omega)
        · exact hbehind hc (by omega) d hd
      · exact hbehind hc' (by omega)
      · rw [hback]
        omega
    · intro d hd
      rcases List.mem_cons.1 hd with rfl | hd
      · exact ⟨_, by omega, hc⟩
      · rcases List.mem_cons.1 hd with rfl | hd
        · exact ⟨_, by omega, hc'⟩
        · obtain ⟨j, hj, hmonth⟩ := hmonths d hd
          exact ⟨j, by omega, hmonth⟩

theorem IsPlain.spaced (h : r.IsPlain) : r.zone.IsSpaced :=
  (h.spaced_from r.firstYear (lastYear + 1 - r.firstYear)).1

end YearlyRule

/-! ### Zones with changes of their own -/

/-- Changes that overlap with spaced ones are spaced on the whole. -/
theorem spaced_overlap {size : Nat} {offset offset' : Int} {a b c : List Change} (hb : b ≠ [])
    (h : Spaced size offset (a ++ b)) (h' : Spaced size offset' (b ++ c)) :
    Spaced size offset (a ++ (b ++ c)) := by
  obtain ⟨x, b, rfl⟩ := List.exists_cons_of_ne_nil hb
  obtain ⟨hrest, -, hspaced⟩ := spaced_cons.1 h'
  induction a generalizing offset with
  | nil =>
    obtain ⟨-, hsmall, -⟩ := spaced_cons.1 h
    exact spaced_cons.2 ⟨hrest, hsmall, hspaced⟩
  | cons y a ih =>
    obtain ⟨hbehind, hsmall, h⟩ := spaced_cons.1 h
    refine spaced_cons.2 ⟨fun d hd => ?_, hsmall, ih h⟩
    have hx := hbehind x (by simp)
    rcases List.mem_append.1 hd with hd | hd
    · exact hbehind d (List.mem_append_left _ hd)
    · rcases List.mem_cons.1 hd with rfl | hd
      · exact hx
      · have hd := hrest d hd
        omega

/-- Whether each change is far enough from the one before it and not too large. -/
def isSpacedAfter (size : Nat) (offset : Int) : List Change → Bool
  | [] => true
  | [c] => decide ((c.offset - offset).natAbs ≤ size)
  | c :: next :: rest =>
    decide ((c.offset - offset).natAbs ≤ size) && decide (c.second + 172800 ≤ next.second) &&
      isSpacedAfter size c.offset (next :: rest)

theorem spaced_of_isSpacedAfter {size : Nat} {offset : Int} {changes : List Change}
    (h : isSpacedAfter size offset changes = true) : Spaced size offset changes := by
  induction changes generalizing offset with
  | nil => exact ⟨.nil, .singleton offset⟩
  | cons c rest ih =>
    cases rest with
    | nil =>
      simp only [isSpacedAfter, decide_eq_true_eq] at h
      exact spaced_cons.2 ⟨nofun, h, .nil, .singleton c.offset⟩
    | cons next rest =>
      simp only [isSpacedAfter, Bool.and_eq_true, decide_eq_true_eq] at h
      obtain ⟨⟨hsize, hnext⟩, hrest⟩ := h
      have hspaced := ih hrest
      refine spaced_cons.2 ⟨fun c' hc' => ?_, hsize, hspaced⟩
      rcases List.mem_cons.1 hc' with rfl | hc'
      · exact hnext
      · have hlater := (spaced_cons.1 hspaced).1 c' hc'
        omega

/-- Whether the changes of a zone up to the first year of its rule are spaced, and the rule is
plain. -/
def ChangedZone.isPlain (z : ChangedZone) : Bool :=
  let history := z.history.map fun (second, offset) => (⟨second, offset⟩ : Change)
  match z.rule with
  | none => isSpacedAfter 86400 z.initial history
  | some r => decide r.IsPlain && decide (r.firstYear ≤ YearlyRule.lastYear) &&
      isSpacedAfter 86400 z.initial (history ++ r.changesIn r.firstYear)

theorem ChangedZone.spaced_of_isPlain {z : ChangedZone} (h : z.isPlain = true) :
    z.zone.IsSpaced := by
  unfold isPlain at h
  unfold Zone.IsSpaced zone
  cases hrule : z.rule with
  | none =>
    rw [hrule] at h
    simpa only [List.append_nil] using spaced_of_isSpacedAfter h
  | some r =>
    rw [hrule] at h
    simp only [Bool.and_eq_true, decide_eq_true_eq] at h
    obtain ⟨⟨hplain, hyear⟩, hhistory⟩ := h
    obtain ⟨count, hcount⟩ : ∃ count, YearlyRule.lastYear + 1 - r.firstYear = count + 1 :=
      ⟨YearlyRule.lastYear - r.firstYear, by omega⟩
    obtain ⟨c, c', hfirst, -⟩ := hplain.changesIn_eq r.firstYear
    have hchanges : r.changes = r.changesIn r.firstYear ++ r.changesFrom (r.firstYear + 1) count := by
      rw [← YearlyRule.changesFrom_succ, ← hcount]
      rfl
    have hrule := (hplain.spaced_from r.firstYear (count + 1)).1
    rw [YearlyRule.changesFrom_succ] at hrule
    dsimp only
    rw [hchanges]
    exact spaced_overlap (by simp [hfirst]) (spaced_of_isSpacedAfter hhistory) hrule

/-! ### Named zones -/

theorem yearlyZones_plain : ∀ entry ∈ yearlyZones, entry.1.IsPlain := by decide +kernel

theorem changedZones_plain : changedZones.all ChangedZone.isPlain = true := by decide +kernel

/-- Every zone that has a name is spaced, as far as the tables go. Nothing is said of the changes
before 2010, which they leave out. -/
theorem spaced_of_ofName {name : String} {z : Zone} (h : Zone.ofName name = some z) :
    z.IsSpaced := by
  unfold Zone.ofName at h
  split at h
  · cases h
    exact ⟨.nil, .singleton _⟩
  · split at h
    · next hfound =>
      cases h
      exact (yearlyZones_plain _ (List.mem_of_find?_eq_some hfound)).spaced
    · obtain ⟨changed, hfound, rfl⟩ := Option.map_eq_some_iff.1 h
      exact ChangedZone.spaced_of_isPlain
        (List.all_eq_true.1 changedZones_plain _ (List.mem_of_find?_eq_some hfound))

end CommitSearch.Schedule
