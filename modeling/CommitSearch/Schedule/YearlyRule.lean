import CommitSearch.Schedule.Zone

/-!
# Yearly rules for daylight saving time

In many zones the offset changes twice a year, on days given by month, week and day of the week. The
rule of such a zone is expanded into its changes, year by year, to the end of the century.
-/

namespace CommitSearch.Schedule

open CommitSearch.Calendar

/-- A day of the year given by its month, its week in the month (five for the last) and its day of
the week (zero for Sunday), and the local second of that day. -/
structure YearDay where
  month : Nat
  week : Nat
  weekday : Nat
  second : Int
deriving DecidableEq, Repr

/-- From a year on, a saving offset between two days of the year and a standard offset otherwise. -/
structure YearlyRule where
  firstYear : Nat
  standard : Int
  saving : Int
  begins : YearDay
  ends : YearDay
deriving DecidableEq, Repr

/-- A zone with changes of its own, followed by a yearly rule or by none. -/
structure ChangedZone where
  initial : Int
  history : List (Int × Int)
  rule : Option YearlyRule
  names : List String
deriving Repr

/-- The day of the week of a day, zero for Sunday. -/
def weekdayOf (day : Int) : Nat := ((day + 4) % 7).toNat

/-- The local second of a day of the year in a year. -/
def YearDay.secondIn (d : YearDay) (year : Int) : Int :=
  let first := (⟨year, d.month, 1⟩ : Day).number
  let inWeek := (d.weekday + 7 - weekdayOf first) % 7
  let offset := inWeek + 7 * (d.week - 1)
  let offset := if monthLength year d.month ≤ offset then offset - 7 else offset
  (first + offset) * 86400 + d.second

namespace YearlyRule

def changesIn (r : YearlyRule) (year : Int) : List Change :=
  let begins : Change := ⟨r.begins.secondIn year - r.standard, r.saving⟩
  let ends : Change := ⟨r.ends.secondIn year - r.saving, r.standard⟩
  if begins.second < ends.second then [begins, ends] else [ends, begins]

def lastYear : Nat := 2099

def changes (r : YearlyRule) : List Change :=
  (List.range (lastYear + 1 - r.firstYear)).flatMap fun n => r.changesIn (r.firstYear + n : Nat)

/-- The offset at the beginning of a year: saving time south of the equator. -/
def atNewYear (r : YearlyRule) : Int :=
  if r.begins.month < r.ends.month then r.standard else r.saving

/-- The zone that follows the rule from its first year on. -/
def zone (r : YearlyRule) : Zone := ⟨r.atNewYear, r.changes⟩

end YearlyRule

def ChangedZone.zone (z : ChangedZone) : Zone where
  initial := z.initial
  changes := (z.history.map fun (second, offset) => ⟨second, offset⟩) ++
    (match z.rule with
    | some r => r.changes
    | none => [])

end CommitSearch.Schedule
