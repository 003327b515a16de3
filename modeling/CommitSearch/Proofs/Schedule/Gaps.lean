import CommitSearch.Proofs.Schedule.Firings
import CommitSearch.Proofs.Schedule.YearlyRules

/-!
# Skipped times of day

Where clocks are put forward, the local times in between are never shown, and a clock that was not
put forward would show them while the others show them later by the size of the gap. The refresh of
a day whose time of day falls into a gap is one hour later on the clock, whatever the size of the
gap. Main statement: it is later by that size only if the gap is of one hour, it is left out if one
hour does not lead out of the gap, and it is the next refresh from the day before on.
-/

namespace CommitSearch.Schedule

open CommitSearch.Calendar

/-! ### Offsets around a change -/

variable {size : Nat} {offset second t t' : Int} {changes : List Change}

theorem offsetAfter_congr (ht : t ≤ t') (none : ∀ c ∈ changes, c.second ≤ t ∨ t' < c.second) :
    Zone.offsetAfter offset t changes = Zone.offsetAfter offset t' changes := by
  induction changes generalizing offset with
  | nil => rfl
  | cons c rest ih =>
    rcases none c List.mem_cons_self with hle | hlt
    · rw [offsetAfter_cons_of_le hle, offsetAfter_cons_of_le (by omega)]
      exact ih fun c' hc' => none c' (List.mem_cons_of_mem _ hc')
    · rw [offsetAfter_cons_of_lt hlt, offsetAfter_cons_of_lt (by omega)]

theorem exists_change
    (h : Zone.offsetAfter offset (second - 1) changes ≠ Zone.offsetAfter offset second changes) :
    ∃ c ∈ changes, c.second = second := by
  by_contra hnone
  refine h (offsetAfter_congr (by omega) fun c hc => ?_)
  have hne : c.second ≠ second := fun heq => hnone ⟨c, hc, heq⟩
  omega

theorem Spaced.apart_of_lt (h : Spaced size offset changes) {c c' : Change} (hc : c ∈ changes)
    (hc' : c' ∈ changes) (hlt : c.second < c'.second) : c.second + 172800 ≤ c'.second := by
  induction changes generalizing offset with
  | nil => cases hc
  | cons d rest ih =>
    obtain ⟨hrest, -, hspaced⟩ := spaced_cons.1 h
    rcases List.mem_cons.1 hc with rfl | hmem
    · rcases List.mem_cons.1 hc' with rfl | hmem'
      · omega
      · exact hrest c' hmem'
    · rcases List.mem_cons.1 hc' with rfl | hmem'
      · have hbehind := hrest c hmem
        omega
      · exact ih hspaced hmem hmem'

/-- At no second does the offset change by more than the size of the changes. -/
theorem Spaced.change_le (h : Spaced size offset changes) (second : Int) :
    (Zone.offsetAfter offset second changes -
      Zone.offsetAfter offset (second - 1) changes).natAbs ≤ size := by
  induction changes generalizing offset with
  | nil => simp [Zone.offsetAfter]
  | cons c rest ih =>
    obtain ⟨hrest, hoffset, hspaced⟩ := spaced_cons.1 h
    rcases Int.lt_trichotomy second c.second with hlt | rfl | hlt
    · rw [offsetAfter_cons_of_lt hlt, offsetAfter_cons_of_lt (by omega)]
      omega
    · have hbehind : Zone.offsetAfter c.offset c.second rest = c.offset :=
        offsetAfter_of_before fun c' hc' => by have hle := hrest c' hc'; omega
      rwa [offsetAfter_cons_of_le (Int.le_refl _), offsetAfter_cons_of_lt (by omega), hbehind]
    · rw [offsetAfter_cons_of_le (by omega), offsetAfter_cons_of_le (by omega)]
      exact ih hspaced

variable {z : Zone}

/-- The offset behind a change holds for two days. -/
theorem Zone.IsSpaced.offsetAt_behind (spaced : z.IsSpaced)
    (change : z.offsetAt (second - 1) ≠ z.offsetAt second) (ht : second ≤ t)
    (hday : t < second + 172800) : z.offsetAt t = z.offsetAt second := by
  obtain ⟨c, hc, rfl⟩ := exists_change change
  refine (offsetAfter_congr ht fun c' hc' => ?_).symm
  by_contra hbetween
  have hapart := spaced.apart_of_lt hc hc' (by omega)
  omega

/-- The offset ahead of a change has held for two days. -/
theorem Zone.IsSpaced.offsetAt_ahead (spaced : z.IsSpaced)
    (change : z.offsetAt (second - 1) ≠ z.offsetAt second) (ht : t < second)
    (hday : second ≤ t + 172800) : z.offsetAt t = z.offsetAt (second - 1) := by
  obtain ⟨c, hc, rfl⟩ := exists_change change
  refine offsetAfter_congr (by omega) fun c' hc' => ?_
  by_contra hbetween
  have hapart := spaced.apart_of_lt hc' hc (by omega)
  omega

/-! ### Gaps -/

/-- Clocks are put forward by `gap` at a second, over a local time. -/
structure Zone.PutForward (z : Zone) (second gap localSecond : Int) : Prop where
  size : z.offsetAt second = z.offsetAt (second - 1) + gap
  reached : second + z.offsetAt (second - 1) ≤ localSecond
  passed : localSecond < second + z.offsetAt second

namespace Zone.PutForward

variable {gap localSecond localSecond' : Int}

theorem change (h : z.PutForward second gap localSecond) :
    z.offsetAt (second - 1) ≠ z.offsetAt second := by
  obtain ⟨-, reached, passed⟩ := h
  omega

theorem gap_le (h : z.PutForward second gap localSecond) (spaced : z.IsSpaced) : gap ≤ 86400 := by
  have hchange : (z.offsetAt second - z.offsetAt (second - 1)).natAbs ≤ 86400 :=
    spaced.change_le second
  have size := h.size
  omega

/-- Before clocks are put forward, they show less than the gap. -/
theorem shown_lt (h : z.PutForward second gap localSecond) (spaced : z.IsSpaced)
    (ht : t < second) : t + z.offsetAt t < second + z.offsetAt (second - 1) := by
  by_cases hday : second ≤ t + 172800
  · rw [spaced.offsetAt_ahead h.change ht hday]
    omega
  · have hquiet := spaced.offsetAt_ahead h.change (t := second - 172800) (by omega) (by omega)
    have hback : t + z.offsetAt t < second - 172800 + z.offsetAt (second - 172800) + 86400 :=
      spaced.set_back_lt (by omega) (by omega)
    omega

/-- Afterwards they show more than the gap. -/
theorem le_shown (h : z.PutForward second gap localSecond) (spaced : z.IsSpaced)
    (ht : second ≤ t) : second + z.offsetAt second ≤ t + z.offsetAt t := by
  by_cases hday : t < second + 172800
  · rw [spaced.offsetAt_behind h.change ht hday]
    omega
  · have hquiet := spaced.offsetAt_behind h.change (t := second + 172799) (by omega) (by omega)
    have hback : second + 172799 + z.offsetAt (second + 172799) < t + z.offsetAt t + 86400 :=
      spaced.set_back_lt (by omega) (by omega)
    omega

theorem skips (h : z.PutForward second gap localSecond) (spaced : z.IsSpaced) :
    z.Skips localSecond := by
  intro t shows
  have reached := h.reached
  have passed := h.passed
  by_cases ht : t < second
  · have hlt := h.shown_lt spaced ht
    omega
  · have hle := h.le_shown spaced (t := t) (by omega)
    omega

/-- Local times of the two days after the gap are shown with the offset behind it. -/
theorem firstShows_behind (h : z.PutForward second gap localSecond) (spaced : z.IsSpaced)
    (behind : second + z.offsetAt second ≤ localSecond')
    (near : localSecond' < second + z.offsetAt second + 172800) :
    z.FirstShows localSecond' (localSecond' - z.offsetAt second) := by
  have reached := h.reached
  have passed := h.passed
  constructor
  · have hoffset := spaced.offsetAt_behind h.change (t := localSecond' - z.offsetAt second)
      (by omega) (by omega)
    omega
  · intro t shows
    by_contra hearlier
    by_cases ht : t < second
    · have hlt := h.shown_lt spaced ht
      omega
    · rw [spaced.offsetAt_behind h.change (by omega) (by omega)] at shows
      omega

/-- Local times of the day before the gap are shown with the offset ahead of it. -/
theorem firstShows_ahead (h : z.PutForward second gap localSecond) (spaced : z.IsSpaced)
    (ahead : localSecond' < second + z.offsetAt (second - 1))
    (near : second + z.offsetAt (second - 1) ≤ localSecond' + 86400) :
    z.FirstShows localSecond' (localSecond' - z.offsetAt (second - 1)) := by
  constructor
  · have hoffset := spaced.offsetAt_ahead h.change (t := localSecond' - z.offsetAt (second - 1))
      (by omega) (by omega)
    omega
  · intro t shows
    by_contra hearlier
    by_cases hday : second ≤ t + 172800
    · rw [spaced.offsetAt_ahead h.change (by omega) hday] at shows
      omega
    · have hquiet := spaced.offsetAt_ahead h.change (t := second - 172800) (by omega) (by omega)
      have hback : t + z.offsetAt t < second - 172800 + z.offsetAt (second - 172800) + 86400 :=
        spaced.set_back_lt (by omega) (by omega)
      omega

end Zone.PutForward

/-! ### The refresh of a skipped time of day -/

namespace Daily

/-- The local time of the refresh of a day. -/
def wanted (d : Daily) (day : Int) : Int := day * 86400 + d.time.seconds

variable {d : Daily} {day gap : Int} {i now : Instant}

theorem firing_onTime (spaced : d.zone.IsSpaced) (shown : d.zone.FirstShows (d.wanted day) second) :
    d.firing day = some ⟨second, d.time.nanos⟩ :=
  firing_of_fires spaced.ascending (.onTime shown)

/-- One hour leads out of the gap. -/
theorem firing_behind (spaced : d.zone.IsSpaced)
    (forward : d.zone.PutForward second gap (d.wanted day))
    (behind : second + d.zone.offsetAt second ≤ d.wanted day + 3600) :
    d.firing day =
      some ⟨d.wanted day + 3600 - d.zone.offsetAt second, d.time.nanos % 1000000000⟩ := by
  have passed := forward.passed
  have shown := forward.firstShows_behind spaced behind (by omega)
  exact firing_of_fires spaced.ascending (.anHourLate (forward.skips spaced) shown)

/-- One hour does not lead out of the gap. -/
theorem firing_within (spaced : d.zone.IsSpaced)
    (forward : d.zone.PutForward second gap (d.wanted day))
    (within : d.wanted day + 3600 < second + d.zone.offsetAt second) : d.firing day = none := by
  have later : d.zone.PutForward second gap (d.wanted day + 3600) :=
    ⟨forward.size, Int.le_trans forward.reached (by omega), within⟩
  have honTime := (Zone.earliest_eq_none_iff spaced.ascending).2 (forward.skips spaced)
  have hlate := (Zone.earliest_eq_none_iff spaced.ascending).2 (later.skips spaced)
  rw [wanted] at honTime hlate
  simp only [firing, honTime, hlate]
  rfl

/-- The refresh of a day that has a gap is behind the gap. -/
theorem le_of_firing (spaced : d.zone.IsSpaced)
    (forward : d.zone.PutForward second gap (d.wanted day)) (h : d.firing day = some i) :
    second ≤ i.seconds := by
  by_cases behind : second + d.zone.offsetAt second ≤ d.wanted day + 3600
  · rw [firing_behind spaced forward behind] at h
    cases h
    dsimp only
    omega
  · rw [firing_within spaced forward (by omega)] at h
    cases h

/-- The day before a gap has its refresh one day before the skipped time would be shown with the
offset ahead of the gap, and the day after it one day later than with the offset behind it. -/
theorem firing_around (spaced : d.zone.IsSpaced)
    (forward : d.zone.PutForward second gap (d.wanted day)) :
    d.firing (day - 1) =
        some ⟨d.wanted day - 86400 - d.zone.offsetAt (second - 1), d.time.nanos⟩ ∧
      d.firing (day + 1) =
        some ⟨d.wanted day + 86400 - d.zone.offsetAt second, d.time.nanos⟩ := by
  have hgap := forward.gap_le spaced
  have hyesterday : d.wanted (day - 1) = d.wanted day - 86400 := by
    rw [wanted, wanted]
    omega
  have htomorrow : d.wanted (day + 1) = d.wanted day + 86400 := by
    rw [wanted, wanted]
    omega
  obtain ⟨size, reached, passed⟩ := id forward
  constructor
  · refine firing_onTime spaced ?_
    rw [hyesterday]
    exact forward.firstShows_ahead spaced (by omega) (by omega)
  · refine firing_onTime spaced ?_
    rw [htomorrow]
    exact forward.firstShows_behind spaced (by omega) (by omega)

/-- Of two days with the same refreshes to come, the first that has one. -/
theorem nextFrom_two {fuel : Nat} (today : ∀ i, d.firing day = some i → now.before i = true)
    {tomorrow : Instant} (ht : d.firing (day + 1) = some tomorrow)
    (later : now.before tomorrow = true) :
    d.nextFrom now day (fuel + 2) = (d.firing day <|> d.firing (day + 1)) := by
  cases hfiring : d.firing day with
  | some i => simp [nextFrom, hfiring, today i hfiring]
  | none => simp [nextFrom, hfiring, ht, later]

/-- From a day before the skipped time on, the next refresh is that of the day with the gap, or of
the day after it. -/
theorem next_of_ahead (spaced : d.zone.IsSpaced) (time : d.time.seconds < 86400)
    (forward : d.zone.PutForward second gap (d.wanted day)) (ahead : now.seconds < second)
    (near : d.wanted day - d.zone.offsetAt (second - 1) < now.seconds + 86400) :
    d.next now = (d.firing day <|> d.firing (day + 1)) := by
  obtain ⟨hyesterday, htomorrow⟩ := firing_around spaced forward
  have hgap := forward.gap_le spaced
  obtain ⟨size, reached, passed⟩ := id forward
  have hoffset := spaced.offsetAt_ahead forward.change ahead (by omega)
  have htoday : ∀ i, d.firing day = some i → now.before i = true := fun i hi =>
    Instant.before_of_seconds_lt (Int.lt_of_lt_of_le ahead (le_of_firing spaced forward hi))
  have hlater : now.before ⟨d.wanted day + 86400 - d.zone.offsetAt second, d.time.nanos⟩ = true :=
    Instant.before_of_seconds_lt (by dsimp only; omega)
  have hlocal : d.zone.localDay now.seconds = day ∨ d.zone.localDay now.seconds = day - 1 := by
    rw [Zone.localDay, dayOfSecond, hoffset]
    rw [wanted] at near reached
    omega
  rcases hlocal with hday | hday
  · rw [next, hday]
    exact nextFrom_two htoday htomorrow hlater
  · rw [next, hday, nextFrom_succ_of_not, Int.sub_add_cancel]
    · exact nextFrom_two htoday htomorrow hlater
    · intro i hi
      rw [hyesterday] at hi
      cases hi
      exact Instant.not_before_of_before (Instant.before_of_seconds_lt (by dsimp only; omega))

/-- The refresh is as much later as clocks are put forward only if they are put forward by an hour. -/
theorem moved_by_gap_iff (spaced : d.zone.IsSpaced)
    (forward : d.zone.PutForward second gap (d.wanted day)) :
    (∃ i, d.firing day = some i ∧ d.zone.FirstShows (d.wanted day + gap) i.seconds) ↔
      gap = 3600 := by
  have size := forward.size
  have reached := forward.reached
  by_cases behind : second + d.zone.offsetAt second ≤ d.wanted day + 3600
  · have hfiring := firing_behind spaced forward behind
    have passed := forward.passed
    have shown := forward.firstShows_behind spaced behind (by omega)
    constructor
    · rintro ⟨i, hi, hshown⟩
      obtain rfl := Option.some.inj (hfiring.symm.trans hi)
      have hshows := shown.shows
      have hshows' := hshown.shows
      dsimp only at hshows'
      omega
    · rintro rfl
      exact ⟨_, hfiring, shown⟩
  · have hfiring := firing_within spaced forward (by omega)
    constructor
    · rintro ⟨i, hi, -⟩
      cases hfiring.symm.trans hi
    · intro hour
      omega

/-- Where clocks are put forward over the time of day of a local day, it is not shown on that day.
The refresh is where they show one hour more, if that is behind the gap, and there is none otherwise.
What comes next from a day before the skipped time on is that refresh, or that of the next day. -/
theorem skipped_refresh (spaced : d.zone.IsSpaced) (time : d.time.seconds < 86400)
    (forward : d.zone.PutForward second gap (d.wanted day)) :
    d.zone.Skips (d.wanted day) ∧
    d.zone.FirstShows (d.wanted day + gap) (d.wanted day - d.zone.offsetAt (second - 1)) ∧
    (second + d.zone.offsetAt second ≤ d.wanted day + 3600 →
      ∃ i, d.firing day = some i ∧ i.nanos = d.time.nanos % 1000000000 ∧
        d.zone.FirstShows (d.wanted day + 3600) i.seconds) ∧
    (d.wanted day + 3600 < second + d.zone.offsetAt second → d.firing day = none) ∧
    ((∃ i, d.firing day = some i ∧ d.zone.FirstShows (d.wanted day + gap) i.seconds) ↔
      gap = 3600) ∧
    (∃ i, d.firing (day + 1) = some i) ∧
    ∀ now : Instant, now.seconds < second →
      d.wanted day - d.zone.offsetAt (second - 1) < now.seconds + 86400 →
      d.next now = (d.firing day <|> d.firing (day + 1)) := by
  have hgap := forward.gap_le spaced
  obtain ⟨size, reached, passed⟩ := id forward
  refine ⟨forward.skips spaced, ?_, fun behind => ?_, firing_within spaced forward,
    moved_by_gap_iff spaced forward, ⟨_, (firing_around spaced forward).2⟩,
    fun now ahead near => next_of_ahead spaced time forward ahead near⟩
  · have hsame : d.wanted day + gap - d.zone.offsetAt second =
        d.wanted day - d.zone.offsetAt (second - 1) := by omega
    rw [← hsame]
    exact forward.firstShows_behind spaced (by omega) (by omega)
  · exact ⟨_, firing_behind spaced forward behind, rfl,
      forward.firstShows_behind spaced behind (by omega)⟩

/-- A quarter past two on Lord Howe Island, where clocks go from two to half past two in October. -/
def islandNight : Daily :=
  ⟨⟨2, 15, 0, 0⟩, YearlyRule.zone ⟨2010, 37800, 39600, ⟨10, 1, 0, 7200⟩, ⟨4, 1, 0, 7200⟩⟩⟩

theorem islandNight_named : Zone.ofName "Australia/Lord_Howe" = some islandNight.zone := by rfl

/-- The quarter past two of the fourth of October 2020 is skipped. -/
theorem islandNight_putForward :
    islandNight.zone.PutForward 1601739000 1800 (islandNight.wanted 18539) := by
  constructor <;> decide +kernel

/-- The refresh of that night comes at a quarter past three. -/
theorem skipped_refresh_island :
    Zone.ofName "Australia/Lord_Howe" = some islandNight.zone ∧ islandNight.zone.IsSpaced ∧
      islandNight.time.seconds < 86400 ∧
      islandNight.zone.PutForward 1601739000 1800 (islandNight.wanted 18539) ∧
      islandNight.zone.Skips (islandNight.wanted 18539) ∧
      ∃ i, islandNight.next (.ofSeconds 1601738000) = some i ∧
        islandNight.zone.FirstShows (islandNight.wanted 18539 + 3600) i.seconds := by
  have spaced := spaced_of_ofName islandNight_named
  have time : islandNight.time.seconds < 86400 := by decide
  obtain ⟨skips, -, hbehind, -, -, -, hnext⟩ := skipped_refresh spaced time islandNight_putForward
  obtain ⟨i, hfiring, -, shown⟩ := hbehind (by decide +kernel)
  refine ⟨islandNight_named, spaced, time, islandNight_putForward, skips, i, ?_, shown⟩
  rw [hnext (.ofSeconds 1601738000) (by decide) (by decide +kernel), hfiring]
  rfl

/-- The rule of the station Troll, where clocks go from one to three in March. -/
def stationRule : YearlyRule := ⟨2010, 0, 7200, ⟨3, 5, 0, 3600⟩, ⟨10, 5, 0, 10800⟩⟩

def stationNight : Daily := ⟨⟨1, 30, 0, 0⟩, stationRule.zone⟩

/-- The refresh is not as much later as clocks are put forward: on the island it comes half an hour
late, also for who asks a quarter of an hour before, and at the station it does not come at all. -/
theorem refresh_not_moved_by_gap :
    (Zone.ofName "Australia/Lord_Howe" = some islandNight.zone ∧
      islandNight.zone.PutForward 1601739000 1800 (islandNight.wanted 18539) ∧
      islandNight.zone.FirstShows (islandNight.wanted 18539 + 1800) 1601739900 ∧
      islandNight.next (.ofSeconds 1601738000) = some (.ofSeconds 1601741700) ∧
      ¬ ∃ i, islandNight.firing 18539 = some i ∧
        islandNight.zone.FirstShows (islandNight.wanted 18539 + 1800) i.seconds) ∧
    (stationRule ∈ yearlyZones.map Prod.fst ∧
      stationNight.zone.PutForward 1616893200 7200 (stationNight.wanted 18714) ∧
      stationNight.firing 18714 = none) := by
  have listed : stationRule ∈ yearlyZones.map Prod.fst := by decide +kernel
  have plain : stationRule.IsPlain := by decide
  have spaced := spaced_of_ofName islandNight_named
  have forward : stationNight.zone.PutForward 1616893200 7200 (stationNight.wanted 18714) := by
    constructor <;> decide +kernel
  have hsecond : islandNight.wanted 18539 + 1800 - islandNight.zone.offsetAt 1601739000 =
      1601739900 := by decide +kernel
  have shown : islandNight.zone.FirstShows (islandNight.wanted 18539 + 1800) 1601739900 :=
    hsecond ▸ islandNight_putForward.firstShows_behind spaced (by decide +kernel)
      (by decide +kernel)
  refine ⟨⟨islandNight_named, islandNight_putForward, shown, by decide +kernel, fun moved => ?_⟩,
    listed, forward, firing_within plain.spaced forward (by decide +kernel)⟩
  have hour := (moved_by_gap_iff spaced islandNight_putForward).1 moved
  omega

end Daily
end CommitSearch.Schedule
