import CommitSearch.Proofs.Json.Reading
import CommitSearch.Proofs.Schedule.LocalTime
import CommitSearch.Schedule.Rounds

/-!
# Days and their refreshes

A local day has one refresh at most: at the first instant at which its time of day is shown, or, if it
is never shown, one hour later on the clock. In a regular zone the refreshes follow each other in the
order of their days, one of two days in a row has one, and no refresh is further than the day after
its own. Main statement: the next refresh is the first one after an instant of all days from its own
on, and asking for the next over and over leaves out no day that has one and comes to none twice.
-/

namespace CommitSearch.Schedule

open CommitSearch.Calendar

/-! ### Times of day that are read -/

theorem le_of_readNumber {width low high n : Nat} {cs rest : List Char}
    (h : readNumber width low high cs = .ok (n, rest)) : n ≤ high := by
  obtain ⟨⟨m, more⟩, -, h⟩ := ok_of_bind h
  by_cases hbounds : low ≤ m ∧ m ≤ high
  · simp only [if_pos hbounds] at h
    cases h
    exact hbounds.2
  · simp only [if_neg hbounds] at h
    cases h

/-- A time of day that is read from a text is less than a day. -/
theorem seconds_lt_of_read {s : String} {t : TimeOfDay} (h : TimeOfDay.read s = .ok t) :
    t.seconds < 86400 := by
  obtain ⟨⟨hour, _⟩, hhour, h⟩ := ok_of_bind h
  obtain ⟨_, -, h⟩ := ok_of_bind h
  obtain ⟨⟨minute, _⟩, hminute, h⟩ := ok_of_bind h
  obtain ⟨_, -, h⟩ := ok_of_bind h
  have hhour := le_of_readNumber hhour
  have hminute := le_of_readNumber hminute
  cases h
  simp only [TimeOfDay.seconds]
  omega

namespace Daily

/-- The instant of the refresh of a local day. -/
inductive Fires (d : Daily) (day : Int) : Instant → Prop
  | onTime {second : Int} (shown : d.zone.FirstShows (day * 86400 + d.time.seconds) second) :
    Fires d day ⟨second, d.time.nanos⟩
  | anHourLate {second : Int} (skipped : d.zone.Skips (day * 86400 + d.time.seconds))
      (shown : d.zone.FirstShows (day * 86400 + d.time.seconds + 3600) second) :
    Fires d day ⟨second, d.time.nanos % 1000000000⟩

/-- The refresh of a local day is the first of all after an instant, on that instant's day or later. -/
structure IsNext (d : Daily) (now : Instant) (day : Int) (i : Instant) : Prop where
  started : d.zone.localDay now.seconds ≤ day
  fires : d.Fires day i
  later : now.before i = true
  first : ∀ {day' i'}, d.zone.localDay now.seconds ≤ day' → d.Fires day' i' →
    now.before i' = true → i'.before i = false

/-- Days with their refreshes, in order and without a gap, from the day of an instant on and after
that instant. -/
structure Enumerates (d : Daily) (now : Instant) (fired : List (Int × Instant)) : Prop where
  started : ∀ p ∈ fired, d.zone.localDay now.seconds ≤ p.1
  fires : ∀ p ∈ fired, d.Fires p.1 p.2
  later : ∀ p ∈ fired, now.before p.2 = true
  ascending : fired.Pairwise fun p q => p.1 < q.1 ∧ p.2.before q.2 = true
  complete : ∀ {day i}, d.zone.localDay now.seconds ≤ day → d.Fires day i → now.before i = true →
    (day, i) ∈ fired ∨ ∀ p ∈ fired, p.1 < day

variable {d : Daily} {day day' : Int} {i i' now : Instant} {fuel k : Nat}

/-! ### The refresh of a day -/

theorem firing_of_fires (ascending : Ascending d.zone.changes) (h : d.Fires day i) :
    d.firing day = some i := by
  cases h with
  | onTime shown =>
    simp only [firing, (Zone.earliest_eq_some_iff ascending).2 shown]
    rfl
  | anHourLate skipped shown =>
    simp only [firing, (Zone.earliest_eq_some_iff ascending).2 shown,
      (Zone.earliest_eq_none_iff ascending).2 skipped]
    rfl

theorem fires_of_firing (ascending : Ascending d.zone.changes) (h : d.firing day = some i) :
    d.Fires day i := by
  rw [firing] at h
  cases honTime : d.zone.earliest (day * 86400 + d.time.seconds) with
  | some second =>
    rw [honTime] at h
    obtain rfl := Option.some.inj h
    exact .onTime ((Zone.earliest_eq_some_iff ascending).1 honTime)
  | none =>
    rw [honTime] at h
    obtain ⟨second, hlate, rfl⟩ := Option.map_eq_some_iff.1 h
    exact .anHourLate ((Zone.earliest_eq_none_iff ascending).1 honTime)
      ((Zone.earliest_eq_some_iff ascending).1 hlate)

theorem Fires.unique (ascending : Ascending d.zone.changes) (h : d.Fires day i)
    (h' : d.Fires day i') : i = i' :=
  Option.some.inj ((firing_of_fires ascending h).symm.trans (firing_of_fires ascending h'))

/-- At a refresh the clock shows the time of day of its day, or an hour more. -/
theorem Fires.shows (h : d.Fires day i) :
    day * 86400 + d.time.seconds ≤ i.seconds + d.zone.offsetAt i.seconds ∧
      i.seconds + d.zone.offsetAt i.seconds ≤ day * 86400 + d.time.seconds + 3600 := by
  cases h with
  | onTime shown =>
    have hshows := shown.shows
    dsimp only
    omega
  | anHourLate skipped shown =>
    have hshows := shown.shows
    dsimp only
    omega

theorem Fires.localDay_le (time : d.time.seconds < 86400) (h : d.Fires day i) :
    d.zone.localDay i.seconds ≤ day + 1 := by
  have hshows := h.shows
  rw [Zone.localDay, dayOfSecond]
  omega

/-! ### Refreshes of different days -/

/-- Refreshes of later days are later. -/
theorem Fires.before_of_lt (regular : d.zone.IsRegular) (h : d.Fires day i) (h' : d.Fires day' i')
    (hlt : day < day') : i.before i' = true := by
  have hshows := h.shows
  have hshows' := h'.shows
  refine Instant.before_of_seconds_lt ?_
  by_contra hge
  have hback : i'.seconds + d.zone.offsetAt i'.seconds ≤
      i.seconds + d.zone.offsetAt i.seconds + 10800 := regular.set_back_le (by omega) (by omega)
  omega

theorem Fires.day_le (regular : d.zone.IsRegular) (h : d.Fires day i) (h' : d.Fires day' i')
    (hle : i'.before i = false) : day ≤ day' := by
  by_contra hlt
  have hbefore := h'.before_of_lt regular h (by omega)
  rw [hle] at hbefore
  cases hbefore

/-- The refresh of the day after tomorrow is still to come. -/
theorem Fires.before_of_distant (regular : d.zone.IsRegular)
    (distant : d.zone.localDay now.seconds + 2 ≤ day) (h : d.Fires day i) :
    now.before i = true := by
  have hshows := h.shows
  rw [Zone.localDay, dayOfSecond] at distant
  refine Instant.before_of_seconds_lt ?_
  by_contra hge
  have hback : i.seconds + d.zone.offsetAt i.seconds ≤
      now.seconds + d.zone.offsetAt now.seconds + 10800 := regular.set_back_le (by omega) (by omega)
  omega

/-- A day without a refresh is followed by one that has one. -/
theorem exists_fires (regular : d.zone.IsRegular) (day : Int) :
    (∃ i, d.Fires day i) ∨ ∃ i, d.Fires (day + 1) i := by
  rcases d.zone.skips_or_shows regular.ascending (day * 86400 + d.time.seconds) with skips | ⟨s, hs⟩
  · obtain ⟨t, ht⟩ := regular.shown_next_day (by omega) skips
    rcases d.zone.skips_or_shows regular.ascending ((day + 1) * 86400 + d.time.seconds) with
      skips' | ⟨s, hs⟩
    · have ht : t + d.zone.offsetAt t = day * 86400 + d.time.seconds + 86400 := ht
      exact absurd (by omega) (skips' t)
    · exact .inr ⟨_, .onTime hs⟩
  · exact .inl ⟨_, .onTime hs⟩

theorem exists_fires_of_no_changes (h : d.zone.changes = []) (day : Int) : ∃ i, d.Fires day i := by
  have ascending : Ascending d.zone.changes := h ▸ .nil
  rcases d.zone.skips_or_shows ascending (day * 86400 + d.time.seconds) with skips | ⟨s, hs⟩
  · refine absurd ?_ (skips (day * 86400 + d.time.seconds - d.zone.initial))
    rw [Zone.offsetAt, h, Zone.offsetAfter]
    omega
  · exact ⟨_, .onTime hs⟩

/-! ### The first refresh after an instant -/

theorem nextFrom_succ_of_not (h : ∀ i, d.firing day = some i → now.before i = false) :
    d.nextFrom now day (fuel + 1) = d.nextFrom now (day + 1) fuel := by
  rw [nextFrom]
  cases hfiring : d.firing day with
  | none => rfl
  | some i => simp [h i hfiring]

/-- If one of the next days has a refresh that is still to come, the search ends with the first of
them, however many more days it may look at. -/
theorem nextFrom_of_fires (ascending : Ascending d.zone.changes) (hk : k < fuel)
    (fires : d.Fires (day + k) i) (later : now.before i = true) :
    ∃ j i', j ≤ k ∧ d.nextFrom now day fuel = some i' ∧ d.Fires (day + j) i' ∧
      now.before i' = true ∧ ∀ l < j, ∀ i'', d.Fires (day + l) i'' → now.before i'' = false := by
  induction fuel generalizing day k with
  | zero => omega
  | succ fuel ih =>
    by_cases hday : ∃ i', d.Fires day i' ∧ now.before i' = true
    · obtain ⟨i', hfires, hlater⟩ := hday
      refine ⟨0, i', Nat.zero_le k, ?_, by simpa using hfires, hlater, nofun⟩
      simp [nextFrom, firing_of_fires ascending hfires, hlater]
    · have hover : ∀ i', d.Fires day i' → now.before i' = false := fun i' hi' =>
        Bool.eq_false_iff.2 fun hlater => hday ⟨i', hi', hlater⟩
      cases k with
      | zero => exact absurd ⟨i, by simpa using fires, later⟩ hday
      | succ k =>
        have hnext : day + 1 + (k : Int) = day + (k + 1 : Nat) := by omega
        obtain ⟨j, i', hj, hfound, hfires, hlater, hfirst⟩ := ih (by omega) (hnext ▸ fires)
        refine ⟨j + 1, i', by omega, ?_, ?_, hlater, ?_⟩
        · rwa [nextFrom_succ_of_not fun i' hi' => hover i' (fires_of_firing ascending hi')]
        · rwa [show day + (j + 1 : Nat) = day + 1 + (j : Int) by omega]
        · intro l hl i'' hi''
          cases l with
          | zero => exact hover i'' (by simpa using hi'')
          | succ l =>
            rw [show day + (l + 1 : Nat) = day + 1 + (l : Int) by omega] at hi''
            exact hfirst l (by omega) i'' hi''

/-- The days that `next` looks at are enough. -/
theorem exists_fires_later (regular : d.zone.IsRegular) (now : Instant) :
    ∃ k < d.zone.changes.length + 3, ∃ i, d.Fires (d.zone.localDay now.seconds + k) i ∧
      now.before i = true := by
  have hlater : ∀ k : Nat, 2 ≤ k → ∀ i, d.Fires (d.zone.localDay now.seconds + k) i →
      now.before i = true := fun k hk i hi => hi.before_of_distant regular (by omega)
  cases hchanges : d.zone.changes with
  | nil =>
    obtain ⟨i, hi⟩ := exists_fires_of_no_changes hchanges (d.zone.localDay now.seconds + 2)
    exact ⟨2, by simp, i, hi, hlater 2 (by omega) i hi⟩
  | cons c rest =>
    rcases exists_fires regular (d.zone.localDay now.seconds + 2) with ⟨i, hi⟩ | ⟨i, hi⟩
    · exact ⟨2, by simp, i, hi, hlater 2 (by omega) i hi⟩
    · rw [Int.add_assoc] at hi
      exact ⟨3, by simp, i, hi, hlater 3 (by omega) i hi⟩

theorem next_isNext (regular : d.zone.IsRegular) (now : Instant) :
    ∃ day i, d.next now = some i ∧ d.IsNext now day i := by
  obtain ⟨k, hk, i, hi, hlater⟩ := exists_fires_later regular now
  obtain ⟨j, i', -, hfound, hfires, hlater, hover⟩ :=
    nextFrom_of_fires regular.ascending hk hi hlater
  refine ⟨_, i', hfound, by omega, hfires, hlater, fun {day' i''} hstarted hfires' hlater' => ?_⟩
  have hday : d.zone.localDay now.seconds + j ≤ day' := by
    by_contra hlt
    obtain ⟨l, hl⟩ := Int.le.dest hstarted
    rw [← hl] at hfires'
    rw [hover l (by omega) i'' hfires'] at hlater'
    cases hlater'
  rcases Int.lt_or_eq_of_le hday with hlt | heq
  · exact Instant.not_before_of_before (hfires.before_of_lt regular hfires' hlt)
  · rw [← heq] at hfires'
    rw [hfires.unique regular.ascending hfires']
    exact Instant.before_irrefl i''

/-! ### One refresh after the other -/

/-- What comes after the next refresh, when nothing is left out there. -/
theorem Enumerates.cons (regular : d.zone.IsRegular) (time : d.time.seconds < 86400)
    (next : d.IsNext now day i) {fired : List (Int × Instant)} (rest : d.Enumerates i fired) :
    d.Enumerates now ((day, i) :: fired) := by
  have hrest : ∀ p ∈ fired, day < p.1 := by
    intro p hp
    have hle := next.fires.day_le regular (rest.fires p hp)
      (Instant.not_before_of_before (rest.later p hp))
    have hne : day ≠ p.1 := by
      intro heq
      have hlater := rest.later p hp
      rw [next.fires.unique regular.ascending (heq ▸ rest.fires p hp), Instant.before_irrefl]
        at hlater
      cases hlater
    omega
  constructor
  case started =>
    intro p hp
    rcases List.mem_cons.1 hp with rfl | hp
    · exact next.started
    · exact Int.le_trans next.started (Int.le_of_lt (hrest p hp))
  case fires => exact List.forall_mem_cons.2 ⟨next.fires, rest.fires⟩
  case later =>
    exact List.forall_mem_cons.2 ⟨next.later, fun p hp =>
      Instant.before_trans next.later (rest.later p hp)⟩
  case ascending =>
    exact List.pairwise_cons.2 ⟨fun p hp => ⟨hrest p hp, rest.later p hp⟩, rest.ascending⟩
  case complete =>
    intro day' i' hstarted hfires hlater
    have hle := next.fires.day_le regular hfires (next.first hstarted hfires hlater)
    rcases Int.lt_or_eq_of_le hle with hlt | rfl
    · have hlocal := next.fires.localDay_le time
      have hbefore := next.fires.before_of_lt regular hfires hlt
      rcases rest.complete (by omega) hfires hbefore with hmem | hbeyond
      · exact .inl (List.mem_cons_of_mem _ hmem)
      · exact .inr (List.forall_mem_cons.2 ⟨hlt, hbeyond⟩)
    · rw [next.fires.unique regular.ascending hfires]
      exact .inl List.mem_cons_self

theorem instants_enumerate (regular : d.zone.IsRegular) (time : d.time.seconds < 86400)
    (count : Nat) (now : Instant) :
    ∃ fired, fired.length = count ∧ fired.map Prod.snd = d.instants count now ∧
      d.Enumerates now fired := by
  induction count generalizing now with
  | zero => exact ⟨[], rfl, rfl, nofun, nofun, nofun, .nil, fun _ _ _ => .inr nofun⟩
  | succ count ih =>
    obtain ⟨day, i, hnext, isNext⟩ := next_isNext regular now
    obtain ⟨fired, hlength, hinstants, henumerates⟩ := ih i
    refine ⟨(day, i) :: fired, by rw [List.length_cons, hlength], ?_,
      henumerates.cons regular time isNext⟩
    rw [List.map_cons, hinstants, instants, hnext]

/-- In a regular zone there is a next refresh after every instant, and the next ones one after the
other are those of the days in order, without a gap. -/
theorem refreshes_enumerate_days (regular : d.zone.IsRegular) (time : d.time.seconds < 86400)
    (now : Instant) :
    (∃ day i, d.next now = some i ∧ d.IsNext now day i) ∧
    ∀ count, ∃ fired, fired.length = count ∧ fired.map Prod.snd = d.instants count now ∧
      d.Enumerates now fired :=
  ⟨next_isNext regular now, fun count => instants_enumerate regular time count now⟩

/-- Half past eleven in the evening, where clocks go from eleven to midnight on the first evening and
from midnight back to eleven on the third. -/
def lateEvening : Daily := ⟨⟨23, 30, 0, 0⟩, ⟨0, [⟨82800, 3600⟩, ⟨255600, 0⟩]⟩⟩

/-- The clock shows the second day at the first refresh, and the third evening has only one. -/
theorem refreshes_enumerate_days_evenings :
    lateEvening.zone.IsRegular ∧ lateEvening.time.seconds < 86400 ∧
      (∃ day, lateEvening.IsNext (.ofSeconds 0) day (.ofSeconds 84600)) ∧
      ∃ fired, fired.length = 4 ∧ lateEvening.Enumerates (.ofSeconds 0) fired ∧
        fired.map Prod.snd = [.ofSeconds 84600, .ofSeconds 167400, .ofSeconds 253800,
          .ofSeconds 343800] := by
  have regular : lateEvening.zone.IsRegular := by decide
  have time : lateEvening.time.seconds < 86400 := by decide
  obtain ⟨⟨day, i, hnext, isNext⟩, hall⟩ := refreshes_enumerate_days regular time (.ofSeconds 0)
  have hfirst : lateEvening.next (.ofSeconds 0) = some (.ofSeconds 84600) := by decide
  obtain rfl := Option.some.inj (hnext.symm.trans hfirst)
  obtain ⟨fired, hlength, hfired, henumerates⟩ := hall 4
  have hinstants : lateEvening.instants 4 (.ofSeconds 0) =
      [.ofSeconds 84600, .ofSeconds 167400, .ofSeconds 253800, .ofSeconds 343800] := by decide
  exact ⟨regular, time, ⟨day, isNext⟩, fired, hlength, henumerates, hfired.trans hinstants⟩

end Daily
end CommitSearch.Schedule
