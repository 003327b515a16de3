import CommitSearch.Schedule.Zone
import Mathlib.Data.List.Chain

/-!
# Local time

What a clock shows at an instant is the instant shifted by the offset in force. A local time may be
shown never, once or more than once, and the spans of a zone find the first instant at which it is
shown. Where changes are at least two days apart, a clock is never set back in all by more than the
size of one change, and a local time that is skipped is shown one day later.
-/

namespace CommitSearch.Schedule

/-! ### The first instant of a local time -/

/-- The first instant at which clocks show a local time. -/
structure Zone.FirstShows (z : Zone) (localSecond second : Int) : Prop where
  shows : second + z.offsetAt second = localSecond
  first : ∀ t, t + z.offsetAt t = localSecond → second ≤ t

/-- A local time that clocks never show. -/
def Zone.Skips (z : Zone) (localSecond : Int) : Prop := ∀ t, t + z.offsetAt t ≠ localSecond

/-- Changes that are in ascending order. -/
def Ascending (changes : List Change) : Prop :=
  changes.Pairwise fun c c' => c.second < c'.second

variable {z : Zone} {start : Option Int} {offset localSecond second : Int} {changes : List Change}

theorem offsetAfter_cons_of_lt {c : Change} {rest : List Change} {t : Int} (h : t < c.second) :
    Zone.offsetAfter offset t (c :: rest) = offset := by
  rw [Zone.offsetAfter, if_neg (by omega)]

theorem offsetAfter_cons_of_le {c : Change} {rest : List Change} {t : Int} (h : c.second ≤ t) :
    Zone.offsetAfter offset t (c :: rest) = Zone.offsetAfter c.offset t rest := by
  rw [Zone.offsetAfter, if_pos h]

theorem offsetAfter_of_before {t : Int} (h : ∀ c ∈ changes, t < c.second) :
    Zone.offsetAfter offset t changes = offset := by
  cases changes with
  | nil => rfl
  | cons c rest => exact offsetAfter_cons_of_lt (h c List.mem_cons_self)

theorem instantOf_eq_some {s : Span} : s.instantOf localSecond = some second ↔
    second + s.offset = localSecond ∧ (∀ b ∈ s.start, b ≤ second) ∧ ∀ b ∈ s.stop, second < b := by
  obtain ⟨start, stop, offset⟩ := s
  cases start <;> cases stop <;> simp [Span.instantOf] <;> omega

/-- What the spans from a start on find is an instant from there on that shows the local time. -/
theorem shows_of_findSome (ascending : Ascending changes)
    (before : ∀ b ∈ start, ∀ c ∈ changes, b ≤ c.second)
    (found : (Zone.spansFrom start offset changes).findSome? (·.instantOf localSecond) =
      some second) :
    (∀ b ∈ start, b ≤ second) ∧ second + Zone.offsetAfter offset second changes = localSecond := by
  induction changes generalizing start offset with
  | nil =>
    obtain ⟨shows, started, -⟩ := instantOf_eq_some.1 (by simpa [Zone.spansFrom] using found)
    exact ⟨started, shows⟩
  | cons c rest ih =>
    obtain ⟨hrest, ascending⟩ := List.pairwise_cons.1 ascending
    rw [Zone.spansFrom, List.findSome?_cons] at found
    cases hspan : Span.instantOf ⟨start, some c.second, offset⟩ localSecond with
    | some s =>
      rw [hspan] at found
      obtain rfl := Option.some.inj found
      obtain ⟨shows, started, stopped⟩ := instantOf_eq_some.1 hspan
      exact ⟨started, by rwa [offsetAfter_cons_of_lt (stopped c.second rfl)]⟩
    | none =>
      rw [hspan] at found
      obtain ⟨started, shows⟩ := ih ascending (by simpa using fun d hd => Int.le_of_lt (hrest d hd))
        found
      have hc : c.second ≤ second := started c.second rfl
      refine ⟨fun b hb => Int.le_trans (before b hb c List.mem_cons_self) hc, ?_⟩
      rwa [offsetAfter_cons_of_le hc]

/-- The spans from a start on find an instant no later than any from there on that shows the local
time. -/
theorem findSome_of_shows {t : Int} (started : ∀ b ∈ start, b ≤ t)
    (shows : t + Zone.offsetAfter offset t changes = localSecond) :
    ∃ second, (Zone.spansFrom start offset changes).findSome? (·.instantOf localSecond) =
      some second ∧ second ≤ t := by
  induction changes generalizing start offset with
  | nil =>
    have hspan : Span.instantOf ⟨start, none, offset⟩ localSecond = some t :=
      instantOf_eq_some.2 ⟨shows, started, nofun⟩
    exact ⟨t, by simp [Zone.spansFrom, hspan], Int.le_refl t⟩
  | cons c rest ih =>
    rw [Zone.spansFrom, List.findSome?_cons]
    by_cases ht : t < c.second
    · rw [offsetAfter_cons_of_lt ht] at shows
      have hspan : Span.instantOf ⟨start, some c.second, offset⟩ localSecond = some t :=
        instantOf_eq_some.2 ⟨shows, started, by simpa using ht⟩
      exact ⟨t, by rw [hspan], Int.le_refl t⟩
    · have ht : c.second ≤ t := by omega
      cases hspan : Span.instantOf ⟨start, some c.second, offset⟩ localSecond with
      | some s =>
        obtain ⟨-, -, stopped⟩ := instantOf_eq_some.1 hspan
        exact ⟨s, rfl, Int.le_of_lt (Int.lt_of_lt_of_le (stopped c.second rfl) ht)⟩
      | none =>
        rw [offsetAfter_cons_of_le ht] at shows
        exact ih (by simpa using ht) shows

theorem Zone.shows_of_earliest (ascending : Ascending z.changes)
    (found : z.earliest localSecond = some second) : second + z.offsetAt second = localSecond :=
  (shows_of_findSome ascending (by simp) found).2

theorem Zone.earliest_of_shows {t : Int} (shows : t + z.offsetAt t = localSecond) :
    ∃ second, z.earliest localSecond = some second ∧ second ≤ t :=
  findSome_of_shows (by simp) shows

theorem Zone.earliest_eq_some_iff (ascending : Ascending z.changes) :
    z.earliest localSecond = some second ↔ z.FirstShows localSecond second := by
  constructor
  · intro found
    refine ⟨shows_of_earliest ascending found, fun t shows => ?_⟩
    obtain ⟨s, hs, hle⟩ := earliest_of_shows shows
    rwa [Option.some.inj (found.symm.trans hs)]
  · intro ⟨shows, first⟩
    obtain ⟨s, hs, hle⟩ := earliest_of_shows shows
    have hge := first s (shows_of_earliest ascending hs)
    rwa [← Int.le_antisymm hle hge]

theorem Zone.earliest_eq_none_iff (ascending : Ascending z.changes) :
    z.earliest localSecond = none ↔ z.Skips localSecond := by
  constructor
  · intro hnone t shows
    obtain ⟨s, hs, -⟩ := earliest_of_shows shows
    cases hnone.symm.trans hs
  · intro skips
    refine Option.eq_none_iff_forall_ne_some.2 fun s hs => ?_
    exact skips s (shows_of_earliest ascending hs)

theorem Zone.skips_or_shows (z : Zone) (ascending : Ascending z.changes) (localSecond : Int) :
    z.Skips localSecond ∨ ∃ second, z.FirstShows localSecond second := by
  cases h : z.earliest localSecond with
  | none => exact .inl ((earliest_eq_none_iff ascending).1 h)
  | some second => exact .inr ⟨second, (earliest_eq_some_iff ascending).1 h⟩

/-! ### Changes apart from each other -/

/-- Changes behind an offset that are at least two days apart, each of `size` seconds at most. -/
structure Spaced (size : Nat) (offset : Int) (changes : List Change) : Prop where
  apart : changes.Pairwise fun c c' => c.second + 172800 ≤ c'.second
  small : (offset :: changes.map Change.offset).IsChain fun o o' => (o' - o).natAbs ≤ size

variable {size : Nat}

instance (size : Nat) (offset : Int) (changes : List Change) :
    Decidable (Spaced size offset changes) :=
  decidable_of_iff
    (changes.Pairwise (fun c c' => c.second + 172800 ≤ c'.second) ∧
      (offset :: changes.map Change.offset).IsChain fun o o' => (o' - o).natAbs ≤ size)
    ⟨fun ⟨apart, small⟩ => ⟨apart, small⟩, fun ⟨apart, small⟩ => ⟨apart, small⟩⟩

/-- A zone whose changes are at least two days apart, each of three hours at most. -/
abbrev Zone.IsRegular (z : Zone) : Prop := Spaced 10800 z.initial z.changes

/-- A zone whose changes are at least two days apart, each of one day at most. -/
abbrev Zone.IsSpaced (z : Zone) : Prop := Spaced 86400 z.initial z.changes

theorem Spaced.ascending (h : Spaced size offset changes) : Ascending changes :=
  h.apart.imp fun hcc => by omega

theorem spaced_cons {c : Change} {rest : List Change} : Spaced size offset (c :: rest) ↔
    (∀ c' ∈ rest, c.second + 172800 ≤ c'.second) ∧ (c.offset - offset).natAbs ≤ size ∧
      Spaced size c.offset rest := by
  constructor
  · rintro ⟨apart, small⟩
    obtain ⟨hrest, apart⟩ := List.pairwise_cons.1 apart
    obtain ⟨hoffset, small⟩ := List.isChain_cons_cons.1 small
    exact ⟨hrest, hoffset, apart, small⟩
  · rintro ⟨hrest, hoffset, apart, small⟩
    exact ⟨List.pairwise_cons.2 ⟨hrest, apart⟩, List.isChain_cons_cons.2 ⟨hoffset, small⟩⟩

/-- Two days without a change make up for all that clocks are set back later. -/
theorem Spaced.shown_le (h : Spaced size offset changes) (hsize : size ≤ 172800)
    (quiet : ∀ c ∈ changes, second + 172800 ≤ c.second) {t : Int} (ht : second ≤ t) :
    second + offset ≤ t + Zone.offsetAfter offset t changes := by
  induction changes generalizing offset second with
  | nil =>
    rw [Zone.offsetAfter]
    omega
  | cons c rest ih =>
    obtain ⟨hrest, hoffset, hspaced⟩ := spaced_cons.1 h
    have hc := quiet c List.mem_cons_self
    by_cases htc : t < c.second
    · rw [offsetAfter_cons_of_lt htc]
      omega
    · have hle := ih hspaced hrest (by omega)
      rw [offsetAfter_cons_of_le (by omega)]
      omega

/-- What a clock shows is less than it showed before by less than the size of the changes. -/
theorem Spaced.set_back_lt (h : Spaced size offset changes) (hsize : size ≤ 172800) {t t' : Int}
    (ht : t < t') :
    t + Zone.offsetAfter offset t changes < t' + Zone.offsetAfter offset t' changes + size := by
  induction changes generalizing offset with
  | nil =>
    rw [Zone.offsetAfter, Zone.offsetAfter]
    omega
  | cons c rest ih =>
    obtain ⟨hrest, hoffset, hspaced⟩ := spaced_cons.1 h
    by_cases htc : t < c.second
    · rw [offsetAfter_cons_of_lt htc]
      by_cases htc' : t' < c.second
      · rw [offsetAfter_cons_of_lt htc']
        omega
      · have hle := hspaced.shown_le hsize hrest (t := t') (by omega)
        rw [offsetAfter_cons_of_le (by omega)]
        omega
    · rw [offsetAfter_cons_of_le (by omega), offsetAfter_cons_of_le (by omega)]
      exact ih hspaced

theorem Spaced.set_back_le (h : Spaced size offset changes) (hsize : size ≤ 172800) {t t' : Int}
    (ht : t ≤ t') :
    t + Zone.offsetAfter offset t changes ≤ t' + Zone.offsetAfter offset t' changes + size := by
  rcases Int.lt_or_eq_of_le ht with hlt | rfl
  · exact Int.le_of_lt (h.set_back_lt hsize hlt)
  · omega

/-- A local time that is skipped is shown one day later. -/
theorem Spaced.shown_next_day (h : Spaced size offset changes) (hsize : size ≤ 86400)
    (skips : ∀ t, t + Zone.offsetAfter offset t changes ≠ localSecond) :
    ∃ t, t + Zone.offsetAfter offset t changes = localSecond + 86400 := by
  induction changes generalizing offset with
  | nil => exact absurd (Int.sub_add_cancel localSecond offset) (skips (localSecond - offset))
  | cons c rest ih =>
    obtain ⟨hrest, hoffset, hspaced⟩ := spaced_cons.1 h
    have hquiet : ∀ t < c.second + 172800, Zone.offsetAfter c.offset t rest = c.offset :=
      fun t ht => offsetAfter_of_before fun c' hc' => Int.lt_of_lt_of_le ht (hrest c' hc')
    have hbefore : c.second ≤ localSecond - offset := by
      by_contra hlt
      refine skips (localSecond - offset) ?_
      rw [offsetAfter_cons_of_lt (by omega)]
      omega
    by_cases hgap : localSecond - c.offset < c.second
    · -- The change itself skips the local time, so the offset behind it holds a day later.
      refine ⟨localSecond + 86400 - c.offset, ?_⟩
      rw [offsetAfter_cons_of_le (by omega), hquiet _ (by omega)]
      omega
    · have hskips : ∀ t, t + Zone.offsetAfter c.offset t rest ≠ localSecond := by
        intro t ht
        by_cases htc : t < c.second
        · rw [hquiet t (by omega)] at ht
          omega
        · exact skips t (by rwa [offsetAfter_cons_of_le (by omega)])
      obtain ⟨t, ht⟩ := ih hspaced hskips
      have htc : c.second ≤ t := by
        by_contra hlt
        rw [hquiet t (by omega)] at ht
        omega
      exact ⟨t, by rwa [offsetAfter_cons_of_le htc]⟩

end CommitSearch.Schedule
