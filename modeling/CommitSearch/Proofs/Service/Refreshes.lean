import CommitSearch.Proofs.Service.Searches

/-!
# The lock of the refreshes

The lock is held by the one refresh that is past its request, and by none when there is no such
refresh. So no two refreshes are at work at a time.
-/

namespace CommitSearch.Service

/-- A refresh that was given the lock and has not given it back. -/
def Task.holdsLock : Task → Bool
  | .refresh .rebuild | .refresh (.swap _) | .refresh .invalidate => true
  | _ => false

/-- No search holds the lock, whatever its stage is. -/
@[simp] theorem holdsLock_search (r : SearchRequest) (stage : SearchStage) :
    (Task.search r stage).holdsLock = false := rfl

def State.Holds (s : State) (i : Nat) : Prop := ∃ t, s.Stands i t ∧ t.holdsLock = true

def HolderFits (s : State) : Prop := ∀ i, s.lock.holder = some i ↔ s.Holds i

variable {s s' : State} {i j id : Nat} {t t' : Task} {e : Effect} {fault : Option Error}

/-- Only one refresh is at work. -/
theorem HolderFits.eq_of_holds (h : HolderFits s) (hi : s.Holds i) (hj : s.Holds j) : i = j :=
  Option.some.inj (((h i).2 hi).symm.trans ((h j).2 hj))

/-! ### Single changes -/

theorem holds_place (stands : s.Stands id t) (t' : Task) :
    (s.place id t').Holds i ↔ (i = id ∧ t'.holdsLock = true) ∨ (i ≠ id ∧ s.Holds i) := by
  simp only [State.Holds, stands_place stands]
  constructor
  · rintro ⟨u, ⟨hi, rfl⟩ | ⟨hi, hu⟩, hl⟩
    · exact .inl ⟨hi, hl⟩
    · exact .inr ⟨hi, u, hu, hl⟩
  · rintro (⟨hi, hl⟩ | ⟨hi, u, hu, hl⟩)
    · exact ⟨t', .inl ⟨hi, rfl⟩, hl⟩
    · exact ⟨u, .inr ⟨hi, hu⟩, hl⟩

/-- The lock stays where it is when a task moves on without taking or giving it. -/
theorem holds_place_same (stands : s.Stands id t) (same : t'.holdsLock = t.holdsLock) :
    (s.place id t').Holds i ↔ s.Holds i := by
  rw [holds_place stands, same]
  by_cases hi : i = id
  · subst hi
    have hself : s.Holds i ↔ t.holdsLock = true := by
      constructor
      · rintro ⟨u, hu, hl⟩
        rwa [stands.inj hu]
      · exact fun hl => ⟨t, stands, hl⟩
    simp [hself]
  · simp [hi]

theorem holds_start (s : State) (free : t.holdsLock = false) :
    (s.start t).1.Holds i ↔ s.Holds i := by
  simp only [State.Holds, stands_start]
  constructor
  · rintro ⟨u, hu | ⟨-, rfl⟩, hl⟩
    · exact ⟨u, hu, hl⟩
    · rw [free] at hl
      cases hl
  · rintro ⟨u, hu, hl⟩
    exact ⟨u, .inl hu, hl⟩

theorem holds_invalidate (s : State) : s.invalidate.state.Holds i ↔ s.Holds i :=
  holds_start { s with generation := s.generation + 1 } rfl

theorem holds_closeFlight (s : State) (key : String) {change : Task → Task}
    (same : ∀ t, (change t).holdsLock = t.holdsLock) :
    (s.closeFlight key change).state.Holds i ↔ s.Holds i := by
  simp only [State.Holds, stands_closeFlight]
  constructor
  · rintro ⟨-, ⟨u, hu, rfl⟩, hl⟩
    refine ⟨u, hu, ?_⟩
    split at hl
    · rwa [same] at hl
    · exact hl
  · rintro ⟨u, hu, hl⟩
    refine ⟨_, ⟨u, hu, rfl⟩, ?_⟩
    split
    · rwa [same]
    · exact hl

theorem holdsLock_answerTask (outcome : Except Error Page) (t : Task) :
    (State.answerTask outcome t).holdsLock = t.holdsLock := by
  unfold State.answerTask
  split <;> rfl

theorem holdsLock_rejoinTask (t : Task) : (State.rejoinTask t).holdsLock = t.holdsLock := by
  unfold State.rejoinTask
  split <;> rfl

/-- A lock that none holds any more is given to the first in its queue. -/
theorem holderFits_unlock (hl : LockFits s) (free : ∀ i, ¬ s.Holds i) :
    HolderFits s.unlock.state := by
  intro i
  cases hq : s.lock.queue with
  | nil =>
    rw [State.unlock, hq]
    refine ⟨fun h => ?_, fun h => absurd h (free i)⟩
    cases h
  | cons head rest =>
    have hhead := hl.queued head (by rw [hq]; exact List.mem_cons_self)
    rw [State.unlock, hq]
    refine Iff.trans ?_ (holds_place (s := { s with lock := ⟨some head, rest⟩ }) hhead _).symm
    constructor
    · intro h
      exact .inl ⟨(Option.some.inj h).symm, rfl⟩
    · rintro (⟨rfl, -⟩ | ⟨-, h⟩)
      · rfl
      · exact absurd h (free i)

/-! ### Steps -/

theorem not_holds_place (h : HolderFits s) (stands : s.Stands id t) (held : t.holdsLock = true)
    (given : t'.holdsLock = false) (i : Nat) : ¬ (s.place id t').Holds i := by
  rw [holds_place stands, given]
  rintro (⟨-, hl⟩ | ⟨hne, hi⟩)
  · cases hl
  · exact hne (h.eq_of_holds hi ⟨t, stands, held⟩)

theorem holderFits_goes (hl : LockFits s) (h : HolderFits s) (stands : s.Stands id t)
    (goes : Goes s id fault t t' e) : HolderFits (e.apply (s.place id t') id) := by
  have hp := lockFits_place hl stands (goes_not_queued goes) t'
  -- Most tasks neither hold the lock before nor after their step; what is left to show is the lock
  -- itself.
  have hsame : t'.holdsLock = t.holdsLock → HolderFits (s.place id t') :=
    fun same i => (h i).trans (holds_place_same stands same).symm
  cases goes with
  | acquire free =>
    intro i
    refine Iff.trans ?_ (holds_place stands _).symm
    constructor
    · intro hi
      exact .inl ⟨(Option.some.inj hi).symm, rfl⟩
    · rintro (⟨rfl, -⟩ | ⟨-, hi⟩)
      · rfl
      · rw [← h i, free] at hi
        cases hi
  | failRebuild | rejectRebuild => exact holderFits_unlock hp (not_holds_place h stands rfl rfl)
  | finish =>
    refine holderFits_unlock (lockFits_invalidate hp) fun i hi => ?_
    exact not_holds_place h stands rfl rfl i ((holds_invalidate _).1 hi)
  | announce => exact fun i => (hsame rfl i).trans (holds_invalidate _).symm
  | @land _ _ outcome =>
    exact fun i => (hsame rfl i).trans
      (holds_closeFlight _ _ (holdsLock_answerTask outcome)).symm
  | noteBlank | resolve => exact hsame (by simp only [holdsLock_search])
  | _ => exact hsame rfl

theorem holderFits_drop (hl : LockFits s) (h : HolderFits s) (stands : s.Stands id t)
    (gives : GivesUp s id t e) : HolderFits (e.apply (s.place id .dropped) id) := by
  have hsame : Task.dropped.holdsLock = t.holdsLock → HolderFits (s.place id .dropped) :=
    fun same i => (h i).trans (holds_place_same stands same).symm
  cases gives with
  | rebuild | swap | invalidate =>
    have hp := lockFits_place hl stands (by simp) .dropped
    exact holderFits_unlock hp (not_holds_place h stands rfl rfl)
  | lead leads =>
    exact fun i => (hsame rfl i).trans (holds_closeFlight _ _ holdsLock_rejoinTask).symm
  | _ => exact hsame rfl

theorem holderFits_step {a : Act} (hl : LockFits s) (h : HolderFits s) (hstep : Step s a s') :
    HolderFits s' := by
  cases hstep with
  | call call =>
    have hfree : call.task.holdsLock = false := by cases call <;> rfl
    exact fun i => (h i).trans (holds_start s hfree).symm
  | go stands goes => exact holderFits_goes hl h stands goes
  | drop stands gives => exact holderFits_drop hl h stands gives
  | wait duration => exact h

theorem holderFits_run {store : Store} {acts : List Act} {count : Nat}
    (run : Run (fresh store) acts count s) : HolderFits s := by
  induction run with
  | nothing =>
    intro i
    refine ⟨fun hi => ?_, ?_⟩
    · cases hi
    · rintro ⟨t, hs, -⟩
      exact absurd hs (not_stands_fresh store)
  | act run next ih => exact holderFits_step (lockFits_run run) ih (step_of_act next)

end CommitSearch.Service
