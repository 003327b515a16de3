import CommitSearch.Proofs.Service.Freshness
import CommitSearch.Proofs.Service.History
import CommitSearch.Proofs.Service.Searches

/-!
# The store in the course of a run

Commits are only ever added, and a store that can be reached stays so. If the dates of what was stored
at the start and of what is saved are whole seconds of the calendar, those of all commits are, at each
moment, so that pages of them can be written and read back.
-/

namespace CommitSearch

def Store.IsStorable (s : Store) : Prop :=
  (∀ c ∈ s.commits, c.date.IsStorable) ∧ s.commits.length < 2 ^ 64

namespace Service

variable {start s s' u : State} {acts before : List Act} {count : Nat} {a : Act} {i id : Nat}
  {t t' : Task} {e : Effect} {fault : Option Error} {store : Store}

/-! ### What is kept -/

theorem connected_step (h : s.store ≠ .disconnected) (hstep : Step s a s') :
    s'.store ≠ .disconnected := by
  cases hstep with
  | call | wait => exact h
  | go stands goes =>
    cases goes with
    | insert insert =>
      cases hs : s.store with
      | memory contents =>
        rw [hs] at insert
        cases insert
        exact Store.noConfusion
      | disconnected => exact absurd hs h
    | swap => exact fun hs => h (Store.swap_eq_disconnected.1 hs)
    | failRebuild | rejectRebuild | finish =>
      rw [Effect.apply, store_unlock]
      exact h
    | _ => exact h
  | drop stands gives =>
    rw [store_drop gives]
    exact h

theorem connected_after (h : start.store ≠ .disconnected) (reached : start.after acts = some s) :
    s.store ≠ .disconnected := by
  obtain ⟨n, -, run⟩ := run_of_after reached
  clear reached
  induction run with
  | nothing => exact h
  | act run next ih => exact connected_step ih (step_of_act next)

theorem connected_run {contents : Contents} (run : Run (fresh (.memory contents)) acts count s) :
    s.store ≠ .disconnected := by
  have hstart : (fresh (.memory contents)).store ≠ .disconnected := Store.noConfusion
  exact connected_after hstart run.after_eq

/-- The commits stay as they are, or a save adds its own. -/
theorem commits_step (hstep : Step s a s') : s'.store.commits = s.store.commits ∨
    ∃ i c, s.Stands i (.save (.insert c)) ∧ s'.store.commits = s.store.commits ++ [c] := by
  cases hstep with
  | call | wait => exact .inl rfl
  | go stands goes =>
    rcases commits_goes goes with hsame | ⟨c, rfl, hadded⟩
    · exact .inl hsame
    · exact .inr ⟨_, c, stands, hadded⟩
  | drop stands gives => exact .inl (congrArg Store.commits (store_drop gives))

theorem commits_le_run (run : Run start acts count s) (order : before <+: acts)
    (reached : start.after before = some u) :
    u.store.commits.length ≤ s.store.commits.length := by
  refine run.onward (P := fun _ v => u.store.commits.length ≤ v.store.commits.length) reached order
    (Nat.le_refl _) ?_
  intro acts' n v a v' _ _ _ _ next hle
  rcases commits_step (step_of_act next) with hsame | ⟨i, c, -, hadded⟩
  · rw [hsame]
    exact hle
  · rw [hadded, List.length_append]
    omega

/-! ### Earlier moments -/

theorem SavesStorable.within (h : SavesStorable acts) (order : before <+: acts) :
    SavesStorable before :=
  fun c hc => h c (order.subset hc)

theorem Alone.within {r : SearchRequest} (h : Alone acts r) (order : before <+: acts) :
    Alone before r :=
  fun q hq => h q (order.subset hq)

/-! ### Dates -/

/-- A save stands where it stood, was just called, or has taken a step of its own. -/
theorem save_from (hl : LockFits s) (hstep : Step s a s') {stage : SaveStage}
    (hs : s'.Stands i (.save stage)) : s.Stands i (.save stage) ∨
      (∃ c, a = .call (.save c) ∧ stage = .accept c) ∨
        ∃ t fault e, s.Stands i t ∧ Goes s i fault t (.save stage) e := by
  cases hstep with
  | call call =>
    rcases (stands_start s call.task i _).1 hs with hold | ⟨-, heq⟩
    · exact .inl hold
    · cases call with
      | save c =>
        cases heq
        exact .inr (.inl ⟨c, rfl, rfl⟩)
      | _ => cases heq
  | wait => exact .inl hs
  | @go id fault t t' e stands goes =>
    rcases (nudges_goes hl stands goes).back i _ hs with heq | ⟨u, hu, hn⟩
    · cases heq
    · cases hn
      rcases (stands_place stands t' i _).1 hu with ⟨rfl, rfl⟩ | ⟨-, hold⟩
      · exact .inr (.inr ⟨t, fault, e, stands, goes⟩)
      · exact .inl hold
  | @drop id t e stands gives =>
    rcases (nudges_gives hl stands gives).back i _ hs with heq | ⟨u, hu, hn⟩
    · cases heq
    · cases hn
      rcases (stands_place stands .dropped i _).1 hu with ⟨-, heq⟩ | ⟨-, hold⟩
      · cases heq
      · exact .inl hold

def SaveStage.IsDated : SaveStage → Prop
  | .accept c | .insert c => c.date.IsStorable
  | .invalidate => True

/-- The dates of what is stored and of what is being saved are those that JSON carries. -/
structure Dated (s : State) : Prop where
  stored : ∀ c ∈ s.store.commits, c.date.IsStorable
  saved : ∀ {i stage}, s.Stands i (.save stage) → stage.IsDated

theorem dated_step (hl : LockFits s) (h : Dated s) (hstep : Step s a s')
    (saves : ∀ c, a = .call (.save c) → c.date.IsStorable) : Dated s' := by
  constructor
  · intro c hc
    rcases commits_step hstep with hsame | ⟨i, d, stands, hadded⟩
    · rw [hsame] at hc
      exact h.stored c hc
    · rw [hadded] at hc
      rcases List.mem_append.1 hc with hc | hc
      · exact h.stored c hc
      · rw [List.mem_singleton.1 hc]
        exact h.saved stands
  · intro i stage hs
    rcases save_from hl hstep hs with hold | ⟨c, ha, rfl⟩ | ⟨t, fault, e, stands, goes⟩
    · exact h.saved hold
    · exact saves c ha
    · cases goes with
      | accept check =>
        show Calendar.Instant.IsStorable _
        rw [date_of_accept check]
        exact h.saved stands
      | insert => trivial

theorem dated_run (run : Run (fresh store) acts count s)
    (dates : ∀ c ∈ store.commits, c.date.IsStorable) (saves : SavesStorable acts) : Dated s := by
  induction run with
  | nothing => exact ⟨dates, fun hs => absurd hs (not_stands_fresh store)⟩
  | act run next ih =>
    have h := ih fun c hc => saves c (List.mem_append_left _ hc)
    refine dated_step (lockFits_run run) h (step_of_act next) ?_
    rintro c rfl
    exact saves c (List.mem_append_right _ List.mem_cons_self)

/-- At each moment of a run, the pages of the store can be written and read back. -/
def Storable (start : State) (acts : List Act) : Prop :=
  ∀ before u, before <+: acts → start.after before = some u → u.store.IsStorable

theorem Storable.within (h : Storable start acts) (order : before <+: acts) : Storable start before :=
  fun earlier u hearlier reached => h earlier u (hearlier.trans order) reached

theorem storable_run (run : Run (fresh store) acts count s)
    (dates : ∀ c ∈ store.commits, c.date.IsStorable) (saves : SavesStorable acts)
    (room : s.store.commits.length < 2 ^ 64) : Storable (fresh store) acts := by
  intro before u order reached
  obtain ⟨v, n, hv, -⟩ := run.at_moment order
  obtain rfl := hv.eq_of_after reached
  exact ⟨(dated_run hv dates (saves.within order)).stored,
    Nat.lt_of_le_of_lt (commits_le_run run order reached) room⟩

theorem oneCommit_dates : ∀ c ∈ (Store.memory oneCommit).commits, c.date.IsStorable := by
  intro c hc
  obtain rfl := List.mem_singleton.1 hc
  exact ⟨rfl, by decide⟩

end Service
end CommitSearch
