import CommitSearch.Proofs.Service.Tasks

/-!
# Where searches stand

A search keeps its request until it ends. `SearchFrom` says where a search that stands somewhere
after an act comes from, one case for each: its own step, the landing or the loss of a leader that it
waited for, or nothing that concerns it. What is held by searches is proved by these cases.
-/

namespace CommitSearch.Service

variable {s s' : State} {i id : Nat} {a : Act} {t t' : Task} {e : Effect} {r : SearchRequest}
  {stage : SearchStage} {fault : Option Error}

/-- An act that moves or drops a task. -/
def Act.IsOf (i : Nat) : Act → Prop
  | .step j _ | .drop j => j = i
  | _ => False

/-- Where a search that stands somewhere after an act comes from. -/
inductive SearchFrom (s : State) (i : Nat) (r : SearchRequest) : Act → SearchStage → Prop
  | called (last : i = s.tasks.length) : SearchFrom s i r (.call (.search r)) .validate
  | moved {t : Task} {fault : Option Error} {stage : SearchStage} {e : Effect}
      (stands : s.Stands i t) (goes : Goes s i fault t (.search r stage) e) :
    SearchFrom s i r (.step i fault) stage
  | stayed {a : Act} {stage : SearchStage} (stands : s.Stands i (.search r stage))
      (other : ¬ a.IsOf i) : SearchFrom s i r a stage
  | answered {j : Nat} {fault : Option Error} {q : SearchRequest} {outcome : Except Error Page}
      (waits : s.Stands i (.search r .waiting)) (lands : s.Stands j (.search q (.land outcome)))
      (waiter : i ∈ s.flights.waiting q.key) :
    SearchFrom s i r (.step j fault) (.answered (copyOutcome outcome))
  | rejoins {j : Nat} {q : SearchRequest} {stage : SearchStage}
      (waits : s.Stands i (.search r .waiting)) (leader : s.Stands j (.search q stage))
      (leads : stage.leads = true) : SearchFrom s i r (.drop j) .join

/-! ### Single changes -/

theorem search_of_unlock (h : LockFits s) (hs : s.unlock.state.Stands i (.search r stage)) :
    s.Stands i (.search r stage) := by
  cases hq : s.lock.queue with
  | nil =>
    rw [State.unlock, hq] at hs
    exact hs
  | cons head rest =>
    have hhead := h.queued head (by rw [hq]; exact List.mem_cons_self)
    rw [State.unlock, hq] at hs
    rcases (stands_place (s := { s with lock := ⟨some head, rest⟩ }) hhead _ i _).1 hs with
      ⟨-, heq⟩ | ⟨-, hold⟩
    · cases heq
    · exact hold

theorem search_of_invalidate (hs : s.invalidate.state.Stands i (.search r stage)) :
    s.Stands i (.search r stage) := by
  rcases (stands_start { s with generation := s.generation + 1 } .sweep i _).1 hs with
    hold | ⟨-, heq⟩
  · exact hold
  · cases heq

/-- The task in the place of a waiting search, when its flight is over. -/
def relayed (next : SearchStage) : Task → Task
  | .search r .waiting => .search r next
  | t => t

/-- When a flight is over, all that waited for it stand elsewhere. -/
theorem search_of_closeFlight {key : String} {next : SearchStage}
    (hs : (s.closeFlight key (relayed next)).state.Stands i (.search r stage)) :
    (s.Stands i (.search r stage) ∧ (i ∈ s.flights.waiting key → stage ≠ .waiting)) ∨
      (s.Stands i (.search r .waiting) ∧ i ∈ s.flights.waiting key ∧ stage = next) := by
  obtain ⟨v, hv, heq⟩ := (stands_closeFlight _ _ _ _ _).1 hs
  split at heq
  · next hw =>
    have hmem : i ∈ s.flights.waiting key := List.contains_iff_mem.1 hw
    unfold relayed at heq
    split at heq
    · cases heq
      exact .inr ⟨hv, hmem, rfl⟩
    · next hne =>
      subst heq
      refine .inl ⟨hv, fun _ hstage => ?_⟩
      subst hstage
      exact hne r rfl
  · next hw =>
    subst heq
    exact .inl ⟨hv, fun h => absurd (List.contains_iff_mem.2 h) hw⟩

/-! ### Acts -/

/-- After its step a task stands where the step took it. -/
theorem stands_goes_self (hl : LockFits s) (stands : s.Stands id t)
    (goes : Goes s id fault t t' e) : (e.apply (s.place id t') id).Stands id t' := by
  have hplaced := (stands_place stands t' id t').2 (.inl ⟨rfl, rfl⟩)
  obtain ⟨u, hu, hn⟩ := (nudges_goes hl stands goes).forth id t' hplaced
  cases goes with
  | announce | land | failRebuild | rejectRebuild | finish =>
    cases hn
    exact hu
  | _ => exact hplaced

theorem stands_goes_other (hl : LockFits s) (stands : s.Stands id t)
    (goes : Goes s id fault t t' e) (hi : i ≠ id) {u : Task} (hu : s.Stands i u) :
    ∃ u', (e.apply (s.place id t') id).Stands i u' ∧ Nudged u u' :=
  (nudges_goes hl stands goes).forth i u ((stands_place stands t' i u).2 (.inr ⟨hi, hu⟩))

theorem nudges_gives (hl : LockFits s) (stands : s.Stands id t) (gives : GivesUp s id t e) :
    Nudges (s.place id .dropped) (e.apply (s.place id .dropped) id) := by
  cases gives with
  | lead leads => exact nudges_closeFlight _ _ nudged_rejoinTask
  | rebuild | swap | invalidate => exact nudges_unlock (lockFits_place hl stands (by simp) _)
  | _ => exact nudges_of_tasks rfl

theorem stands_drop_self (hl : LockFits s) (stands : s.Stands id t) (gives : GivesUp s id t e) :
    (e.apply (s.place id .dropped) id).Stands id .dropped := by
  have hplaced := (stands_place stands .dropped id .dropped).2 (.inl ⟨rfl, rfl⟩)
  obtain ⟨u, hu, hn⟩ := (nudges_gives hl stands gives).forth id _ hplaced
  cases hn
  exact hu

/-- A task that an act is not of stands as before, or was nudged. -/
theorem stands_of_step_other (hl : LockFits s) (hs : Step s a s') (other : ¬ a.IsOf i) {u : Task}
    (hu : s.Stands i u) : ∃ u', s'.Stands i u' ∧ Nudged u u' := by
  cases hs with
  | call call => exact ⟨u, (stands_start s call.task i u).2 (.inl hu), .same u⟩
  | go stands goes => exact stands_goes_other hl stands goes (Ne.symm other) hu
  | drop stands gives =>
    have hplaced := (stands_place stands .dropped i u).2 (.inr ⟨Ne.symm other, hu⟩)
    exact (nudges_gives hl stands gives).forth i u hplaced
  | wait duration => exact ⟨u, hu, .same u⟩

/-- What an act makes of a task: it goes on, it is dropped, or it is nudged at most. -/
theorem stands_after (hl : LockFits s) (hstep : Step s a s') (hs : s.Stands i t) :
    (∃ fault t' e, a = .step i fault ∧ Goes s i fault t t' e ∧ s'.Stands i t') ∨
    (∃ e, a = .drop i ∧ GivesUp s i t e ∧ s'.Stands i .dropped) ∨
    ∃ t', ¬ a.IsOf i ∧ Nudged t t' ∧ s'.Stands i t' := by
  by_cases other : a.IsOf i
  · cases hstep with
    | call | wait => cases other
    | go stands goes =>
      obtain rfl := other
      obtain rfl := hs.inj stands
      exact .inl ⟨_, _, _, rfl, goes, stands_goes_self hl stands goes⟩
    | drop stands gives =>
      obtain rfl := other
      obtain rfl := hs.inj stands
      exact .inr (.inl ⟨_, rfl, gives, stands_drop_self hl stands gives⟩)
  · obtain ⟨t', hs', nudged⟩ := stands_of_step_other hl hstep other hs
    exact .inr (.inr ⟨t', other, nudged, hs'⟩)

theorem searchFrom_goes (hl : LockFits s) (stands : s.Stands id t) (goes : Goes s id fault t t' e)
    (hs : (e.apply (s.place id t') id).Stands i (.search r stage)) :
    SearchFrom s i r (.step id fault) stage := by
  by_cases hi : i = id
  · subst hi
    obtain rfl := hs.inj (stands_goes_self hl stands goes)
    exact .moved stands goes
  have hold : ∀ {st}, (s.place id t').Stands i (.search r st) → s.Stands i (.search r st) := by
    intro st hst
    rcases (stands_place stands t' i _).1 hst with ⟨hid, -⟩ | ⟨-, hst⟩
    · exact absurd hid hi
    · exact hst
  have hp := lockFits_place hl stands (goes_not_queued goes) t'
  have hother : ¬ Act.IsOf i (.step id fault) := Ne.symm hi
  cases goes with
  | announce => exact .stayed (hold (search_of_invalidate hs)) hother
  | failRebuild | rejectRebuild => exact .stayed (hold (search_of_unlock hp hs)) hother
  | finish =>
    have hunlocked := search_of_unlock (lockFits_invalidate hp) hs
    exact .stayed (hold (search_of_invalidate hunlocked)) hother
  | land =>
    rcases search_of_closeFlight hs with ⟨hsame, -⟩ | ⟨hwaits, hw, rfl⟩
    · exact .stayed (hold hsame) hother
    · exact .answered (hold hwaits) stands hw
  | _ => exact .stayed (hold hs) hother

theorem searchFrom_drop (hl : LockFits s) (stands : s.Stands id t) (gives : GivesUp s id t e)
    (hs : (e.apply (s.place id .dropped) id).Stands i (.search r stage)) :
    SearchFrom s i r (.drop id) stage := by
  have hi : i ≠ id := by
    rintro rfl
    cases hs.inj (stands_drop_self hl stands gives)
  have hold : ∀ {st}, (s.place id .dropped).Stands i (.search r st) → s.Stands i (.search r st) := by
    intro st hst
    rcases (stands_place stands .dropped i _).1 hst with ⟨hid, -⟩ | ⟨-, hst⟩
    · exact absurd hid hi
    · exact hst
  have hother : ¬ Act.IsOf i (.drop id) := Ne.symm hi
  cases gives with
  | rebuild | swap | invalidate =>
    exact .stayed (hold (search_of_unlock (lockFits_place hl stands (by simp) _) hs)) hother
  | lead leads =>
    rcases search_of_closeFlight hs with ⟨hsame, -⟩ | ⟨hwaits, -, rfl⟩
    · exact .stayed (hold hsame) hother
    · exact .rejoins (hold hwaits) stands leads
  | _ => exact .stayed (hold hs) hother

theorem searchFrom_of_step (hl : LockFits s) (hstep : Step s a s')
    (hs : s'.Stands i (.search r stage)) : SearchFrom s i r a stage := by
  cases hstep with
  | call call =>
    rcases (stands_start s call.task i _).1 hs with hold | ⟨hlast, htask⟩
    · exact .stayed hold (by simp [Act.IsOf])
    · cases call with
      | search q =>
        cases htask
        exact .called hlast
      | _ => cases htask
  | go stands goes => exact searchFrom_goes hl stands goes hs
  | drop stands gives => exact searchFrom_drop hl stands gives hs
  | wait duration => exact .stayed hs (by simp [Act.IsOf])

/-! ### What becomes of a search -/

/-- A task that was there before an act and searches after it was a search of the same request. -/
theorem same_request (from_ : SearchFrom s i r a stage) (hs : s.Stands i t) :
    ∃ stage', t = .search r stage' := by
  cases from_ with
  | called last =>
    subst last
    simp [State.Stands] at hs
  | stayed stands => exact ⟨_, hs.inj stands⟩
  | answered waits | rejoins waits => exact ⟨_, hs.inj waits⟩
  | moved stands goes =>
    obtain rfl := hs.inj stands
    cases goes <;> exact ⟨_, rfl⟩

/-- A search that an act is not of stands where it stood, unless it waited. -/
theorem search_stays (hl : LockFits s) (hstep : Step s a s') (other : ¬ a.IsOf i)
    (hs : s.Stands i (.search r stage)) (moves : stage ≠ .waiting) :
    s'.Stands i (.search r stage) := by
  obtain ⟨u, hu, hn⟩ := stands_of_step_other hl hstep other hs
  cases hn with
  | same => exact hu
  | answered | rejoins => exact absurd rfl moves

/-- A search keeps its request, or ends in a step of its own, or is dropped. -/
theorem search_goes_on (hl : LockFits s) (hstep : Step s a s') (hs : s.Stands i (.search r stage)) :
    (∃ stage', s'.Stands i (.search r stage')) ∨ s'.Stands i .dropped ∨
      ∃ fault answer e, a = .step i fault ∧ Goes s i fault (.search r stage) (.ended answer) e ∧
        s'.Stands i (.ended answer) := by
  rcases stands_after hl hstep hs with ⟨fault, t', e, rfl, goes, hs'⟩ | ⟨e, rfl, -, hs'⟩ |
    ⟨t', -, nudged, hs'⟩
  · cases goes with
    | invalid | hit | receive | land =>
      exact .inr (.inr ⟨_, _, _, rfl, by constructor <;> assumption, hs'⟩)
    | _ => exact .inl ⟨_, hs'⟩
  · exact .inr (.inl hs')
  · cases nudged with
    | same | answered | rejoins => exact .inl ⟨_, hs'⟩

theorem going_of_goes (goes : Goes s i fault t t' e) : t.isOver = false := by
  cases goes <;> rfl

theorem over_stays (hl : LockFits s) (hstep : Step s a s') (hs : s.Stands i t)
    (ended : t.isOver = true) : s'.Stands i t := by
  rcases stands_after hl hstep hs with ⟨fault, t', e, rfl, goes, -⟩ | ⟨e, rfl, gives, -⟩ |
    ⟨t', -, nudged, hs'⟩
  · rw [going_of_goes goes] at ended
    cases ended
  · cases gives <;> cases ended
  · cases nudged with
    | same => exact hs'
    | _ => cases ended

/-! ### Places -/

theorem stands_exists (hl : LockFits s) (hstep : Step s a s') (hs : s.Stands i t) :
    ∃ t', s'.Stands i t' := by
  rcases stands_after hl hstep hs with ⟨fault, t', e, -, -, hs'⟩ | ⟨e, -, -, hs'⟩ | ⟨t', -, -, hs'⟩
  · exact ⟨t', hs'⟩
  · exact ⟨_, hs'⟩
  · exact ⟨t', hs'⟩

theorem length_le_step (hl : LockFits s) (hstep : Step s a s') :
    s.tasks.length ≤ s'.tasks.length := by
  refine Nat.le_of_not_lt fun hlt => ?_
  obtain ⟨t, ht⟩ := stands_exists hl hstep (List.getElem?_eq_getElem hlt)
  exact Nat.lt_irrefl _ (List.getElem?_eq_some_iff.1 ht).1

/-! ### Requests -/

theorem Run.lockFits {start : State} {acts : List Act} {count : Nat} (run : Run start acts count s)
    (h : LockFits start) : LockFits s := by
  induction run with
  | nothing => exact h
  | act run next ih => exact lockFits_step ih (step_of_act next)

theorem Run.length_le {start : State} {acts : List Act} {count : Nat} (run : Run start acts count s)
    (h : LockFits start) : start.tasks.length ≤ s.tasks.length := by
  induction run with
  | nothing => exact Nat.le_refl _
  | act run next ih => exact Nat.le_trans ih (length_le_step (run.lockFits h) (step_of_act next))

theorem lockFits_fresh (store : Store) : LockFits (fresh store) := lockFits_run .nothing

/-- Every search was called, and its request is valid once it is checked. -/
def Known (acts : List Act) (s : State) : Prop :=
  ∀ {i r stage}, s.Stands i (.search r stage) →
    .call (.search r) ∈ acts ∧ (stage = .validate ∨ r.validate = .ok ())

theorem known_step {acts : List Act} (hl : LockFits s) (h : Known acts s) (hstep : Step s a s') :
    Known (acts ++ [a]) s' := by
  intro i r stage hs
  have hlater : ∀ {stage'}, s.Stands i (.search r stage') → .call (.search r) ∈ acts ++ [a] :=
    fun hs' => List.mem_append_left _ (h hs').1
  cases searchFrom_of_step hl hstep hs with
  | called => exact ⟨List.mem_append_right _ List.mem_cons_self, .inl rfl⟩
  | stayed stands => exact ⟨hlater stands, (h stands).2⟩
  | answered waits | rejoins waits => exact ⟨hlater waits, .inr ((h waits).2.resolve_left (by simp))⟩
  | moved stands goes =>
    obtain ⟨stage', rfl⟩ := same_request (searchFrom_of_step hl hstep hs) stands
    refine ⟨hlater stands, ?_⟩
    generalize htask : Task.search r stage = t' at goes
    cases goes with
    | invalid => cases htask
    | valid validate => exact .inr validate
    | _ => exact .inr ((h stands).2.resolve_left (by simp))

theorem Run.known {start : State} {acts : List Act} {count : Nat} (run : Run start acts count s)
    (hl : LockFits start) (none : ∀ {i r stage}, ¬ start.Stands i (.search r stage)) :
    Known acts s := by
  induction run with
  | nothing =>
    intro i r stage hs
    exact absurd hs none
  | act run next ih => exact known_step (run.lockFits hl) ih (step_of_act next)

theorem not_stands_fresh (store : Store) : ¬ (fresh store).Stands i t := by
  intro h
  cases h

end CommitSearch.Service
