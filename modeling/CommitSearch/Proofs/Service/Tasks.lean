import CommitSearch.Proofs.Service.Run

/-!
# Where tasks stand

A step changes its own task, adds a sweep, and nudges tasks that wait: for a flight or for the lock.
All others stand where they stood. The lock nudges the right task because those in its queue are
refreshes that wait for it, each once.
-/

namespace CommitSearch.Service

/-- How a task stands after a step of another: as before, or nudged if it waited. -/
inductive Nudged : Task → Task → Prop
  | same (t : Task) : Nudged t t
  | answered (r : SearchRequest) (outcome : Except Error Page) :
    Nudged (.search r .waiting) (.search r (.answered outcome))
  | rejoins (r : SearchRequest) : Nudged (.search r .waiting) (.search r .join)
  | locked : Nudged (.refresh .queued) (.refresh .rebuild)

/-- Those that wait for the lock are refreshes, each once. -/
structure LockFits (s : State) : Prop where
  nodup : s.lock.queue.Nodup
  queued : ∀ id ∈ s.lock.queue, s.Stands id (.refresh .queued)

variable {s : State} {id : Nat} {t : Task}

theorem State.Stands.inj {u : Task} (h : s.Stands id t) (h' : s.Stands id u) : t = u :=
  Option.some.inj (h.symm.trans h')

theorem State.Stands.mem (h : s.Stands id t) : t ∈ s.tasks := List.mem_of_getElem? h

theorem stands_of_mem (h : t ∈ s.tasks) : ∃ id, s.Stands id t := List.mem_iff_getElem?.1 h

/-! ### Single changes -/

theorem stands_start (s : State) (t : Task) (i : Nat) (u : Task) :
    (s.start t).1.Stands i u ↔ s.Stands i u ∨ (i = s.tasks.length ∧ u = t) := by
  simp only [State.Stands, State.start, List.getElem?_append, List.getElem?_singleton]
  split
  · next hlt => simp [Nat.ne_of_lt hlt]
  · next hge =>
    have hnone : s.tasks[i]? = none := List.getElem?_eq_none (Nat.le_of_not_lt hge)
    rw [hnone]
    by_cases hi : i = s.tasks.length
    · subst hi
      simp [eq_comm]
    · have hpos : i - s.tasks.length ≠ 0 := by omega
      simp [hi, hpos]

theorem stands_place (h : s.Stands id t) (t' : Task) (i : Nat) (u : Task) :
    (s.place id t').Stands i u ↔ (i = id ∧ u = t') ∨ (i ≠ id ∧ s.Stands i u) := by
  have hlt : id < s.tasks.length := (List.getElem?_eq_some_iff.1 h).1
  simp only [State.Stands, State.place, List.getElem?_set]
  by_cases hi : i = id
  · subst hi
    simp [hlt, eq_comm]
  · simp [hi, Ne.symm hi]

theorem stands_closeFlight (s : State) (key : String) (change : Task → Task) (i : Nat) (u : Task) :
    (s.closeFlight key change).state.Stands i u ↔
      ∃ v, s.Stands i v ∧ u = if (s.flights.waiting key).contains i then change v else v := by
  simp only [State.Stands, State.closeFlight, List.getElem?_mapIdx, Option.map_eq_some_iff]
  exact exists_congr fun v => and_congr Iff.rfl eq_comm

theorem nudged_answerTask (outcome : Except Error Page) (t : Task) :
    Nudged t (State.answerTask outcome t) := by
  unfold State.answerTask
  split
  · exact .answered _ _
  · exact .same _

theorem nudged_rejoinTask (t : Task) : Nudged t (State.rejoinTask t) := by
  unfold State.rejoinTask
  split
  · exact .rejoins _
  · exact .same _

/-- A state whose tasks stand as in another, nudged at most, with further sweeps at most. -/
structure Nudges (s s' : State) : Prop where
  forth : ∀ i u, s.Stands i u → ∃ u', s'.Stands i u' ∧ Nudged u u'
  back : ∀ i u', s'.Stands i u' → u' = .sweep ∨ ∃ u, s.Stands i u ∧ Nudged u u'

theorem nudges_of_tasks {s' : State} (h : s'.tasks = s.tasks) : Nudges s s' := by
  constructor
  · intro i u hu
    exact ⟨u, by rw [State.Stands, h]; exact hu, .same u⟩
  · intro i u hu
    rw [State.Stands, h] at hu
    exact .inr ⟨u, hu, .same u⟩

theorem nudges_closeFlight (s : State) (key : String) {change : Task → Task}
    (h : ∀ t, Nudged t (change t)) : Nudges s (s.closeFlight key change).state := by
  constructor
  · intro i u hu
    refine ⟨_, (stands_closeFlight s key change i _).2 ⟨u, hu, rfl⟩, ?_⟩
    split
    · exact h u
    · exact .same u
  · intro i u hu
    obtain ⟨v, hv, rfl⟩ := (stands_closeFlight s key change i u).1 hu
    refine .inr ⟨v, hv, ?_⟩
    split
    · exact h v
    · exact .same v

theorem nudges_invalidate (s : State) : Nudges s s.invalidate.state := by
  have hst : ∀ i u, s.invalidate.state.Stands i u ↔
      s.Stands i u ∨ (i = s.tasks.length ∧ u = .sweep) := fun i u =>
    stands_start { s with generation := s.generation + 1 } .sweep i u
  constructor
  · intro i u hu
    exact ⟨u, (hst i u).2 (.inl hu), .same u⟩
  · intro i u hu
    rcases (hst i u).1 hu with hu | ⟨-, rfl⟩
    · exact .inr ⟨u, hu, .same u⟩
    · exact .inl rfl

theorem nudges_unlock (h : LockFits s) : Nudges s s.unlock.state := by
  cases hq : s.lock.queue with
  | nil =>
    refine nudges_of_tasks ?_
    rw [State.unlock, hq]
  | cons head rest =>
    have hhead := h.queued head (by rw [hq]; exact List.mem_cons_self)
    have hst : ∀ i u, s.unlock.state.Stands i u ↔
        (i = head ∧ u = .refresh .rebuild) ∨ (i ≠ head ∧ s.Stands i u) := by
      intro i u
      rw [State.unlock, hq]
      exact stands_place (s := { s with lock := ⟨some head, rest⟩ }) hhead _ i u
    constructor
    · intro i u hu
      by_cases hi : i = head
      · subst hi
        rw [hu.inj hhead]
        exact ⟨_, (hst i _).2 (.inl ⟨rfl, rfl⟩), .locked⟩
      · exact ⟨u, (hst i u).2 (.inr ⟨hi, hu⟩), .same u⟩
    · intro i u hu
      rcases (hst i u).1 hu with ⟨rfl, rfl⟩ | ⟨-, hu⟩
      · exact .inr ⟨_, hhead, .locked⟩
      · exact .inr ⟨u, hu, .same u⟩

/-! ### The lock -/

theorem lockFits_of_same {s' : State} (h : LockFits s) (hq : s'.lock.queue = s.lock.queue)
    (ht : s'.tasks = s.tasks) : LockFits s' := by
  constructor
  · rw [hq]
    exact h.nodup
  · intro i hi
    rw [hq] at hi
    rw [State.Stands, ht]
    exact h.queued i hi

theorem lockFits_place (h : LockFits s) (stands : s.Stands id t) (ht : t ≠ .refresh .queued)
    (t' : Task) : LockFits (s.place id t') := by
  refine ⟨h.nodup, fun i hi => ?_⟩
  have hq := h.queued i hi
  refine (stands_place stands t' i _).2 (.inr ⟨?_, hq⟩)
  rintro rfl
  exact ht (stands.inj hq)

theorem lockFits_start (h : LockFits s) (t : Task) : LockFits (s.start t).1 :=
  ⟨h.nodup, fun i hi => (stands_start s t i _).2 (.inl (h.queued i hi))⟩

theorem lockFits_invalidate (h : LockFits s) : LockFits s.invalidate.state := by
  have hgeneration : LockFits { s with generation := s.generation + 1 } :=
    lockFits_of_same h rfl rfl
  exact lockFits_start hgeneration .sweep

theorem lockFits_closeFlight (h : LockFits s) (key : String) {change : Task → Task}
    (hc : change (.refresh .queued) = .refresh .queued) :
    LockFits (s.closeFlight key change).state := by
  refine ⟨h.nodup, fun i hi => ?_⟩
  refine (stands_closeFlight s key change i _).2 ⟨_, h.queued i hi, ?_⟩
  rw [hc, ite_self]

theorem lockFits_unlock (h : LockFits s) : LockFits s.unlock.state := by
  cases hq : s.lock.queue with
  | nil =>
    rw [State.unlock, hq]
    exact ⟨List.nodup_nil, fun i hi => by cases hi⟩
  | cons head rest =>
    have hnodup : head ∉ rest ∧ rest.Nodup := List.nodup_cons.1 (hq ▸ h.nodup)
    have hhead := h.queued head (by rw [hq]; exact List.mem_cons_self)
    rw [State.unlock, hq]
    refine ⟨hnodup.2, fun i hi => ?_⟩
    refine (stands_place (s := { s with lock := ⟨some head, rest⟩ }) hhead _ i _).2 (.inr ⟨?_, ?_⟩)
    · rintro rfl
      exact hnodup.1 hi
    · exact h.queued i (by rw [hq]; exact List.mem_cons_of_mem _ hi)

theorem lockFits_enqueue (h : LockFits s) (stands : s.Stands id t) (ht : t ≠ .refresh .queued)
    (holder : Option Nat) :
    LockFits { s.place id (.refresh .queued) with lock := ⟨holder, s.lock.queue ++ [id]⟩ } := by
  have hid : id ∉ s.lock.queue := fun hi => ht (stands.inj (h.queued id hi))
  constructor
  · refine List.nodup_append.2 ⟨h.nodup, by simp, ?_⟩
    rintro i hi j hj rfl
    rw [List.mem_singleton.1 hj] at hi
    exact hid hi
  · intro i hi
    refine (stands_place stands _ i _).2 ?_
    rcases List.mem_append.1 hi with hi | hi
    · have hold : i ∈ s.lock.queue := hi
      have hne : i ≠ id := fun he => hid (he ▸ hold)
      exact .inr ⟨hne, h.queued i hold⟩
    · exact .inl ⟨List.mem_singleton.1 hi, rfl⟩

theorem lockFits_dequeue (h : LockFits s) (stands : s.Stands id t) (holder : Option Nat) :
    LockFits { s.place id .dropped with lock := ⟨holder, s.lock.queue.filter (· != id)⟩ } := by
  refine ⟨h.nodup.sublist List.filter_sublist, fun i hi => ?_⟩
  obtain ⟨hi, hne⟩ := List.mem_filter.1 hi
  exact (stands_place stands _ i _).2 (.inr ⟨by simpa using hne, h.queued i hi⟩)

/-! ### Steps -/

theorem Nudged.trans {a b c : Task} (h : Nudged a b) (g : Nudged b c) : Nudged a c := by
  cases h with
  | same => exact g
  | answered r outcome => cases g; exact .answered r outcome
  | rejoins r => cases g; exact .rejoins r
  | locked => cases g; exact .locked

theorem Nudges.trans {s₁ s₂ s₃ : State} (h : Nudges s₁ s₂) (g : Nudges s₂ s₃) : Nudges s₁ s₃ := by
  constructor
  · intro i u hu
    obtain ⟨v, hv, huv⟩ := h.forth i u hu
    obtain ⟨w, hw, hvw⟩ := g.forth i v hv
    exact ⟨w, hw, huv.trans hvw⟩
  · intro i w hw
    rcases g.back i w hw with rfl | ⟨v, hv, hvw⟩
    · exact .inl rfl
    · rcases h.back i v hv with rfl | ⟨u, hu, huv⟩
      · cases hvw
        exact .inl rfl
      · exact .inr ⟨u, hu, huv.trans hvw⟩

theorem nudges_apply (h : LockFits s) (e : Effect) (id : Nat) : Nudges s (e.apply s id) := by
  cases e with
  | land key outcome => exact nudges_closeFlight s key (nudged_answerTask outcome)
  | abandon key => exact nudges_closeFlight s key nudged_rejoinTask
  | unlock => exact nudges_unlock h
  | invalidate => exact nudges_invalidate s
  | invalidateAndUnlock =>
    exact (nudges_invalidate s).trans (nudges_unlock (lockFits_invalidate h))
  | nothing | store | cache | begin | wait | lock => exact nudges_of_tasks rfl

theorem goes_not_queued {fault : Option Error} {t' : Task} {e : Effect}
    (h : Goes s id fault t t' e) : t ≠ .refresh .queued := by
  rintro rfl
  cases h

/-- A step nudges the tasks apart from its own change. -/
theorem nudges_goes (h : LockFits s) (stands : s.Stands id t) {fault : Option Error} {t' : Task}
    {e : Effect} (goes : Goes s id fault t t' e) :
    Nudges (s.place id t') (e.apply (s.place id t') id) :=
  nudges_apply (lockFits_place h stands (goes_not_queued goes) t') e id

/-- A task that does not wait stands as before after a step of another. -/
theorem stays_goes (h : LockFits s) (stands : s.Stands id t) {fault : Option Error} {t' : Task}
    {e : Effect} (goes : Goes s id fault t t' e) {i : Nat} {u : Task} (hi : i ≠ id)
    (hu : s.Stands i u) (fixed : ∀ v, Nudged u v → v = u) :
    u ∈ (e.apply (s.place id t') id).tasks := by
  have hplaced := (stands_place stands t' i u).2 (.inr ⟨hi, hu⟩)
  obtain ⟨v, hv, hn⟩ := (nudges_goes h stands goes).forth i u hplaced
  rw [fixed v hn] at hv
  exact hv.mem

theorem moved_goes (h : LockFits s) (stands : s.Stands id t) {fault : Option Error} {t' : Task}
    {e : Effect} (goes : Goes s id fault t t' e) (fixed : ∀ v, Nudged t' v → v = t') :
    t' ∈ (e.apply (s.place id t') id).tasks := by
  have hplaced := (stands_place stands t' id t').2 (.inl ⟨rfl, rfl⟩)
  obtain ⟨v, hv, hn⟩ := (nudges_goes h stands goes).forth id t' hplaced
  rw [fixed v hn] at hv
  exact hv.mem

theorem lockFits_goes (h : LockFits s) (stands : s.Stands id t) {fault : Option Error} {t' : Task}
    {e : Effect} (goes : Goes s id fault t t' e) : LockFits (e.apply (s.place id t') id) := by
  have hp := lockFits_place h stands (goes_not_queued goes) t'
  cases goes with
  | announce => exact lockFits_invalidate hp
  | land => exact lockFits_closeFlight hp _ rfl
  | queue taken => exact lockFits_enqueue h stands (by simp) _
  | failRebuild | rejectRebuild => exact lockFits_unlock hp
  | finish => exact lockFits_unlock (lockFits_invalidate hp)
  | _ => exact lockFits_of_same hp rfl rfl

theorem lockFits_step {s' : State} {a : Act} (h : LockFits s) (hs : Step s a s') :
    LockFits s' := by
  cases hs with
  | call call => exact lockFits_start h call.task
  | go stands goes => exact lockFits_goes h stands goes
  | wait duration => exact lockFits_of_same h rfl rfl
  | drop stands gives =>
    cases gives with
    | queued => exact lockFits_dequeue h stands _
    | lead leads => exact lockFits_closeFlight (lockFits_place h stands (by simp) _) _ rfl
    | rebuild | swap | invalidate => exact lockFits_unlock (lockFits_place h stands (by simp) _)
    | _ => exact lockFits_of_same (lockFits_place h stands (by simp) .dropped) rfl rfl

theorem lockFits_run {store : Store} {acts : List Act} {count : Nat}
    (h : Run (fresh store) acts count s) : LockFits s := by
  induction h with
  | nothing => exact ⟨List.nodup_nil, fun i hi => by cases hi⟩
  | act run next ih => exact lockFits_step ih (step_of_act next)

end CommitSearch.Service
