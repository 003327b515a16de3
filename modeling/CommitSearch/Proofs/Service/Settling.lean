import CommitSearch.Service.Script
import CommitSearch.Proofs.Service.LoneCall

/-!
# Calls under a script that holds and fails nothing

Such a script takes a call that is made at rest to its end and carries out the sweep that it leaves
behind, so the call returns (`Returned`) and the script is at rest again.
-/

namespace CommitSearch.Service

variable {before s' : State} {t : Task} {answer : Except Error Answer} {id fuel : Nat} {m : Move}

/-- What a call made on the service `before` has come to when it and its sweep are done. -/
structure Returned (before : State) (answer : Except Error Answer) (s : State) : Prop where
  stands : s.Stands before.tasks.length (.ended answer)
  tasks : ∃ more, s.tasks = before.tasks ++ more ∧ ∀ t ∈ more, t.isOver = true
  live : s.IsLive
  rejected : ∀ e, answer = .error e →
    s = { before with tasks := before.tasks ++ [.ended (.error e)] }

theorem stands_of_tasks {ended : List Task} (h : s'.tasks = before.tasks ++ t :: ended) :
    s'.Stands before.tasks.length t := by
  rw [State.Stands, h, List.getElem?_append_right (Nat.le_refl _), Nat.sub_self]
  rfl

theorem Finished.stands {woken : List Nat} (h : Finished before s' answer woken) :
    s'.Stands before.tasks.length (.ended answer) := by
  cases h with
  | plain lone => exact lone.stands
  | sweeps tasks => exact stands_of_tasks tasks

theorem Lone.returned (h : Lone before s' (.ended answer)) (idle : before.IsIdle) :
    Returned before answer s' := by
  refine ⟨h.stands, ⟨_, h.tasks, by simp [Task.isOver]⟩, h.live, ?_⟩
  rintro e rfl
  obtain ⟨store, cache, generation⟩ := h.intact rfl
  have hflights : s'.flights = before.flights := h.flights.trans idle.1.symm
  have hlock : s'.lock = before.lock := h.lock.trans idle.2.symm
  rw [← h.tasks, ← store, ← cache, ← generation, ← h.now, ← hflights, ← hlock]

namespace Script

variable {s : Script}

theorem run_succ (held : s.held = []) (failing : s.failing = [])
    (next : s.service.step id none = some m) (fuel : Nat) :
    ∃ log, run (fuel + 1) s id =
      run fuel { s with service := m.state, ready := s.ready ++ m.woken, log } id := by
  obtain ⟨t, -, -, stands, -⟩ := move_of_step next
  have htask : s.service.tasks[id]? = some t := stands
  cases hpoint : t.point with
  | none =>
    refine ⟨s.log, ?_⟩
    simp only [run, htask, hpoint, next, take]
  | some p =>
    refine ⟨s.log ++ t.arrival ++ t.effect s.service.cache s.service.now, ?_⟩
    simp only [run, htask, hpoint, held, failing, pass, next, take, List.contains_nil,
      Bool.false_eq_true, if_false]

theorem run_of_over (stands : s.service.Stands id t) (ended : t.isOver = true) (fuel : Nat) :
    run fuel s id = s := by
  have htask : s.service.tasks[id]? = some t := stands
  cases fuel with
  | zero => rfl
  | succ fuel =>
    cases t with
    | ended | dropped => simp only [run, htask, Task.point, State.step]
    | _ => cases ended

/-- A lone call is taken to its end, since each step brings it nearer and the fuel outlasts it. -/
theorem run_lone (held : s.held = []) (failing : s.failing = []) (lone : Lone before s.service t)
    (enough : t.remaining < fuel) :
    ∃ service log answer woken acts,
      run fuel s before.tasks.length = { s with service, ready := s.ready ++ woken, log } ∧
      Finished before service answer woken ∧ s.service.after acts = some service := by
  induction fuel generalizing s t with
  | zero => exact absurd enough (Nat.not_lt_zero _)
  | succ fuel ih =>
    by_cases ended : t.isOver = true
    · obtain ⟨answer, rfl⟩ := lone.exists_answer ended
      refine ⟨s.service, s.log, answer, [], [], ?_, .plain lone, rfl⟩
      rw [run_of_over lone.stands ended, List.append_nil]
    obtain ⟨m, next, hm⟩ := lone.exists_move (by simpa using ended)
    obtain ⟨log, hrun⟩ := run_succ held failing next fuel
    have hact : s.service.act (.step before.tasks.length none) = some m.state := by
      rw [State.act, next]
      rfl
    rw [hrun]
    rcases hm with ⟨t', hlone, hwoken, hnearer⟩ | hfinished
    · rw [hwoken, List.append_nil]
      obtain ⟨service, log', answer, woken, acts, hrest, hfinished, hacts⟩ :=
        ih (s := { s with service := m.state, log }) held failing hlone (by omega)
      refine ⟨service, log', answer, woken, .step before.tasks.length none :: acts, hrest,
        hfinished, ?_⟩
      rw [State.after, hact]
      exact hacts
    · refine ⟨m.state, log, .ok .done, m.woken, [.step before.tasks.length none], ?_, hfinished, ?_⟩
      · exact run_of_over hfinished.stands rfl fuel
      · rw [State.after, hact]
        rfl

/-- A sweep is carried out by one step. -/
theorem run_sweep (held : s.held = []) (failing : s.failing = [])
    (stands : s.service.Stands id .sweep) (live : s.service.IsLive) (fuel : Nat) :
    ∃ service log, run (fuel + 1) s id = { s with service, log } ∧
      service.tasks = s.service.tasks.set id (.ended (.ok .done)) ∧ service.IsLive ∧
      s.service.act (.step id none) = some service := by
  have htask : s.service.tasks[id]? = some .sweep := stands
  obtain ⟨m, next⟩ := Option.isSome_iff_exists.1 (step_isSome stands rfl rfl)
  obtain ⟨u, t', e, hu, goes, rfl⟩ := move_of_step next
  obtain rfl := stands.inj hu
  have hlive := isLive_goes live goes
  have hact : s.service.act (.step id none) = some (e.apply (s.service.place id t') id) := by
    rw [State.act, next]
    rfl
  obtain ⟨log, hrun⟩ := run_succ held failing next fuel
  cases goes with
  | sweep =>
    refine ⟨_, log, ?_, rfl, hlive, hact⟩
    rw [hrun]
    have hstands : (s.service.place id (.ended (.ok .done))).Stands id (.ended (.ok .done)) :=
      (stands_place stands _ _ _).2 (.inl ⟨rfl, rfl⟩)
    refine (run_of_over hstands rfl fuel).trans ?_
    simp only [Effect.move, Effect.woken, List.append_nil]

theorem settle_of_unready (h : s.ready = []) (fuel : Nat) : s.settle fuel = s := by
  cases fuel with
  | zero => rfl
  | succ fuel => simp only [settle, h]

theorem settle_of_ready (h : s.ready = [id]) (fuel : Nat) :
    s.settle (fuel + 1) = (run stepBound { s with ready := [] } id).settle fuel := by
  simp only [settle, h]

/-- A lone call that can go on comes to its end, and so does its sweep. -/
theorem settle_lone (held : s.held = []) (failing : s.failing = [])
    (ready : s.ready = [before.tasks.length]) (idle : before.IsIdle)
    (lone : Lone before s.service t) (enough : t.remaining < stepBound) (fuel : Nat) :
    ∃ service log answer acts, s.settle (fuel + 2) = { s with service, ready := [], log } ∧
      Returned before answer service ∧ s.service.after acts = some service := by
  obtain ⟨service, log, answer, woken, acts, hrun, hfinished, hacts⟩ :=
    run_lone (s := { s with ready := [] }) held failing lone enough
  rw [settle_of_ready ready, hrun]
  cases hfinished with
  | plain hlone =>
    exact ⟨service, log, answer, acts, settle_of_unready rfl _, hlone.returned idle, hacts⟩
  | sweeps tasks live =>
    have hsweep : service.Stands (before.tasks.length + 1) .sweep := by
      rw [State.Stands, tasks, List.getElem?_append_right (Nat.le_add_right _ 1), Nat.add_sub_cancel_left]
      rfl
    obtain ⟨service', log', hswept, htasks, hlive, hact⟩ := run_sweep
      (s := { s with service, ready := [], log }) held failing hsweep live (stepBound - 1)
    have hended : service'.tasks =
        before.tasks ++ [.ended (.ok .done), .ended (.ok .done)] := by
      rw [htasks, tasks, List.set_append_right _ _ (Nat.le_add_right _ 1), Nat.add_sub_cancel_left]
      rfl
    refine ⟨service', log', .ok .done, acts ++ [.step (before.tasks.length + 1) none], ?_, ?_, ?_⟩
    · rw [List.nil_append, settle_of_ready rfl]
      refine (congrArg (settle fuel) hswept).trans (settle_of_unready rfl _)
    · exact ⟨stands_of_tasks hended, ⟨_, hended, by simp [Task.isOver]⟩, hlive, fun e h => by cases h⟩
    · rw [State.after_snoc hacts]
      exact hact

/-- A call that is made at rest returns. -/
theorem occur_call (held : s.held = []) (failing : s.failing = []) (ready : s.ready = [])
    (idle : s.service.IsIdle) (live : s.service.IsLive) (c : Call) :
    ∃ service log answer acts, s.occur (.call c.task) = { s with service, log } ∧
      Returned s.service answer service ∧ s.service.after acts = some service := by
  have hready : s.ready ++ [s.service.tasks.length] = [s.service.tasks.length] := by
    rw [ready, List.nil_append]
  have hremaining : c.task.remaining < stepBound :=
    Nat.lt_of_le_of_lt (remaining_task c) (by decide)
  obtain ⟨service, log, answer, acts, hsettle, hreturned, hacts⟩ := settle_lone
    (s := { s with
      service := (s.service.start c.task).1, ready := s.ready ++ [s.service.tasks.length] })
    held failing hready idle (lone_start idle live c) hremaining
    (8 * (s.service.start c.task).1.tasks.length + 6)
  refine ⟨service, log, answer, .call c :: acts, hsettle.trans ?_, hreturned, hacts⟩
  rw [ready]

end Script
end CommitSearch.Service
