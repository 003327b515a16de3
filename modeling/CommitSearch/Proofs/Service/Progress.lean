import CommitSearch.Proofs.Service.Flights
import CommitSearch.Proofs.Service.History

/-!
# Searches come to an end

A search that does not wait can take a step, and whoever waits has a leader that can. Each step of a
search brings it nearer to its end and takes none of the others farther from it, so searches that are
neither dropped nor joined by others take a bounded number of steps.
-/

namespace CommitSearch.Service

variable {start s s' : State} {acts : List Act} {count : Nat} {a : Act} {i id : Nat}
  {t t' : Task} {e : Effect} {r : SearchRequest} {stage : SearchStage} {fault : Option Error}
  {key : String}

/-! ### Calls -/

/-- A call has a place of its own from its act on. -/
theorem place_of_call (run : Run start acts count s) (hl : LockFits start) {call : Call}
    (h : Calls start acts id call) : start.tasks.length ≤ id ∧ ∃ t, s.Stands id t := by
  obtain ⟨before, u, occurs, rfl⟩ := h
  constructor
  · obtain ⟨v, n, hv, -⟩ := run.at_moment ((List.prefix_append before _).trans occurs.order)
    obtain rfl := hv.eq_of_after occurs.reached
    exact hv.length_le hl
  · have hcall : start.after (before ++ [.call call]) = some (u.start call.task).1 := by
      rw [State.after_snoc occurs.reached]
      rfl
    refine run.onward (P := fun _ v => ∃ t, v.Stands u.tasks.length t) hcall occurs.order ?_ ?_
    · exact ⟨call.task, (stands_start u _ _ _).2 (.inr ⟨rfl, rfl⟩)⟩
    · intro acts' n v a v' hv _ _ _ next ⟨t, ht⟩
      exact stands_exists (hv.lockFits hl) (step_of_act next) ht

/-! ### Tasks that can go on -/

/-- A task that cannot go on until another one lets it. -/
def Task.isBlocked : Task → Bool
  | .search _ .waiting | .refresh .queued => true
  | _ => false

theorem stepSave_isSome (s : State) (id : Nat) (stage : SaveStage) :
    (s.stepSave id none stage).isSome = true := by
  cases stage with
  | invalidate => rfl
  | accept | insert =>
    dsimp only [State.stepSave]
    split <;> rfl

theorem stepSearch_isSome (s : State) (id : Nat) (r : SearchRequest) (moves : stage ≠ .waiting) :
    (s.stepSearch id none r stage).isSome = true := by
  cases stage with
  | waiting => exact absurd rfl moves
  | validate | lookup | join | lookupAgain | note | resolve | execute | compare | recheck =>
    simp only [State.stepSearch]
    split <;> rfl
  | _ => rfl

theorem stepRefresh_isSome (s : State) (id : Nat) {stage : RefreshStage} (moves : stage ≠ .queued) :
    (s.stepRefresh id none stage).isSome = true := by
  cases stage with
  | queued => exact absurd rfl moves
  | request | rebuild =>
    dsimp only [State.stepRefresh]
    split <;> rfl
  | _ => rfl

theorem step_isSome (hs : s.Stands i t) (going : t.isOver = false) (free : t.isBlocked = false) :
    (s.step i none).isSome = true := by
  rw [State.step, show s.tasks[i]? = _ from hs]
  cases t with
  | save stage => exact stepSave_isSome s i stage
  | search r stage =>
    refine stepSearch_isSome s i r ?_
    rintro rfl
    cases free
  | refresh stage =>
    refine stepRefresh_isSome s i ?_
    rintro rfl
    cases free
  | list | sweep => rfl
  | ended | dropped => cases going

theorem exists_leader_of_waiting (h : FlightFits r.key s) (hs : s.Stands i (.search r .waiting)) :
    ∃ j, s.Leads j r.key := by
  refine h.flight_iff.1 ?_
  by_contra free
  have hmem := h.queued hs rfl
  rw [Flights.waiting_eq_nil (Bool.eq_false_iff.2 free)] at hmem
  cases hmem

/-- Where nothing can take a step, no search is in progress: it would wait, and so would its leader. -/
theorem not_search_of_stuck (h : FlightFits r.key s) (stuck : ∀ id, s.step id none = none) :
    ¬ s.Stands i (.search r stage) := by
  have hmoves : ∀ {j q stage}, s.Stands j (.search q stage) → stage = .waiting := by
    intro j q stage hs
    cases stage with
    | waiting => rfl
    | _ =>
      have hsome := step_isSome hs rfl rfl
      rw [stuck j] at hsome
      cases hsome
  intro hs
  obtain rfl := hmoves hs
  obtain ⟨j, q, stage, hj, leads, -⟩ := exists_leader_of_waiting h hs
  obtain rfl := hmoves hj
  cases leads

/-! ### How far searches are from their ends -/

/-- A bound on the steps that a search has yet to take. -/
def SearchStage.distance : SearchStage → Nat
  | .validate => 14
  | .lookup => 13
  | .join => 12
  | .lookupAgain => 11
  | .note => 10
  | .resolve _ => 9
  | .execute _ _ => 8
  | .executed _ _ => 7
  | .compare _ _ => 6
  | .write _ _ => 5
  | .written _ _ => 4
  | .recheck _ _ => 3
  | .discard _ => 2
  | .land _ | .waiting | .answered _ => 1

def Task.distance : Task → Nat
  | .search _ stage => stage.distance
  | _ => 0

def totalDistance : List Task → Nat
  | [] => 0
  | t :: rest => t.distance + totalDistance rest

def State.distance (s : State) : Nat := totalDistance s.tasks

theorem distance_planned (r : SearchRequest) (words : List String) (g : UInt64) :
    (State.planned g r words).distance ≤ 8 := by
  unfold State.planned
  split
  · exact Nat.le_of_ble_eq_true rfl
  · exact Nat.le_refl 8

theorem distance_goes (goes : Goes s id fault (.search r stage) t' e) :
    t'.distance < stage.distance := by
  generalize htask : Task.search r stage = t at goes
  cases goes with
  | noteBlank | resolve =>
    cases htask
    simp only [Task.distance]
    exact Nat.lt_of_le_of_lt (distance_planned _ _ _) (by simp [SearchStage.distance])
  | _ => cases htask <;> simp [Task.distance, SearchStage.distance]

theorem totalDistance_set (l : List Task) {n : Nat} (h : l[n]? = some t) (t' : Task) :
    totalDistance (l.set n t') + t.distance = totalDistance l + t'.distance := by
  induction l generalizing n with
  | nil => cases h
  | cons head rest ih =>
    cases n with
    | zero =>
      cases h
      simp only [List.set_cons_zero, totalDistance]
      omega
    | succ n =>
      have hrest := ih (n := n) h
      simp only [List.set_cons_succ, totalDistance]
      omega

theorem totalDistance_mapIdx (l : List Task) {f : Nat → Task → Task}
    (h : ∀ i t, (f i t).distance = t.distance) :
    totalDistance (l.mapIdx f) = totalDistance l := by
  induction l generalizing f with
  | nil => rfl
  | cons head rest ih =>
    have hrest := ih (f := fun i => f (i + 1)) fun i => h (i + 1)
    simp only [List.mapIdx_cons, totalDistance, h]
    omega

theorem totalDistance_append (l l' : List Task) :
    totalDistance (l ++ l') = totalDistance l + totalDistance l' := by
  induction l with
  | nil => simp [totalDistance]
  | cons head rest ih =>
    simp only [List.cons_append, totalDistance, ih]
    omega

theorem distance_place (hs : s.Stands id t) (t' : Task) :
    (s.place id t').distance + t.distance = s.distance + t'.distance :=
  totalDistance_set s.tasks hs t'

theorem distance_closeFlight (s : State) (key : String) (outcome : Except Error Page) :
    (s.closeFlight key (State.answerTask outcome)).state.distance = s.distance := by
  have hanswer : ∀ t, (State.answerTask outcome t).distance = t.distance := by
    intro t
    unfold State.answerTask
    split <;> rfl
  refine totalDistance_mapIdx s.tasks fun i t => ?_
  split
  · exact hanswer t
  · rfl

/-- A step of a search brings all together nearer to their ends. -/
theorem distance_step (hs : s.Stands id (.search r stage))
    (goes : Goes s id fault (.search r stage) t' e) :
    (e.apply (s.place id t') id).distance < s.distance := by
  have hplace := distance_place hs t'
  have hless := distance_goes goes
  have heffect : (e.apply (s.place id t') id).distance = (s.place id t').distance := by
    cases goes with
    | land => exact distance_closeFlight _ _ _
    | _ => rfl
  change _ + stage.distance = _ at hplace
  omega

theorem distance_start (s : State) (t : Task) :
    (s.start t).1.distance = s.distance + t.distance :=
  totalDistance_append s.tasks [t]

theorem distance_of_over (h : ∀ t ∈ s.tasks, t.isOver = true) : s.distance = 0 := by
  have hall : ∀ l : List Task, (∀ t ∈ l, t.isOver = true) → totalDistance l = 0 := by
    intro l
    induction l with
    | nil => intro; rfl
    | cons head rest ih =>
      intro hl
      have hrest := ih fun t ht => hl t (List.mem_cons_of_mem _ ht)
      have hhead := hl head List.mem_cons_self
      cases head with
      | ended | dropped => simp [totalDistance, Task.distance, hrest]
      | _ => cases hhead
  exact hall s.tasks h

end CommitSearch.Service
