import CommitSearch.Proofs.Service.Direct
import CommitSearch.Proofs.Service.Progress

/-!
# Calls that come one after the other

When a call is made only while no task is in progress, the store, the flights and the lock follow from
the stage of the one task that is in progress then (`Serving`). A step takes that task on, or ends it
with what the call returns on the store itself (`Onward`).
-/

namespace CommitSearch.Service

variable {store before : Store} {id : Nat} {s s' : State} {t t' : Task} {e : Effect}
  {fault : Option Error} {c : Call} {r : SearchRequest}

/-! ### Sequential runs -/

/-- A task whose next operation is a look into the cache or a write to it. -/
def Task.asksCache : Task → Bool
  | .search _ .lookup | .search _ .lookupAgain | .search _ (.write _ _)
  | .search _ (.written _ _) => true
  | _ => false

def IsUnreadable (text : String) : Prop := ∀ p, Page.decode text ≠ .ok p

/-- Runs from a store and an empty cache in which a call is made only when no task is in progress,
with the calls so far, the task of each, and the number of steps taken. Looks into the cache and
writes to it may fail, entries may at any time be lost or give way to ones that cannot be read, and
time may pass. -/
inductive Sequential (store : Store) : List (Call × Nat) → Nat → State → Prop
  | start : Sequential store [] 0 (fresh store)
  | call {calls : List (Call × Nat)} {steps : Nat} {s : State} (c : Call)
      (run : Sequential store calls steps s) (quiet : s.Quiet) :
    Sequential store (calls ++ [(c, s.tasks.length)]) steps (s.start c.task).1
  | step {calls : List (Call × Nat)} {steps id : Nat} {s s' : State} {fault : Option Error}
      (run : Sequential store calls steps s)
      (allowed : fault = none ∨ ∃ t, s.Stands id t ∧ t.asksCache = true)
      (next : s.act (.step id fault) = some s') : Sequential store calls (steps + 1) s'
  | spoil {calls : List (Call × Nat)} {steps : Nat} {s : State} (cache : MemoryCache)
      (run : Sequential store calls steps s)
      (spoilt : ∀ entry ∈ cache.entries, entry ∈ s.cache.entries ∨ IsUnreadable entry.value) :
    Sequential store calls steps { s with cache }
  | wait {calls : List (Call × Nat)} {steps : Nat} {s : State} (duration : Nat)
      (run : Sequential store calls steps s) :
    Sequential store calls steps { s with now := s.now + duration }

/-! ### The task in progress -/

def State.IsIdle (s : State) : Prop := s.flights = [] ∧ s.lock = ⟨none, []⟩

/-- What a search that leads holds is what the store answers, and the generation is the one it has
noted. -/
def SearchStage.Agrees (s : State) (r : SearchRequest) : SearchStage → Prop
  | .lookupAgain | .note => True
  | .resolve g => g = s.generation
  | .execute g q => g = s.generation ∧ s.store.search r = s.store.execute q
  | .executed g p | .compare g p | .write g p | .written g p | .recheck g p =>
    g = s.generation ∧ s.store.search r = .ok p
  | .land outcome => outcome = s.store.search r
  | _ => False

/-- The only task in progress serves a call that was made on the store `before`. -/
inductive Serving (before : Store) (s : State) (id : Nat) : Call → Task → Prop
  | accept {c : Commit} (idle : s.IsIdle) (same : s.store = before) :
    Serving before s id (.save c) (.save (.accept c))
  | insert {c d : Commit} (idle : s.IsIdle) (same : s.store = before)
      (check : Store.accept c = .ok d) : Serving before s id (.save c) (.save (.insert d))
  | announce {c : Commit} (idle : s.IsIdle) (saved : before.save c = .ok s.store) :
    Serving before s id (.save c) (.save .invalidate)
  | validate {r : SearchRequest} (idle : s.IsIdle) (same : s.store = before) :
    Serving before s id (.search r) (.search r .validate)
  | lookup {r : SearchRequest} (idle : s.IsIdle) (same : s.store = before)
      (valid : r.validate = .ok ()) : Serving before s id (.search r) (.search r .lookup)
  | join {r : SearchRequest} (idle : s.IsIdle) (same : s.store = before)
      (valid : r.validate = .ok ()) : Serving before s id (.search r) (.search r .join)
  | lead {r : SearchRequest} {stage : SearchStage} (flight : s.flights = [⟨r.key, []⟩])
      (lock : s.lock = ⟨none, []⟩) (same : s.store = before) (valid : r.validate = .ok ())
      (agrees : stage.Agrees s r) : Serving before s id (.search r) (.search r stage)
  | request (idle : s.IsIdle) (same : s.store = before) :
    Serving before s id .refresh (.refresh .request)
  | rebuild (flights : s.flights = []) (lock : s.lock = ⟨some id, []⟩) (same : s.store = before) :
    Serving before s id .refresh (.refresh .rebuild)
  | swap {snapshot : Snapshot} (flights : s.flights = []) (lock : s.lock = ⟨some id, []⟩)
      (same : s.store = before) (rebuilt : before.rebuilt = .ok snapshot) :
    Serving before s id .refresh (.refresh (.swap snapshot))
  | finish (flights : s.flights = []) (lock : s.lock = ⟨some id, []⟩)
      (refreshed : before.refresh = .ok s.store) :
    Serving before s id .refresh (.refresh .invalidate)
  | list {key : Option FilterKey} (idle : s.IsIdle) (same : s.store = before) :
    Serving before s id (.list key) (.list key)

/-- A bound on the steps that are left for a call and its sweep. -/
def Task.remaining : Task → Nat
  | .save (.accept _) => 4
  | .save (.insert _) => 3
  | .save .invalidate => 2
  | .search _ stage => stage.distance
  | .refresh .request | .refresh .queued => 5
  | .refresh .rebuild => 4
  | .refresh (.swap _) => 3
  | .refresh .invalidate => 2
  | .list _ | .sweep => 1
  | .ended _ | .dropped => 0

theorem remaining_task (c : Call) : c.task.remaining ≤ 14 := by
  cases c <;> exact Nat.le_of_ble_eq_true rfl

/-- Where a step of the task in progress leads: the task goes on, the call returns what it would
return on the store itself, or it does so and leaves a sweep behind. -/
inductive Onward (before : Store) (s s' : State) (id : Nat) (c : Call) (t : Task) : Prop
  | serves {t' : Task} (tasks : s'.tasks = (s.place id t').tasks)
      (serving : Serving before s' id c t') (nearer : t'.remaining < t.remaining)
  | returns (tasks : s'.tasks = (s.place id (.ended (c.onStore before).1)).tasks)
      (idle : s'.IsIdle) (stored : s'.store = (c.onStore before).2) (nearer : 0 < t.remaining)
  | sweeps (tasks : s'.tasks = ((s.place id (.ended (c.onStore before).1)).start .sweep).1.tasks)
      (idle : s'.IsIdle) (stored : s'.store = (c.onStore before).2) (nearer : 1 < t.remaining)

/-! ### What a step of the task in progress does -/

theorem unlock_of_queue_nil {holder : Option Nat} (h : s.lock = ⟨holder, []⟩) :
    s.unlock = ⟨{ s with lock := ⟨none, []⟩ }, []⟩ := by
  rw [State.unlock, h]

theorem closeFlight_of_unwaited {key : String} (h : s.flights = [⟨key, []⟩])
    (change : Task → Task) : s.closeFlight key change = ⟨{ s with flights := [] }, []⟩ := by
  have hwaiting : s.flights.waiting key = [] := by simp [h, Flights.waiting]
  have hclose : s.flights.close key = [] := by simp [h, Flights.close]
  have htasks : s.tasks.mapIdx (fun _ t => t) = s.tasks := List.ext_getElem? fun i => by simp
  simp [State.closeFlight, hwaiting, hclose, htasks]

theorem search_of_invalid {e : Error} (h : r.validate = .error e) : store.search r = .error e := by
  simp only [Store.search, h, bind, Except.bind]

theorem search_of_unresolved {e : Error} (valid : r.validate = .ok ())
    (h : store.resolve r.query = .error e) : store.search r = .error e := by
  simp only [Store.search, valid, h, bind, Except.bind]

theorem search_of_unplanned {e : Error} {words : List String} (valid : r.validate = .ok ())
    (resolve : store.resolve r.query = .ok words) (h : Store.queryOf r words = .error e) :
    store.search r = .error e := by
  simp only [Store.search, valid, resolve, h, bind, Except.bind]

theorem exists_planned {words : List String} (valid : r.validate = .ok ())
    (resolve : s.store.resolve r.query = .ok words) :
    ∃ stage, State.planned s.generation r words = stage ∧ stage.Agrees s r := by
  cases query : Store.queryOf r words with
  | error error =>
    refine ⟨.land (.error error), by rw [State.planned, query], ?_⟩
    exact (search_of_unplanned valid resolve query).symm
  | ok q =>
    refine ⟨.execute s.generation q, by rw [State.planned, query], rfl, ?_⟩
    exact search_eq_execute valid resolve query

theorem onStore_list (same : s.store = before) (key : Option FilterKey) :
    (Call.list key).onStore before = (s.listed key, before) := by
  cases key <;> simp only [Call.onStore, State.listed, same]

theorem Onward.returned {a : Except Error Answer} {stored : Store}
    (call : c.onStore before = (a, stored)) (tasks : s'.tasks = (s.place id (.ended a)).tasks)
    (idle : s'.IsIdle) (same : s'.store = stored) (nearer : 0 < t.remaining) :
    Onward before s s' id c t := by
  refine .returns ?_ idle ?_ nearer
  · rw [call]
    exact tasks
  · rw [call]
    exact same

theorem Onward.swept {a : Except Error Answer} {stored : Store}
    (call : c.onStore before = (a, stored))
    (tasks : s'.tasks = ((s.place id (.ended a)).start .sweep).1.tasks) (idle : s'.IsIdle)
    (same : s'.store = stored) (nearer : 1 < t.remaining) : Onward before s s' id c t := by
  refine .sweeps ?_ idle ?_ nearer
  · rw [call]
    exact tasks
  · rw [call]
    exact same

theorem leading_goes {stage : SearchStage} (flight : s.flights = [⟨r.key, []⟩])
    (lock : s.lock = ⟨none, []⟩) (same : s.store = before) (valid : r.validate = .ok ())
    (agrees : stage.Agrees s r) (cached : ∀ p, s.cached r = some p → s.store.search r = .ok p)
    (allowed : fault = none ∨ (Task.search r stage).asksCache = true)
    (goes : Goes s id fault (.search r stage) t' e) :
    Onward before s (e.apply (s.place id t') id) id (.search r) (.search r stage) := by
  -- Nothing else changes the store or the generation, so each branch compares what it holds with
  -- the store of the call; the branches for an outdated generation are not taken.
  have hnear := distance_goes goes
  cases goes with
  | failResolve | failExecute | failExecuted => simp [Task.asksCache] at allowed
  | failLookupAgain | missAgain => exact .serves rfl (.lead flight lock same valid trivial) hnear
  | hitAgain hit =>
    exact .serves rfl (.lead flight lock same valid (cached _ hit).symm) hnear
  | noteBlank blank =>
    have hwords : s.store.resolve r.query = .ok [] := by rw [Store.resolve, if_pos blank]
    obtain ⟨planned, heq, hplanned⟩ := exists_planned valid hwords
    rw [heq] at hnear ⊢
    exact .serves rfl (.lead flight lock same valid hplanned) hnear
  | note text => exact .serves rfl (.lead flight lock same valid rfl) hnear
  | rejectResolve resolve =>
    exact .serves rfl (.lead flight lock same valid (search_of_unresolved valid resolve).symm) hnear
  | resolve resolve =>
    obtain rfl : _ = s.generation := agrees
    obtain ⟨planned, heq, hplanned⟩ := exists_planned valid resolve
    rw [heq] at hnear ⊢
    exact .serves rfl (.lead flight lock same valid hplanned) hnear
  | rejectExecute execute =>
    exact .serves rfl (.lead flight lock same valid (agrees.2.trans execute).symm) hnear
  | execute execute =>
    exact .serves rfl (.lead flight lock same valid ⟨agrees.1, agrees.2.trans execute⟩) hnear
  | executed | fill | write | written =>
    exact .serves rfl (.lead flight lock same valid agrees) hnear
  | failWrite | failWritten | keep =>
    exact .serves rfl (.lead flight lock same valid agrees.2.symm) hnear
  | skip outdated | reject outdated => exact absurd agrees.1.symm outdated
  | invalid | valid | failLookup | hit | miss | lead | follow | receive | failDiscard | discard =>
    exact agrees.elim
  | @land _ _ outcome =>
    have hcall : (Call.search r).onStore before = (outcome.map Answer.page, before) := by
      rw [Call.onStore, ← same, show outcome = s.store.search r from agrees]
    have hclose := closeFlight_of_unwaited (s := s.place id (.ended (outcome.map Answer.page)))
      flight (State.answerTask outcome)
    rw [Effect.apply, hclose]
    exact .returned hcall rfl ⟨rfl, lock⟩ same (Nat.succ_pos _)

theorem serving_goes (h : Serving before s id c t)
    (cached : ∀ r p, c = .search r → s.cached r = some p → s.store.search r = .ok p)
    (allowed : fault = none ∨ t.asksCache = true) (goes : Goes s id fault t t' e) :
    Onward before s (e.apply (s.place id t') id) id c t := by
  cases h with
  | accept idle same =>
    cases goes with
    | refuse check =>
      have hcall : (Call.save _).onStore before = _ := onStore_save (Store.save_of_refused check)
      exact .returned hcall rfl idle same (Nat.succ_pos _)
    | accept check => exact .serves rfl (.insert idle same check) (Nat.le_refl _)
  | insert idle same check =>
    cases goes with
    | failInsert => simp [Task.asksCache] at allowed
    | rejectInsert insert =>
      have hsave := (Store.save_of_accepted check).trans (same ▸ insert)
      have hcall := onStore_save hsave
      exact .returned hcall rfl idle same (Nat.succ_pos _)
    | insert insert =>
      have hsave := (Store.save_of_accepted check).trans (same ▸ insert)
      exact .serves rfl (.announce idle hsave) (Nat.le_refl _)
  | announce idle saved =>
    cases goes with
    | announce =>
      have hcall := onStore_save saved
      exact .swept hcall rfl idle rfl (Nat.le_refl _)
  | @validate r idle same =>
    cases goes with
    | @invalid _ _ error validate =>
      have hcall : (Call.search r).onStore before = (.error error, before) := by
        simp only [Call.onStore, search_of_invalid validate, Except.map]
      exact .returned hcall rfl idle same (Nat.succ_pos _)
    | valid validate => exact .serves rfl (.lookup idle same validate) (Nat.le_refl _)
  | @lookup r idle same valid =>
    cases goes with
    | failLookup => exact .serves rfl (.join idle same valid) (Nat.le_refl _)
    | miss => exact .serves rfl (.join idle same valid) (Nat.le_refl _)
    | @hit _ p hit =>
      have hcall : (Call.search r).onStore before = (.ok (.page p), before) := by
        simp only [Call.onStore, ← same, cached r p rfl hit, Except.map]
      exact .returned hcall rfl idle same (Nat.succ_pos _)
  | join idle same valid =>
    cases goes with
    | lead free =>
      refine .serves rfl (.lead ?_ idle.2 same valid trivial) (Nat.le_refl _)
      show s.flights.begin _ = _
      rw [idle.1]
      rfl
    | follow taken =>
      rw [idle.1] at taken
      cases taken
  | @lead r stage flight lock same valid agrees =>
    exact leading_goes flight lock same valid agrees (fun p => cached r p rfl) allowed goes
  | request idle same =>
    cases goes with
    | acquire free =>
      refine .serves rfl (.rebuild idle.1 ?_ same) (Nat.le_refl _)
      show (⟨some id, s.lock.queue⟩ : Lock) = _
      rw [idle.2]
    | queue taken =>
      rw [idle.2] at taken
      cases taken
  | rebuild flights lock same =>
    cases goes with
    | failRebuild => simp [Task.asksCache] at allowed
    | @rejectRebuild error rebuild =>
      have hcall := onStore_refresh (refresh_of_unbuilt (same ▸ rebuild))
      have hunlock := unlock_of_queue_nil (s := s.place id (.ended (.error error))) lock
      rw [Effect.apply, hunlock]
      exact .returned hcall rfl ⟨flights, rfl⟩ same (Nat.succ_pos _)
    | rebuild rebuild =>
      exact .serves rfl (.swap flights lock same (same ▸ rebuild)) (Nat.le_refl _)
  | swap flights lock same rebuilt =>
    cases goes with
    | swap =>
      subst same
      exact .serves rfl (.finish flights lock (refresh_of_rebuilt rebuilt)) (Nat.le_refl _)
  | finish flights lock refreshed =>
    cases goes with
    | finish =>
      have hcall := onStore_refresh refreshed
      have hunlock := unlock_of_queue_nil (s := (s.place id (.ended (.ok .done))).invalidate.state) lock
      rw [Effect.apply, hunlock]
      exact .swept hcall rfl ⟨flights, rfl⟩ rfl (Nat.le_refl _)
  | @list key idle same =>
    have hcall := onStore_list same key
    cases goes with
    | failList => simp [Task.asksCache] at allowed
    | list =>
      exact .returned hcall rfl idle same (Nat.succ_pos _)

end CommitSearch.Service
