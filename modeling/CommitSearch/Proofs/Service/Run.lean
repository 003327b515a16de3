import CommitSearch.Service

/-!
# Runs of the service

A run is any sequence of possible acts: calls come, tasks take their steps, with or without a fault
of the store or cache, calls are dropped, and time passes. `Goes` says what one step makes of its
task and what it does to everything else, one case for each, and everything about runs is proved
from it.
-/

namespace CommitSearch.Service

open CommitSearch.Text

/-- What a client can ask for. -/
inductive Call
  | save (c : Commit)
  | search (r : SearchRequest)
  | refresh
  | list (key : Option FilterKey)

def Call.task : Call → Task
  | .save c => saving c
  | .search r => searching r
  | .refresh => refreshing
  | .list key => listing key

/-- What can happen to the service. A fault is that of the operation which the step makes. -/
inductive Act
  | call (call : Call)
  | step (id : Nat) (fault : Option Error)
  | drop (id : Nat)
  | wait (duration : Nat)

/-- An act by which no call is dropped and no operation fails. -/
def Act.isCalm : Act → Bool
  | .call _ | .step _ none | .wait _ => true
  | .step _ (some _) | .drop _ => false

/-- An act by which no operation fails; calls may be dropped. -/
def Act.isFaultless : Act → Bool
  | .step _ (some _) => false
  | _ => true

namespace State

def act (s : State) : Act → Option State
  | .call call => some (s.start call.task).1
  | .step id fault => (s.step id fault).map Move.state
  | .drop id => (s.drop id).map Move.state
  | .wait duration => some { s with now := s.now + duration }

def Stands (s : State) (id : Nat) (t : Task) : Prop := s.tasks[id]? = some t

end State

/-- A task that has changed the store and has yet to move the generation on. -/
def Task.isDirty : Task → Bool
  | .save .invalidate | .refresh .invalidate => true
  | _ => false

/-- A call that has returned or was dropped, or a sweep that is done. -/
def Task.isOver : Task → Bool
  | .ended _ | .dropped => true
  | _ => false

/-- How often an act moves the generation on. -/
def State.invalidations (s : State) : Act → Nat
  | .step id _ => if (s.tasks[id]?).any Task.isDirty then 1 else 0
  | _ => 0

/-- The states to which sequences of acts lead, and how often the generation moved on the way. -/
inductive Run (start : State) : List Act → Nat → State → Prop
  | nothing : Run start [] 0 start
  | act {acts : List Act} {count : Nat} {s s' : State} {a : Act} (run : Run start acts count s)
      (next : s.act a = some s') : Run start (acts ++ [a]) (count + s.invalidations a) s'

def State.after (s : State) : List Act → Option State
  | [] => some s
  | a :: rest => (s.act a).bind fun s' => s'.after rest

theorem Run.after {start s s' : State} {acts : List Act} {count : Nat} (h : Run start acts count s)
    {more : List Act} (hs : s.after more = some s') :
    ∃ n ≤ count + more.length, Run start (acts ++ more) n s' := by
  induction more generalizing acts count s with
  | nil =>
    cases hs
    exact ⟨count, Nat.le_refl _, by simpa using h⟩
  | cons a rest ih =>
    obtain ⟨u, hu, hrest⟩ := Option.bind_eq_some_iff.1 hs
    obtain ⟨n, hn, run⟩ := ih (h.act hu) hrest
    have hone : s.invalidations a ≤ 1 := by
      unfold State.invalidations
      split
      · split <;> omega
      · omega
    refine ⟨n, ?_, by simpa using run⟩
    rw [List.length_cons]
    omega

/-! ### What steps can do -/

/-- What a step does to the service apart from its own task. -/
inductive Effect
  | nothing
  | store (store : Store)
  | cache (cache : MemoryCache)
  | begin (key : String)
  | wait (key : String)
  | land (key : String) (outcome : Except Error Page)
  | abandon (key : String)
  | lock (lock : Lock)
  | unlock
  | invalidate
  | invalidateAndUnlock

def Effect.apply (s : State) (id : Nat) : Effect → State
  | .nothing => s
  | .store stored => { s with store := stored }
  | .cache cached => { s with cache := cached }
  | .begin key => { s with flights := s.flights.begin key }
  | .wait key => { s with flights := s.flights.wait key id }
  | .land key outcome => (s.closeFlight key (State.answerTask outcome)).state
  | .abandon key => (s.closeFlight key State.rejoinTask).state
  | .lock changed => { s with lock := changed }
  | .unlock => s.unlock.state
  | .invalidate => s.invalidate.state
  | .invalidateAndUnlock => s.invalidate.state.unlock.state

/-- The tasks that can go on because of an effect. -/
def Effect.woken (s : State) : Effect → List Nat
  | .land key _ | .abandon key => s.flights.waiting key
  | .unlock => s.unlock.woken
  | .invalidate => s.invalidate.woken
  | .invalidateAndUnlock => s.invalidate.woken ++ s.invalidate.state.unlock.woken
  | .nothing | .store _ | .cache _ | .begin _ | .wait _ | .lock _ => []

def Effect.move (s : State) (id : Nat) (e : Effect) : Move := ⟨e.apply s id, e.woken s⟩

/-- A step of a task with a fault: the task before it, the task after it, and its effect. -/
inductive Goes (s : State) (id : Nat) : Option Error → Task → Task → Effect → Prop
  | refuse {fault : Option Error} {c : Commit} {e : Error} (check : Store.accept c = .error e) :
    Goes s id fault (.save (.accept c)) (.ended (.error e)) .nothing
  | accept {fault : Option Error} {c d : Commit} (check : Store.accept c = .ok d) :
    Goes s id fault (.save (.accept c)) (.save (.insert d)) .nothing
  | failInsert {c : Commit} {e : Error} :
    Goes s id (some e) (.save (.insert c)) (.ended (.error e)) .nothing
  | rejectInsert {c : Commit} {e : Error} (insert : s.store.insert c = .error e) :
    Goes s id none (.save (.insert c)) (.ended (.error e)) .nothing
  | insert {c : Commit} {store : Store} (insert : s.store.insert c = .ok store) :
    Goes s id none (.save (.insert c)) (.save .invalidate) (.store store)
  | announce {fault : Option Error} :
    Goes s id fault (.save .invalidate) (.ended (.ok .done)) .invalidate
  | invalid {fault : Option Error} {r : SearchRequest} {e : Error}
      (validate : r.validate = .error e) :
    Goes s id fault (.search r .validate) (.ended (.error e)) .nothing
  | valid {fault : Option Error} {r : SearchRequest} (validate : r.validate = .ok ()) :
    Goes s id fault (.search r .validate) (.search r .lookup) .nothing
  | failLookup {r : SearchRequest} {e : Error} :
    Goes s id (some e) (.search r .lookup) (.search r .join) .nothing
  | hit {r : SearchRequest} {p : Page} (cached : s.cached r = some p) :
    Goes s id none (.search r .lookup) (.ended (.ok (.page p))) (.cache (s.touched r).cache)
  | miss {r : SearchRequest} (cached : s.cached r = none) :
    Goes s id none (.search r .lookup) (.search r .join) (.cache (s.touched r).cache)
  | lead {fault : Option Error} {r : SearchRequest} (free : s.flights.has r.key = false) :
    Goes s id fault (.search r .join) (.search r .lookupAgain) (.begin r.key)
  | follow {fault : Option Error} {r : SearchRequest} (taken : s.flights.has r.key = true) :
    Goes s id fault (.search r .join) (.search r .waiting) (.wait r.key)
  | receive {fault : Option Error} {r : SearchRequest} {outcome : Except Error Page} :
    Goes s id fault (.search r (.answered outcome)) (.ended (outcome.map Answer.page)) .nothing
  | failLookupAgain {r : SearchRequest} {e : Error} :
    Goes s id (some e) (.search r .lookupAgain) (.search r .note) .nothing
  | hitAgain {r : SearchRequest} {p : Page} (cached : s.cached r = some p) :
    Goes s id none (.search r .lookupAgain) (.search r (.land (.ok p)))
      (.cache (s.touched r).cache)
  | missAgain {r : SearchRequest} (cached : s.cached r = none) :
    Goes s id none (.search r .lookupAgain) (.search r .note) (.cache (s.touched r).cache)
  | noteBlank {fault : Option Error} {r : SearchRequest} (blank : (trim r.query).isEmpty = true) :
    Goes s id fault (.search r .note) (.search r (State.planned s.generation r [])) .nothing
  | note {fault : Option Error} {r : SearchRequest} (text : (trim r.query).isEmpty = false) :
    Goes s id fault (.search r .note) (.search r (.resolve s.generation)) .nothing
  | failResolve {r : SearchRequest} {g : UInt64} {e : Error} :
    Goes s id (some e) (.search r (.resolve g)) (.search r (.land (.error e))) .nothing
  | rejectResolve {r : SearchRequest} {g : UInt64} {e : Error}
      (resolve : s.store.resolve r.query = .error e) :
    Goes s id none (.search r (.resolve g)) (.search r (.land (.error e))) .nothing
  | resolve {r : SearchRequest} {g : UInt64} {words : List String}
      (resolve : s.store.resolve r.query = .ok words) :
    Goes s id none (.search r (.resolve g)) (.search r (State.planned g r words)) .nothing
  | failExecute {r : SearchRequest} {g : UInt64} {q : Query} {e : Error} :
    Goes s id (some e) (.search r (.execute g q)) (.search r (.land (.error e))) .nothing
  | rejectExecute {r : SearchRequest} {g : UInt64} {q : Query} {e : Error}
      (execute : s.store.execute q = .error e) :
    Goes s id none (.search r (.execute g q)) (.search r (.land (.error e))) .nothing
  | execute {r : SearchRequest} {g : UInt64} {q : Query} {p : Page}
      (execute : s.store.execute q = .ok p) :
    Goes s id none (.search r (.execute g q)) (.search r (.executed g p)) .nothing
  | failExecuted {r : SearchRequest} {g : UInt64} {p : Page} {e : Error} :
    Goes s id (some e) (.search r (.executed g p)) (.search r (.land (.error e))) .nothing
  | executed {r : SearchRequest} {g : UInt64} {p : Page} :
    Goes s id none (.search r (.executed g p)) (.search r (.compare g p)) .nothing
  | fill {fault : Option Error} {r : SearchRequest} {g : UInt64} {p : Page}
      (current : s.generation = g) :
    Goes s id fault (.search r (.compare g p)) (.search r (.write g p)) .nothing
  | skip {fault : Option Error} {r : SearchRequest} {g : UInt64} {p : Page}
      (outdated : s.generation ≠ g) :
    Goes s id fault (.search r (.compare g p)) (.search r (.land (.ok p))) .nothing
  | failWrite {r : SearchRequest} {g : UInt64} {p : Page} {e : Error} :
    Goes s id (some e) (.search r (.write g p)) (.search r (.land (.ok p))) .nothing
  | write {r : SearchRequest} {g : UInt64} {p : Page} :
    Goes s id none (.search r (.write g p)) (.search r (.written g p))
      (.cache (s.cache.set s.now r.key p.encode resultLifetime))
  | failWritten {r : SearchRequest} {g : UInt64} {p : Page} {e : Error} :
    Goes s id (some e) (.search r (.written g p)) (.search r (.land (.ok p))) .nothing
  | written {r : SearchRequest} {g : UInt64} {p : Page} :
    Goes s id none (.search r (.written g p)) (.search r (.recheck g p)) .nothing
  | keep {fault : Option Error} {r : SearchRequest} {g : UInt64} {p : Page}
      (current : s.generation = g) :
    Goes s id fault (.search r (.recheck g p)) (.search r (.land (.ok p))) .nothing
  | reject {fault : Option Error} {r : SearchRequest} {g : UInt64} {p : Page}
      (outdated : s.generation ≠ g) :
    Goes s id fault (.search r (.recheck g p)) (.search r (.discard p)) .nothing
  | failDiscard {r : SearchRequest} {p : Page} {e : Error} :
    Goes s id (some e) (.search r (.discard p)) (.search r (.land (.ok p))) .nothing
  | discard {r : SearchRequest} {p : Page} :
    Goes s id none (.search r (.discard p)) (.search r (.land (.ok p)))
      (.cache (s.cache.deletePattern r.key).2)
  | land {fault : Option Error} {r : SearchRequest} {outcome : Except Error Page} :
    Goes s id fault (.search r (.land outcome)) (.ended (outcome.map Answer.page))
      (.land r.key outcome)
  | acquire {fault : Option Error} (free : s.lock.holder = none) :
    Goes s id fault (.refresh .request) (.refresh .rebuild) (.lock ⟨some id, s.lock.queue⟩)
  | queue {fault : Option Error} {holder : Nat} (taken : s.lock.holder = some holder) :
    Goes s id fault (.refresh .request) (.refresh .queued)
      (.lock ⟨s.lock.holder, s.lock.queue ++ [id]⟩)
  | failRebuild {e : Error} :
    Goes s id (some e) (.refresh .rebuild) (.ended (.error e)) .unlock
  | rejectRebuild {e : Error} (rebuild : s.store.rebuilt = .error e) :
    Goes s id none (.refresh .rebuild) (.ended (.error e)) .unlock
  | rebuild {snapshot : Snapshot} (rebuild : s.store.rebuilt = .ok snapshot) :
    Goes s id none (.refresh .rebuild) (.refresh (.swap snapshot)) .nothing
  | swap {fault : Option Error} {snapshot : Snapshot} :
    Goes s id fault (.refresh (.swap snapshot)) (.refresh .invalidate)
      (.store (s.store.swap snapshot))
  | finish {fault : Option Error} :
    Goes s id fault (.refresh .invalidate) (.ended (.ok .done)) .invalidateAndUnlock
  | failList {key : Option FilterKey} {e : Error} :
    Goes s id (some e) (.list key) (.ended (.error e)) .nothing
  | list {key : Option FilterKey} : Goes s id none (.list key) (.ended (s.listed key)) .nothing
  | failSweep {e : Error} : Goes s id (some e) .sweep (.ended (.error e)) .nothing
  | sweep :
    Goes s id none .sweep (.ended (.ok .done)) (.cache (s.cache.deletePattern searchPattern).2)

/-- How a task is given up, and the effect. -/
inductive GivesUp (s : State) (id : Nat) : Task → Effect → Prop
  | save {stage : SaveStage} : GivesUp s id (.save stage) .nothing
  | list {key : Option FilterKey} : GivesUp s id (.list key) .nothing
  | follow {r : SearchRequest} {stage : SearchStage} (follows : stage.leads = false) :
    GivesUp s id (.search r stage) .nothing
  | lead {r : SearchRequest} {stage : SearchStage} (leads : stage.leads = true) :
    GivesUp s id (.search r stage) (.abandon r.key)
  | request : GivesUp s id (.refresh .request) .nothing
  | queued : GivesUp s id (.refresh .queued)
      (.lock ⟨s.lock.holder, s.lock.queue.filter (· != id)⟩)
  | rebuild : GivesUp s id (.refresh .rebuild) .unlock
  | swap {snapshot : Snapshot} : GivesUp s id (.refresh (.swap snapshot)) .unlock
  | invalidate : GivesUp s id (.refresh .invalidate) .unlock

/-- An act, the service before it and the service after it. -/
inductive Step (s : State) : Act → State → Prop
  | call (call : Call) : Step s (.call call) (s.start call.task).1
  | go {id : Nat} {fault : Option Error} {t t' : Task} {e : Effect} (stands : s.Stands id t)
      (goes : Goes s id fault t t' e) : Step s (.step id fault) (e.apply (s.place id t') id)
  | drop {id : Nat} {t : Task} {e : Effect} (stands : s.Stands id t) (gives : GivesUp s id t e) :
    Step s (.drop id) (e.apply (s.place id .dropped) id)
  | wait (duration : Nat) : Step s (.wait duration) { s with now := s.now + duration }

theorem goes_of_stepSave {s : State} {id : Nat} {fault : Option Error} {stage : SaveStage}
    {m : Move} (h : s.stepSave id fault stage = some m) :
    ∃ t' e, Goes s id fault (.save stage) t' e ∧ m = e.move (s.place id t') id := by
  cases stage with
  | accept c =>
    dsimp only [State.stepSave] at h
    split at h
    · next check => cases h; exact ⟨_, _, .refuse check, rfl⟩
    · next check => cases h; exact ⟨_, _, .accept check, rfl⟩
  | insert c =>
    dsimp only [State.stepSave] at h
    split at h
    · cases h; exact ⟨_, _, .failInsert, rfl⟩
    · split at h
      · next insert => cases h; exact ⟨_, _, .rejectInsert insert, rfl⟩
      · next insert => cases h; exact ⟨_, _, .insert insert, rfl⟩
  | invalidate => cases h; exact ⟨_, _, .announce, rfl⟩

theorem goes_of_stepSearch {s : State} {id : Nat} {fault : Option Error} {r : SearchRequest}
    {stage : SearchStage} {m : Move} (h : s.stepSearch id fault r stage = some m) :
    ∃ t' e, Goes s id fault (.search r stage) t' e ∧ m = e.move (s.place id t') id := by
  cases stage with
  | validate =>
    simp only [State.stepSearch] at h
    split at h
    · next validate => cases h; exact ⟨_, _, .invalid validate, rfl⟩
    · next validate => cases h; exact ⟨_, _, .valid validate, rfl⟩
  | lookup =>
    simp only [State.stepSearch] at h
    split at h
    · cases h; exact ⟨_, _, .failLookup, rfl⟩
    · split at h
      · next cached => cases h; exact ⟨_, _, .hit cached, rfl⟩
      · next cached => cases h; exact ⟨_, _, .miss cached, rfl⟩
  | join =>
    simp only [State.stepSearch] at h
    split at h
    · next taken => cases h; exact ⟨_, _, .follow taken, rfl⟩
    · next free => cases h; exact ⟨_, _, .lead (by simpa using free), rfl⟩
  | waiting => cases h
  | answered outcome => cases h; exact ⟨_, _, .receive, rfl⟩
  | lookupAgain =>
    simp only [State.stepSearch] at h
    split at h
    · cases h; exact ⟨_, _, .failLookupAgain, rfl⟩
    · split at h
      · next cached => cases h; exact ⟨_, _, .hitAgain cached, rfl⟩
      · next cached => cases h; exact ⟨_, _, .missAgain cached, rfl⟩
  | note =>
    simp only [State.stepSearch] at h
    split at h
    · next blank => cases h; exact ⟨_, _, .noteBlank blank, rfl⟩
    · next text => cases h; exact ⟨_, _, .note (by simpa using text), rfl⟩
  | resolve g =>
    simp only [State.stepSearch] at h
    split at h
    · cases h; exact ⟨_, _, .failResolve, rfl⟩
    · split at h
      · next resolve => cases h; exact ⟨_, _, .rejectResolve resolve, rfl⟩
      · next resolve => cases h; exact ⟨_, _, .resolve resolve, rfl⟩
  | execute g q =>
    simp only [State.stepSearch] at h
    split at h
    · cases h; exact ⟨_, _, .failExecute, rfl⟩
    · split at h
      · next execute => cases h; exact ⟨_, _, .rejectExecute execute, rfl⟩
      · next execute => cases h; exact ⟨_, _, .execute execute, rfl⟩
  | executed g p =>
    simp only [State.stepSearch] at h
    split at h
    · cases h; exact ⟨_, _, .failExecuted, rfl⟩
    · cases h; exact ⟨_, _, .executed, rfl⟩
  | compare g p =>
    simp only [State.stepSearch] at h
    split at h
    · next current => cases h; exact ⟨_, _, .fill current, rfl⟩
    · next outdated => cases h; exact ⟨_, _, .skip outdated, rfl⟩
  | write g p =>
    simp only [State.stepSearch] at h
    split at h
    · cases h; exact ⟨_, _, .failWrite, rfl⟩
    · cases h; exact ⟨_, _, .write, rfl⟩
  | written g p =>
    simp only [State.stepSearch] at h
    split at h
    · cases h; exact ⟨_, _, .failWritten, rfl⟩
    · cases h; exact ⟨_, _, .written, rfl⟩
  | recheck g p =>
    simp only [State.stepSearch] at h
    split at h
    · next current => cases h; exact ⟨_, _, .keep current, rfl⟩
    · next outdated => cases h; exact ⟨_, _, .reject outdated, rfl⟩
  | discard p =>
    simp only [State.stepSearch] at h
    split at h
    · cases h; exact ⟨_, _, .failDiscard, rfl⟩
    · cases h; exact ⟨_, _, .discard, rfl⟩
  | land outcome => cases h; exact ⟨_, _, .land, rfl⟩

theorem goes_of_stepRefresh {s : State} {id : Nat} {fault : Option Error} {stage : RefreshStage}
    {m : Move} (h : s.stepRefresh id fault stage = some m) :
    ∃ t' e, Goes s id fault (.refresh stage) t' e ∧ m = e.move (s.place id t') id := by
  cases stage with
  | request =>
    simp only [State.stepRefresh] at h
    split at h
    · next free => cases h; exact ⟨_, _, .acquire free, rfl⟩
    · next taken => cases h; exact ⟨_, _, .queue taken, rfl⟩
  | queued => cases h
  | rebuild =>
    simp only [State.stepRefresh] at h
    split at h
    · cases h; exact ⟨_, _, .failRebuild, rfl⟩
    · split at h
      · next rebuild => cases h; exact ⟨_, _, .rejectRebuild rebuild, rfl⟩
      · next rebuild => cases h; exact ⟨_, _, .rebuild rebuild, rfl⟩
  | swap snapshot => cases h; exact ⟨_, _, .swap, rfl⟩
  | invalidate => cases h; exact ⟨_, _, .finish, rfl⟩

theorem move_of_step {s : State} {id : Nat} {fault : Option Error} {m : Move}
    (h : s.step id fault = some m) :
    ∃ t t' e, s.Stands id t ∧ Goes s id fault t t' e ∧ m = e.move (s.place id t') id := by
  unfold State.step at h
  split at h
  · cases h
  · next stands =>
    obtain ⟨t', e, goes, he⟩ := goes_of_stepSave h
    exact ⟨_, t', e, stands, goes, he⟩
  · next stands =>
    obtain ⟨t', e, goes, he⟩ := goes_of_stepSearch h
    exact ⟨_, t', e, stands, goes, he⟩
  · next stands =>
    obtain ⟨t', e, goes, he⟩ := goes_of_stepRefresh h
    exact ⟨_, t', e, stands, goes, he⟩
  · next stands =>
    split at h
    · cases h; exact ⟨_, _, _, stands, .failList, rfl⟩
    · cases h; exact ⟨_, _, _, stands, .list, rfl⟩
  · next stands =>
    split at h
    · cases h; exact ⟨_, _, _, stands, .failSweep, rfl⟩
    · cases h; exact ⟨_, _, _, stands, .sweep, rfl⟩
  · cases h
  · cases h

theorem step_of_step {s : State} {id : Nat} {fault : Option Error} {m : Move}
    (h : s.step id fault = some m) : Step s (.step id fault) m.state := by
  obtain ⟨t, t', e, stands, goes, rfl⟩ := move_of_step h
  exact .go stands goes

theorem step_of_drop {s : State} {id : Nat} {m : Move} (h : s.drop id = some m) :
    Step s (.drop id) m.state := by
  unfold State.drop at h
  split at h
  · next r stage stands =>
    dsimp only at h
    split at h
    · next leads => cases h; exact .drop stands (.lead leads)
    · next follows => cases h; exact .drop stands (.follow (by simpa using follows))
  · next stage stands =>
    dsimp only at h
    split at h
    · cases h; exact .drop stands .request
    · cases h; exact .drop stands .queued
    · cases h; exact .drop stands .rebuild
    · cases h; exact .drop stands .swap
    · cases h; exact .drop stands .invalidate
  · next stands => cases h; exact .drop stands .save
  · next stands => cases h; exact .drop stands .list
  · cases h

theorem step_of_act {s s' : State} {a : Act} (h : s.act a = some s') : Step s a s' := by
  cases a with
  | call call => cases h; exact .call call
  | step id fault =>
    obtain ⟨m, hm, rfl⟩ := Option.map_eq_some_iff.1 h
    exact step_of_step hm
  | drop id =>
    obtain ⟨m, hm, rfl⟩ := Option.map_eq_some_iff.1 h
    exact step_of_drop hm
  | wait duration => cases h; exact .wait duration

end CommitSearch.Service
