import CommitSearch.Proofs.Service.Backends

/-!
# The own store and cache as a backend

What a service holds of a store and a cache, together with the faults of the operations to come, is a
backend. Main statement: a step of a task that is given the replies of this backend is the step that
the service takes over what it holds.
-/

namespace CommitSearch.Service

/-- What the service holds itself, and the faults of the operations to come. -/
structure Holdings where
  store : Store
  cache : MemoryCache
  now : Nat
  faults : List (Option Error)

namespace Holdings

/-- The fault of the next operation, if it has one. -/
def nextFault (h : Holdings) : Option Error := h.faults.headD none

/-- A service with these holdings that has no tasks. -/
def service (h : Holdings) : State := { fresh h.store with cache := h.cache, now := h.now }

def afterOperation (h : Holdings) (op : Operation) : Holdings :=
  let s := h.service.affectedUnless h.nextFault op
  ⟨s.store, s.cache, s.now, h.faults.tail⟩

def backend : Backend Holdings where
  reply _ op h := h.service.replies h.nextFault op
  after _ op h := h.afterOperation op
  wait duration h := { h with now := h.now + duration }

end Holdings

/-- A service that has come to hold something else. -/
def State.holding (s : State) (h : Holdings) : State :=
  { s with store := h.store, cache := h.cache, now := h.now }

def Move.holding (m : Move) (h : Holdings) : Move := ⟨m.state.holding h, m.woken⟩

variable {s : State} {t : Task} {id : Nat}

theorem replies_holding (s : State) (h : Holdings) (fault : Option Error) :
    (s.holding h).replies fault = h.service.replies fault := by
  funext op
  cases op <;> rfl

theorem affectedUnless_holding (s : State) (h : Holdings) (op : Operation) :
    (s.holding h).affectedUnless h.nextFault op = s.holding (h.afterOperation op) := by
  cases op with
  | insert c =>
    simp only [State.affectedUnless, Holdings.afterOperation]
    cases h.nextFault with
    | some e => rfl
    | none =>
      have hstore : (s.holding h).store = h.service.store := rfl
      simp only [State.affected, hstore]
      cases h.service.store.insert c <;> rfl
  | swap => rfl
  | _ =>
    simp only [State.affectedUnless, Holdings.afterOperation]
    cases h.nextFault <;> rfl

theorem unlock_holding (s : State) (h : Holdings) :
    (s.holding h).unlock = s.unlock.holding h := by
  have hqueue : (s.holding h).lock.queue = s.lock.queue := rfl
  unfold State.unlock
  rw [hqueue]
  cases s.lock.queue <;> rfl

theorem goOn_holding (s : State) (h : Holdings) (id : Nat) (t t' : Task) :
    (s.holding h).goOn id t t' = (s.goOn id t t').map fun m => m.holding h := by
  cases t with
  | refresh stage =>
    cases t' with
    | ended answer => exact congrArg some (unlock_holding (s.place id (.ended answer)) h)
    | _ => rfl
  | _ => rfl

theorem step_holding_of_silent (stands : s.Stands id t) (silent : t.asks = none) (h : Holdings) :
    (s.holding h).step id none = (s.step id none).map fun m => m.holding h := by
  have ht : s.tasks[id]? = some t := stands
  have ht' : (s.holding h).tasks[id]? = some t := stands
  have hflights : (s.holding h).flights = s.flights := rfl
  have hgeneration : (s.holding h).generation = s.generation := rfl
  have hlock : (s.holding h).lock = s.lock := rfl
  unfold State.step
  rw [ht, ht']
  cases t with
  | save stage =>
    cases stage with
    | accept c =>
      dsimp only [State.stepSave]
      cases Store.accept c <;> rfl
    | insert => cases silent
    | invalidate => rfl
  | search r stage =>
    cases stage with
    | lookup | lookupAgain | resolve | execute | executed | write | written | discard => cases silent
    | validate =>
      simp only [State.stepSearch]
      cases r.validate <;> rfl
    | join =>
      simp only [State.stepSearch, hflights]
      split <;> rfl
    | waiting | answered | land => rfl
    | note =>
      simp only [State.stepSearch]
      split <;> rfl
    | compare generation p | recheck generation p =>
      simp only [State.stepSearch, hgeneration]
      split <;> rfl
  | refresh stage =>
    cases stage with
    | rebuild | swap => cases silent
    | request =>
      simp only [State.stepRefresh, hlock]
      cases s.lock.holder <;> rfl
    | queued => rfl
    | invalidate =>
      have hunlock := unlock_holding (s.place id (.ended (.ok .done))).invalidate.state h
      have hinvalidate : ((s.holding h).place id (.ended (.ok .done))).invalidate =
          (s.place id (.ended (.ok .done))).invalidate.holding h := rfl
      simp only [State.stepRefresh, Option.map_some, Move.holding, hinvalidate, hunlock]
  | list | sweep => cases silent
  | ended | dropped => rfl

theorem stepOn_holding (s : State) (h : Holdings) (replies : Replies) (id : Nat) :
    (s.holding h).stepOn replies id = (s.stepOn replies id).map fun m => m.holding h := by
  cases ht : s.tasks[id]? with
  | none =>
    have ht' : (s.holding h).tasks[id]? = none := ht
    simp only [State.stepOn, ht, ht', Option.map_none]
  | some t =>
    have stands : (s.holding h).Stands id t := ht
    cases asks : t.asks with
    | none =>
      rw [stepOn_of_silent ht asks, stepOn_of_silent stands asks]
      exact step_holding_of_silent ht asks h
    | some op =>
      rw [stepOn_of_asks ht asks, stepOn_of_asks stands asks]
      exact goOn_holding s h id t _

theorem drop_holding (s : State) (h : Holdings) (id : Nat) :
    (s.holding h).drop id = (s.drop id).map fun m => m.holding h := by
  have ht : (s.holding h).tasks[id]? = s.tasks[id]? := rfl
  unfold State.drop
  rw [ht]
  cases s.tasks[id]? with
  | none => rfl
  | some t =>
    cases t with
    | search r stage => cases stage <;> rfl
    | refresh stage =>
      cases stage with
      | request | queued => rfl
      | rebuild | swap | invalidate =>
        exact congrArg some (unlock_holding (s.place id .dropped) h)
    | save | list | sweep | ended | dropped => rfl

/-- A step of the service over what it holds is the step in which the task is given the replies of
what is held, and leaves that as the operation does. -/
theorem step_holding {store : Store} {acts : List Act} {count : Nat} {h : Holdings}
    (run : Run (fresh store) acts count (s.holding h)) (id : Nat) :
    (s.holding h).step id h.nextFault =
      (s.stepOn (fun op => Holdings.backend.reply id op h) id).map fun m =>
        m.holding (Holdings.backend.afterStep id (s.asked id) h) := by
  have hasked : (s.holding h).asked id = s.asked id := rfl
  rw [step_eq_stepOn run, replies_holding, hasked]
  cases s.asked id with
  | none => exact stepOn_holding s h _ id
  | some op =>
    rw [Option.elim_some, affectedUnless_holding]
    exact stepOn_holding s (h.afterOperation op) _ id

end CommitSearch.Service
