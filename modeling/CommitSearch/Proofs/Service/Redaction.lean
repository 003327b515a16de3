import CommitSearch.Proofs.Service.Holdings

/-!
# Details of errors

`redacted` takes from an error of the server all but that it is one, and from a state, besides, the
store and the cache. Main statement: a step that is given replies comes to the same, up to redaction,
when the details are taken from the replies and the state beforehand. So nothing but details ever
depends on details.
-/

namespace CommitSearch

/-! ### Errors and outcomes -/

/-- What the client may know of an error. -/
def Error.redacted (e : Error) : Error := if e.isClientError then e else .internal ""

@[simp] theorem Error.redacted_redacted (e : Error) : e.redacted.redacted = e.redacted := by
  cases e <;> rfl

@[simp] theorem Error.redacted_replica (e : Error) : e.replica.redacted = e.redacted := by
  cases e <;> rfl

theorem Error.status_redacted (e : Error) : e.redacted.status = e.status := by
  cases e <;> rfl

theorem Error.clientText_redacted (e : Error) : e.redacted.clientText = e.clientText := by
  cases e <;> rfl

def redact {α : Type} (r : Except Error α) : Except Error α := r.mapError Error.redacted

section

variable {α β : Type}

@[simp] theorem redact_ok (a : α) : redact (.ok a) = .ok a := rfl

@[simp] theorem redact_error (e : Error) : redact (.error e : Except Error α) = .error e.redacted := rfl

@[simp] theorem redact_redact (r : Except Error α) : redact (redact r) = redact r := by
  cases r <;> simp

@[simp] theorem redact_map (f : α → β) (r : Except Error α) :
    redact (r.map f) = (redact r).map f := by
  cases r <;> rfl

theorem redact_map_redact (f : α → β) (r : Except Error α) :
    redact ((redact r).map f) = redact (r.map f) := by
  simp

@[simp] theorem redact_copyOutcome (r : Except Error α) : redact (copyOutcome r) = redact r := by
  cases r with
  | ok a => rfl
  | error e => exact congrArg Except.error (Error.redacted_replica e)

end

namespace Service

/-! ### States -/

def SearchStage.redacted : SearchStage → SearchStage
  | .answered outcome => .answered (redact outcome)
  | .land outcome => .land (redact outcome)
  | stage => stage

def Task.redacted : Task → Task
  | .search r stage => .search r stage.redacted
  | .ended answer => .ended (redact answer)
  | t => t

/-- The state without the details of the server's errors, and without the store and the cache. -/
def State.redacted (s : State) : State :=
  { s with store := .disconnected, cache := .empty, now := 0, tasks := s.tasks.map Task.redacted }

def Move.redacted (m : Move) : Move := ⟨m.state.redacted, m.woken⟩

def Replies.redacted (replies : Replies) : Replies := fun op => redact (replies op)

variable {s : State} {id : Nat} {t t' : Task} {replies : Replies}

@[simp] theorem SearchStage.redacted_redacted (stage : SearchStage) :
    stage.redacted.redacted = stage.redacted := by
  cases stage <;> simp [redacted]

@[simp] theorem Task.redacted_redacted (t : Task) : t.redacted.redacted = t.redacted := by
  cases t <;> simp [redacted]

@[simp] theorem State.redacted_redacted (s : State) : s.redacted.redacted = s.redacted := by
  simp [redacted]

@[simp] theorem getElem_redacted (s : State) (id : Nat) :
    s.redacted.tasks[id]? = (s.tasks[id]?).map Task.redacted :=
  List.getElem?_map

/-! ### Changes -/

theorem redacted_place (s : State) (id : Nat) (t : Task) :
    (s.place id t).redacted = s.redacted.place id t.redacted := by
  simp [State.place, State.redacted, List.map_set]

theorem redacted_start (s : State) (t : Task) :
    (s.start t).1.redacted = (s.redacted.start t.redacted).1 := by
  simp [State.start, State.redacted]

theorem redacted_moveTo (s : State) (id : Nat) (t : Task) :
    (s.moveTo id t).map Move.redacted = some ⟨s.redacted.place id t.redacted, []⟩ := by
  simp [State.moveTo, Move.redacted, redacted_place]

theorem redacted_withFlights (s : State) (flights : Flights) :
    { s.redacted with flights }.redacted = { s with flights }.redacted := by
  simp [State.redacted]

theorem redacted_withLock (s : State) (lock : Lock) :
    { s.redacted with lock }.redacted = { s with lock }.redacted := by
  simp [State.redacted]

theorem redacted_invalidate (s : State) : s.invalidate.redacted = s.redacted.invalidate := by
  simp [State.invalidate, State.start, Move.redacted, State.redacted, Task.redacted]

theorem redacted_unlock (s : State) : s.unlock.redacted = s.redacted.unlock := by
  have hqueue : s.redacted.lock.queue = s.lock.queue := rfl
  unfold State.unlock
  rw [hqueue]
  cases s.lock.queue with
  | nil => rfl
  | cons head rest =>
    exact congrArg (Move.mk · [head]) (redacted_place { s with lock := ⟨some head, rest⟩ } head _)

theorem redacted_endRefresh (s : State) (id : Nat) (answer : Except Error Answer) :
    (s.endRefresh id answer).map Move.redacted = s.redacted.endRefresh id (redact answer) := by
  rw [State.endRefresh, Option.map_some, redacted_unlock, redacted_place]
  rfl

theorem redacted_changed (tasks : List Task) (changes : Nat → Bool) {change change' : Task → Task}
    (alike : ∀ t, (change t).redacted = (change' t.redacted).redacted) :
    (tasks.mapIdx fun i t => if changes i then change t else t).map Task.redacted =
      ((tasks.map Task.redacted).mapIdx fun i t => if changes i then change' t else t).map
        Task.redacted := by
  -- Which tasks change is decided by their places, and these stay.
  refine List.ext_getElem? fun i => ?_
  simp only [List.getElem?_map, List.getElem?_mapIdx]
  cases tasks[i]? with
  | none => rfl
  | some t => cases changes i <;> simp [alike t]

theorem redacted_closeFlight (s : State) (key : String) {change change' : Task → Task}
    (alike : ∀ t, (change t).redacted = (change' t.redacted).redacted) :
    (s.closeFlight key change).redacted = (s.redacted.closeFlight key change').redacted :=
  congrArg
    (fun tasks => Move.mk { s.redacted with flights := s.flights.close key, tasks }
      (s.flights.waiting key))
    (redacted_changed s.tasks (s.flights.waiting key).contains alike)

theorem redacted_answerTask (outcome : Except Error Page) (t : Task) :
    (State.answerTask outcome t).redacted =
      (State.answerTask (redact outcome) t.redacted).redacted := by
  cases t with
  | search r stage => cases stage <;> simp [State.answerTask, Task.redacted, SearchStage.redacted]
  | _ => simp [State.answerTask, Task.redacted]

theorem redacted_rejoinTask (t : Task) :
    (State.rejoinTask t).redacted = (State.rejoinTask t.redacted).redacted := by
  cases t with
  | search r stage => cases stage <;> simp [State.rejoinTask, Task.redacted, SearchStage.redacted]
  | _ => simp [State.rejoinTask, Task.redacted]

/-! ### Steps -/

theorem cached_redacted (replies : Replies) (r : SearchRequest) :
    replies.redacted.cached r = replies.cached r := by
  unfold Replies.cached Replies.redacted
  cases replies (.get r.key) <;> rfl

theorem redacted_told (asks : t.asks.isSome = true) :
    (t.told replies).redacted = (t.told replies.redacted).redacted := by
  cases t with
  | save stage =>
    cases stage with
    | accept | invalidate => cases asks
    | insert c =>
      simp only [Task.told, Task.toldSave, Replies.redacted]
      cases replies (.insert c) <;> simp [Task.redacted]
  | search r stage =>
    cases stage with
    | validate | join | waiting | answered | note | compare | recheck | land => cases asks
    | lookup | lookupAgain => simp only [Task.told, Task.toldSearch, cached_redacted]
    | resolve generation =>
      simp only [Task.told, Task.toldSearch, Replies.redacted]
      cases replies (.similar (Text.trim r.query)) <;> simp [Task.redacted, SearchStage.redacted]
    | execute generation q =>
      simp only [Task.told, Task.toldSearch, Replies.redacted]
      cases replies (.execute q) <;> simp [Task.redacted, SearchStage.redacted]
    | executed generation p =>
      simp only [Task.told, Task.toldSearch, Replies.redacted]
      cases replies .executed <;> simp [Task.redacted, SearchStage.redacted]
    | write generation p =>
      simp only [Task.told, Task.toldSearch, Replies.redacted]
      cases replies (.set r.key p.encode) <;> rfl
    | written generation p =>
      simp only [Task.told, Task.toldSearch, Replies.redacted]
      cases replies .written <;> rfl
    | discard p => rfl
  | refresh stage =>
    cases stage with
    | request | queued | invalidate => cases asks
    | rebuild =>
      simp only [Task.told, Task.toldRefresh, Replies.redacted]
      cases replies .rebuild <;> simp [Task.redacted]
    | swap snapshot =>
      simp only [Task.told, Task.toldRefresh, Replies.redacted]
      cases replies (.swap snapshot) <;> simp [Task.redacted]
  | list key => cases key <;> exact congrArg Task.ended (redact_map_redact _ _).symm
  | sweep => exact congrArg Task.ended (redact_map_redact _ _).symm
  | ended | dropped => cases asks

theorem redacted_step_of_silent (stands : s.Stands id t) (silent : t.asks = none) :
    (s.step id none).map Move.redacted = (s.redacted.step id none).map Move.redacted := by
  have ht : s.tasks[id]? = some t := stands
  have ht' : s.redacted.tasks[id]? = some t.redacted := by
    rw [getElem_redacted, ht]
    rfl
  -- These steps look at nothing that is redacted, except for an outcome that they hand on.
  have hflights : s.redacted.flights = s.flights := rfl
  have hgeneration : s.redacted.generation = s.generation := rfl
  have hlock : s.redacted.lock = s.lock := rfl
  unfold State.step
  rw [ht, ht']
  cases t with
  | save stage =>
    cases stage with
    | accept c =>
      dsimp only [Task.redacted, State.stepSave]
      cases Store.accept c <;> simp [redacted_moveTo]
    | insert => cases silent
    | invalidate =>
      dsimp only [Task.redacted, State.stepSave]
      simp [redacted_invalidate, redacted_place, Task.redacted]
  | search r stage =>
    cases stage with
    | lookup | lookupAgain | resolve | execute | executed | write | written | discard => cases silent
    | validate =>
      simp only [Task.redacted, SearchStage.redacted, State.stepSearch]
      cases r.validate <;> simp [redacted_moveTo]
    | join =>
      simp only [Task.redacted, SearchStage.redacted, State.stepSearch, hflights]
      split <;> simp [redacted_moveTo, redacted_withFlights]
    | waiting => rfl
    | answered outcome =>
      simp [Task.redacted, SearchStage.redacted, State.stepSearch, redacted_moveTo]
    | note =>
      simp only [Task.redacted, SearchStage.redacted, State.stepSearch, hgeneration]
      split <;> simp [redacted_moveTo]
    | compare generation p | recheck generation p =>
      simp only [Task.redacted, SearchStage.redacted, State.stepSearch, hgeneration]
      split <;> simp [redacted_moveTo]
    | land outcome =>
      simp only [Task.redacted, SearchStage.redacted, State.stepSearch, Option.map_some]
      rw [redacted_closeFlight _ _ (redacted_answerTask outcome),
        redacted_closeFlight _ _ (redacted_answerTask (redact outcome))]
      simp [redacted_place, Task.redacted]
  | refresh stage =>
    cases stage with
    | rebuild | swap => cases silent
    | request =>
      simp only [Task.redacted, State.stepRefresh, hlock]
      cases s.lock.holder <;> simp [redacted_moveTo, redacted_withLock]
    | queued => rfl
    | invalidate =>
      have hunlock := redacted_unlock (s.place id (.ended (.ok .done))).invalidate.state
      have hinvalidate : (s.redacted.place id (.ended (.ok .done))).invalidate =
          (s.place id (.ended (.ok .done))).invalidate.redacted := by
        rw [redacted_invalidate, redacted_place]
        rfl
      simp only [Task.redacted, State.stepRefresh, Option.map_some, Move.redacted, hinvalidate,
        ← hunlock, State.redacted_redacted]
  | list | sweep => cases silent
  | ended | dropped => rfl

theorem redacted_goOn (s : State) (id : Nat) (t t' : Task) :
    (s.goOn id t t').map Move.redacted = s.redacted.goOn id t.redacted t'.redacted := by
  cases t with
  | refresh stage =>
    cases t' with
    | ended answer => exact redacted_endRefresh s id answer
    | _ => exact redacted_moveTo s id _
  | _ => exact redacted_moveTo s id _

@[simp] theorem asks_redacted (t : Task) : t.redacted.asks = t.asks := by
  cases t with
  | search r stage => cases stage <;> rfl
  | _ => rfl

theorem told_redacted (replies : Replies) (asks : t.asks.isSome = true) :
    t.redacted.told replies = t.told replies := by
  cases t with
  | search r stage =>
    cases stage with
    | answered | land => cases asks
    | _ => rfl
  | ended => cases asks
  | _ => rfl

/-- Taking a step and taking the details away can be done in either order. -/
theorem redacted_stepOn (s : State) (replies : Replies) (id : Nat) :
    (s.stepOn replies id).map Move.redacted =
      (s.redacted.stepOn replies.redacted id).map Move.redacted := by
  cases ht : s.tasks[id]? with
  | none => simp [State.stepOn, ht]
  | some t =>
    have ht' : s.redacted.Stands id t.redacted := by
      rw [State.Stands, getElem_redacted, ht]
      rfl
    cases asks : t.asks with
    | none =>
      rw [stepOn_of_silent ht asks, stepOn_of_silent ht' (by simpa using asks)]
      exact redacted_step_of_silent ht asks
    | some op =>
      have hasks : t.asks.isSome = true := by simp [asks]
      rw [stepOn_of_asks ht asks, stepOn_of_asks ht' (by simpa using asks), redacted_goOn,
        redacted_goOn, told_redacted _ hasks, redacted_told hasks]
      simp

theorem redacted_drop (s : State) (id : Nat) :
    (s.drop id).map Move.redacted = (s.redacted.drop id).map Move.redacted := by
  unfold State.drop
  rw [getElem_redacted]
  cases s.tasks[id]? with
  | none => rfl
  | some t =>
    cases t with
    | search r stage =>
      have hleads : stage.redacted.leads = stage.leads := by cases stage <;> rfl
      simp only [Option.map_some, Task.redacted, hleads]
      split
      · rw [Option.map_some, Option.map_some, redacted_closeFlight _ _ redacted_rejoinTask,
          redacted_place]
        rfl
      · simp [Move.redacted, redacted_place, Task.redacted]
    | refresh stage =>
      cases stage with
      | request => simp [Move.redacted, redacted_place, Task.redacted]
      | queued =>
        have hplace : s.redacted.place id .dropped = (s.place id .dropped).redacted :=
          (redacted_place s id .dropped).symm
        simp only [Option.map_some, Task.redacted, Move.redacted, hplace]
        rw [redacted_withLock]
        rfl
      | rebuild | swap | invalidate =>
        simp [redacted_unlock, redacted_place, Task.redacted]
    | save | list => simp [Task.redacted, redacted_moveTo]
    | sweep | ended | dropped => rfl

/-! ### Backends that do alike -/

/-- Two backends whose operations come to the same but for the details of errors: from related states
they reply alike and get to related states. -/
structure Backend.Alike {σ τ : Type} (a : Backend σ) (b : Backend τ) (related : σ → τ → Prop) :
    Prop where
  reply : ∀ {x y}, related x y → ∀ caller op,
    redact (a.reply caller op x) = redact (b.reply caller op y)
  after : ∀ {x y}, related x y → ∀ caller op, related (a.after caller op x) (b.after caller op y)
  wait : ∀ {x y}, related x y → ∀ duration, related (a.wait duration x) (b.wait duration y)

theorem Backend.Alike.afterStep {σ τ : Type} {a : Backend σ} {b : Backend τ} {related : σ → τ → Prop}
    (alike : Backend.Alike a b related) {x : σ} {y : τ} (h : related x y) (caller : Nat)
    (asked : Option Operation) : related (a.afterStep caller asked x) (b.afterStep caller asked y) := by
  cases asked with
  | none => exact h
  | some op => exact alike.after h caller op

/-! ### What the service holds -/

/-- The holdings without the details of the faults to come. -/
def Holdings.redacted (h : Holdings) : Holdings :=
  { h with faults := h.faults.map (Option.map Error.redacted) }

theorem redact_orFault {α : Type} {fault fault' : Option Error}
    (same : fault.map Error.redacted = fault'.map Error.redacted) (reply : Except Error α) :
    redact (State.orFault fault reply) = redact (State.orFault fault' reply) := by
  cases fault with
  | none =>
    cases fault' with
    | none => rfl
    | some e' => cases same
  | some e =>
    cases fault' with
    | none => cases same
    | some e' => exact congrArg Except.error (Option.some.inj same)

theorem redact_replies (s : State) {fault fault' : Option Error}
    (same : fault.map Error.redacted = fault'.map Error.redacted) (op : Operation) :
    redact (s.replies fault op) = redact (s.replies fault' op) := by
  cases op with
  | swap => rfl
  | _ => exact redact_orFault same _

theorem affectedUnless_congr (s : State) {fault fault' : Option Error}
    (same : fault.map Error.redacted = fault'.map Error.redacted) (op : Operation) :
    s.affectedUnless fault op = s.affectedUnless fault' op := by
  have hsome : fault.isSome = fault'.isSome := by
    rw [← Option.isSome_map (f := Error.redacted), same, Option.isSome_map]
  cases op with
  | swap => rfl
  | _ => simp only [State.affectedUnless, hsome]

theorem service_of_redacted {h h' : Holdings} (same : h.redacted = h'.redacted) :
    h.service = h'.service := by
  have hservice : ∀ g : Holdings, g.redacted.service = g.service := fun _ => rfl
  rw [← hservice h, same, hservice]

theorem nextFault_of_redacted {h h' : Holdings} (same : h.redacted = h'.redacted) :
    h.nextFault.map Error.redacted = h'.nextFault.map Error.redacted := by
  have hfault : ∀ g : Holdings, g.nextFault.map Error.redacted = g.redacted.nextFault := by
    rintro ⟨store, cache, now, - | ⟨fault, faults⟩⟩ <;> rfl
  rw [hfault, same, hfault]

/-- Faults that differ in their details alone make no other difference. -/
theorem alike_holdings :
    Backend.Alike Holdings.backend Holdings.backend fun h h' => h.redacted = h'.redacted where
  reply := by
    intro h h' same caller op
    show redact (h.service.replies h.nextFault op) = redact (h'.service.replies h'.nextFault op)
    rw [service_of_redacted same]
    exact redact_replies _ (nextFault_of_redacted same) op
  after := by
    intro h h' same caller op
    have haffected : h.service.affectedUnless h.nextFault op =
        h'.service.affectedUnless h'.nextFault op := by
      rw [service_of_redacted same]
      exact affectedUnless_congr _ (nextFault_of_redacted same) op
    have hfaults : h.faults.tail.map (Option.map Error.redacted) =
        h'.faults.tail.map (Option.map Error.redacted) := by
      have := congrArg (fun g : Holdings => g.faults.tail) same
      simpa [Holdings.redacted, List.map_tail] using this
    show (h.afterOperation op).redacted = (h'.afterOperation op).redacted
    simp only [Holdings.afterOperation, Holdings.redacted, haffected, hfaults]
  wait := by
    intro h h' same duration
    show ({ h with now := h.now + duration } : Holdings).redacted =
      ({ h' with now := h'.now + duration } : Holdings).redacted
    exact congrArg (fun g : Holdings => ({ g with now := g.now + duration } : Holdings)) same

end Service
end CommitSearch
