import CommitSearch.Proofs.Service.Searches

/-!
# Stores and caches of any kind

A service learns of its store and its cache only through the replies to its operations. `Backend` is
a store with a cache of which nothing is known but this, and `State.stepOn` is a step of a task that
is given such replies. Main statement: a step of the service over its own store and cache is the step
that is given their replies.
-/

namespace CommitSearch.Service

open CommitSearch.Text

/-- What a task asks of the store or the cache. Reading the commits of a search, writing to the cache
and refreshing have a second part, which can fail on its own. -/
inductive Operation
  | insert (commit : Commit)
  | similar (text : String)
  | execute (query : Query)
  | executed
  | listFilters
  | rebuild
  | swap (snapshot : Snapshot)
  | get (key : String)
  | set (key text : String)
  | written
  | delete (pattern : String)

/-- What an operation gives when it succeeds. -/
def Operation.Reply : Operation → Type
  | .similar _ => List String
  | .execute _ => Page
  | .listFilters => FilterValues
  | .rebuild => Snapshot
  | .get _ => Option String
  | .delete _ => Nat
  | .insert _ | .executed | .swap _ | .set _ _ | .written => Unit

/-- What every operation would give at one moment. -/
abbrev Replies := (op : Operation) → Except Error op.Reply

/-- A store and a cache: what they reply to a task, and how they stand after its operation, whether it
succeeds or fails, and after a time. -/
structure Backend (σ : Type) where
  reply (caller : Nat) (op : Operation) : σ → Except Error op.Reply
  after (caller : Nat) (op : Operation) : σ → σ
  wait (duration : Nat) : σ → σ

/-- How a backend stands after a step for which it is asked an operation, or none. -/
def Backend.afterStep {σ : Type} (b : Backend σ) (caller : Nat) (asked : Option Operation) (x : σ) :
    σ :=
  asked.elim x fun op => b.after caller op x

/-! ### Steps of tasks that are given replies -/

/-- The result that a cache has for a request. Texts that cannot be read count as absent, and so do
errors. -/
def Replies.cached (replies : Replies) (r : SearchRequest) : Option Page :=
  match replies (.get r.key) with
  | .ok (some text) => (Page.decode text).toOption
  | _ => none

namespace Task

def asks : Task → Option Operation
  | .save (.insert c) => some (.insert c)
  | .search r .lookup | .search r .lookupAgain => some (.get r.key)
  | .search r (.resolve _) => some (.similar (trim r.query))
  | .search _ (.execute _ q) => some (.execute q)
  | .search _ (.executed _ _) => some .executed
  | .search r (.write _ p) => some (.set r.key p.encode)
  | .search _ (.written _ _) => some .written
  | .search r (.discard _) => some (.delete r.key)
  | .refresh .rebuild => some .rebuild
  | .refresh (.swap snapshot) => some (.swap snapshot)
  | .list _ => some .listFilters
  | .sweep => some (.delete searchPattern)
  | _ => none

def toldSave (replies : Replies) : SaveStage → Task
  | .insert c =>
    match replies (.insert c) with
    | .error e => .ended (.error e)
    | .ok _ => .save .invalidate
  | stage => .save stage

def toldSearch (replies : Replies) (r : SearchRequest) : SearchStage → Task
  | .lookup =>
    match replies.cached r with
    | some p => .ended (.ok (.page p))
    | none => .search r .join
  | .lookupAgain =>
    match replies.cached r with
    | some p => .search r (.land (.ok p))
    | none => .search r .note
  | .resolve generation =>
    match replies (.similar (trim r.query)) with
    | .error e => .search r (.land (.error e))
    | .ok words => .search r (State.planned generation r (distinct words))
  | .execute generation q =>
    match replies (.execute q) with
    | .error e => .search r (.land (.error e))
    | .ok p => .search r (.executed generation p)
  | .executed generation p =>
    match replies .executed with
    | .error e => .search r (.land (.error e))
    | .ok _ => .search r (.compare generation p)
  | .write generation p =>
    match replies (.set r.key p.encode) with
    | .error _ => .search r (.land (.ok p))
    | .ok _ => .search r (.written generation p)
  | .written generation p =>
    match replies .written with
    | .error _ => .search r (.land (.ok p))
    | .ok _ => .search r (.recheck generation p)
  | .discard p => .search r (.land (.ok p))
  | stage => .search r stage

def toldRefresh (replies : Replies) : RefreshStage → Task
  | .rebuild =>
    match replies .rebuild with
    | .error e => .ended (.error e)
    | .ok snapshot => .refresh (.swap snapshot)
  | .swap snapshot =>
    match replies (.swap snapshot) with
    | .error e => .ended (.error e)
    | .ok _ => .refresh .invalidate
  | stage => .refresh stage

/-- The task in the place of one that asks, when it has the reply. -/
def told (replies : Replies) : Task → Task
  | .save stage => toldSave replies stage
  | .search r stage => toldSearch replies r stage
  | .refresh stage => toldRefresh replies stage
  | .list none => .ended ((replies .listFilters).map Answer.filters)
  | .list (some key) =>
    .ended ((replies .listFilters).map fun values => .values (Store.valuesFor key values))
  | .sweep => .ended ((replies (.delete searchPattern)).map fun _ => .done)
  | t => t

end Task

namespace State

/-- Puts a task in the place of another that had the reply to its operation. A refresh that ends so
gives the lock away. -/
def goOn (s : State) (id : Nat) : Task → Task → Option Move
  | .refresh _, .ended answer => s.endRefresh id answer
  | _, t => s.moveTo id t

/-- What the next step of a task asks for, if anything. -/
def asked (s : State) (id : Nat) : Option Operation := (s.tasks[id]?).bind Task.asks

/-- One step of a task that is given replies in the place of its own store and cache. -/
def stepOn (s : State) (replies : Replies) (id : Nat) : Option Move :=
  match s.tasks[id]? with
  | none => none
  | some t =>
    match t.asks with
    | none => s.step id none
    | some _ => s.goOn id t (t.told replies)

/-! ### The own store and cache -/

/-- A reply, unless the operation has a fault. -/
def orFault {α : Type} (fault : Option Error) (reply : Except Error α) : Except Error α :=
  match fault with
  | none => reply
  | some e => .error e

/-- What the store and the cache of a service reply when the next operation has a fault or none. The
last part of a refresh cannot fail. -/
def replies (s : State) (fault : Option Error) : Replies
  | .insert c => orFault fault ((s.store.insert c).map fun _ => ())
  | .similar text => orFault fault (s.store.similar text)
  | .execute q => orFault fault (s.store.execute q)
  | .listFilters => orFault fault s.store.listFilters
  | .rebuild => orFault fault s.store.rebuilt
  | .swap _ => .ok ()
  | .get key => orFault fault (.ok (s.cache.get s.now key).1)
  | .delete pattern => orFault fault (.ok (s.cache.deletePattern pattern).1)
  | .executed | .set _ _ | .written => orFault fault (.ok ())

/-- A service after an operation on its store or cache that has no fault. -/
def affected (s : State) : Operation → State
  | .insert c =>
    match s.store.insert c with
    | .error _ => s
    | .ok store => { s with store }
  | .swap snapshot => { s with store := s.store.swap snapshot }
  | .get key => { s with cache := (s.cache.get s.now key).2 }
  | .set key text => { s with cache := s.cache.set s.now key text resultLifetime }
  | .delete pattern => { s with cache := (s.cache.deletePattern pattern).2 }
  | .similar _ | .execute _ | .executed | .listFilters | .rebuild | .written => s

/-- A service after an operation that has a fault or none. -/
def affectedUnless (s : State) (fault : Option Error) : Operation → State
  | .swap snapshot => s.affected (.swap snapshot)
  | op => if fault.isSome then s else s.affected op

@[simp] theorem tasks_affected (s : State) (op : Operation) : (s.affected op).tasks = s.tasks := by
  cases op with
  | insert c =>
    rw [affected]
    split <;> rfl
  | _ => rfl

@[simp] theorem tasks_affectedUnless (s : State) (fault : Option Error) (op : Operation) :
    (s.affectedUnless fault op).tasks = s.tasks := by
  cases op <;> simp only [affectedUnless] <;> first | exact tasks_affected _ _ | split <;> simp

end State

/-! ### Steps over the own store and cache -/

variable {store : Store} {acts : List Act} {count : Nat} {s : State} {id i : Nat} {t : Task}
  {op : Operation} {replies : Replies} {fault : Option Error}

theorem stepOn_of_silent (stands : s.Stands id t) (silent : t.asks = none) :
    s.stepOn replies id = s.step id none := by
  have ht : s.tasks[id]? = some t := stands
  simp only [State.stepOn, ht, silent]

theorem stepOn_of_asks (stands : s.Stands id t) (asks : t.asks = some op) :
    s.stepOn replies id = s.goOn id t (t.told replies) := by
  have ht : s.tasks[id]? = some t := stands
  simp only [State.stepOn, ht, asks]

/-- A task that asks nothing takes its step whatever the fault. -/
theorem step_of_silent (stands : s.Stands id t) (silent : t.asks = none) :
    s.step id fault = s.step id none := by
  have ht : s.tasks[id]? = some t := stands
  unfold State.step
  rw [ht]
  cases t with
  | save stage =>
    cases stage with
    | insert => cases silent
    | accept | invalidate => rfl
  | search r stage =>
    cases stage with
    | lookup | lookupAgain | resolve | execute | executed | write | written | discard => cases silent
    | validate | join | waiting | answered | note | compare | recheck | land => rfl
  | refresh stage =>
    cases stage with
    | rebuild | swap => cases silent
    | request | queued | invalidate => rfl
  | list | sweep => cases silent
  | ended | dropped => rfl

theorem step_save_of_asks {stage : SaveStage} (asks : (Task.save stage).asks = some op) :
    s.stepSave id fault stage =
      (s.affectedUnless fault op).goOn id (.save stage) ((Task.save stage).told (s.replies fault)) := by
  cases stage with
  | accept | invalidate => cases asks
  | insert c =>
    cases asks
    cases fault with
    | some e => rfl
    | none =>
      dsimp only [State.stepSave, State.affectedUnless, State.affected, Task.told, Task.toldSave,
        State.replies, State.orFault]
      cases s.store.insert c <;> rfl

theorem step_search_of_asks {r : SearchRequest} {stage : SearchStage}
    (asks : (Task.search r stage).asks = some op)
    (text : ∀ generation, stage = .resolve generation → (trim r.query).isEmpty = false) :
    s.stepSearch id fault r stage =
      (s.affectedUnless fault op).goOn id (.search r stage)
        ((Task.search r stage).told (s.replies fault)) := by
  cases stage with
  | validate | join | waiting | answered | note | compare | recheck | land => cases asks
  | lookup | lookupAgain =>
    cases asks
    cases fault with
    | some e => rfl
    | none =>
      have hcached : (s.replies none).cached r = s.cached r := by
        rw [Replies.cached, State.replies, State.orFault, State.cached]
        cases (s.cache.get s.now r.key).1 <;> rfl
      rw [Task.told, Task.toldSearch, hcached, State.stepSearch]
      cases s.cached r <;> rfl
  | resolve generation =>
    cases asks
    cases fault with
    | some e => rfl
    | none =>
      -- The store is not asked about a blank query, but no search comes here with one.
      have hresolve : s.store.resolve r.query = (s.store.similar (trim r.query)).map distinct := by
        rw [Store.resolve, text generation rfl]
        rfl
      have hreply : s.replies none (.similar (trim r.query)) = s.store.similar (trim r.query) := rfl
      rw [Task.told, Task.toldSearch, State.stepSearch, hresolve, hreply]
      cases s.store.similar (trim r.query) <;> rfl
  | execute generation q =>
    cases asks
    cases fault with
    | some e => rfl
    | none =>
      cases hexecute : s.store.execute q <;>
        simp [State.stepSearch, State.affectedUnless, State.affected, State.goOn, Task.told,
          Task.toldSearch, State.replies, State.orFault, hexecute]
  | executed | write | written | discard =>
    cases asks
    cases fault <;> rfl

theorem step_refresh_of_asks {stage : RefreshStage} (asks : (Task.refresh stage).asks = some op) :
    s.stepRefresh id fault stage =
      (s.affectedUnless fault op).goOn id (.refresh stage)
        ((Task.refresh stage).told (s.replies fault)) := by
  cases stage with
  | request | queued | invalidate => cases asks
  | rebuild =>
    cases asks
    cases fault with
    | some e => rfl
    | none =>
      cases hrebuilt : s.store.rebuilt <;>
        simp [State.stepRefresh, State.affectedUnless, State.affected, State.goOn, Task.told,
          Task.toldRefresh, State.replies, State.orFault, hrebuilt]
  | swap snapshot =>
    cases asks
    rfl

theorem step_of_asks (stands : s.Stands id t) (asks : t.asks = some op)
    (text : ∀ r generation, t = .search r (.resolve generation) → (trim r.query).isEmpty = false) :
    s.step id fault = (s.affectedUnless fault op).goOn id t (t.told (s.replies fault)) := by
  have ht : s.tasks[id]? = some t := stands
  unfold State.step
  rw [ht]
  cases t with
  | save stage => exact step_save_of_asks asks
  | search r stage => exact step_search_of_asks asks fun g hg => text r g (hg ▸ rfl)
  | refresh stage => exact step_refresh_of_asks asks
  | list key =>
    cases asks
    cases fault with
    | some e => cases key <;> rfl
    | none =>
      cases key with
      | none => rfl
      | some key =>
        have hlisted : s.listed (some key) =
            s.store.listFilters.map fun values => .values (Store.valuesFor key values) := by
          rw [State.listed, Store.listFilter]
          cases s.store.listFilters <;> rfl
        simp only [hlisted]
        rfl
  | sweep =>
    cases asks
    cases fault <;> rfl
  | ended | dropped => cases asks

theorem planned_ne_resolve {g generation : UInt64} {r : SearchRequest} {words : List String} :
    State.planned g r words ≠ .resolve generation := by
  unfold State.planned
  split <;> exact SearchStage.noConfusion

/-- A search that is about to ask for the words of its query has a query. -/
theorem text_of_resolving (run : Run (fresh store) acts count s) {r : SearchRequest}
    {generation : UInt64} (stands : s.Stands i (.search r (.resolve generation))) :
    (trim r.query).isEmpty = false := by
  induction run with
  | nothing => exact absurd stands (not_stands_fresh store)
  | act run next ih =>
    cases searchFrom_of_step (lockFits_run run) (step_of_act next) stands with
    | stayed hs => exact ih hs
    | moved hs goes =>
      generalize htask : Task.search r (.resolve generation) = t' at goes
      cases goes with
      | note text =>
        cases htask
        exact text
      | noteBlank | resolve => exact absurd (Task.search.inj htask).2.symm planned_ne_resolve
      | _ => cases htask

/-- A step over the own store and cache: they reply to what the task asks, are changed by it, and the
task takes the step that it takes with these replies. -/
theorem step_eq_stepOn (run : Run (fresh store) acts count s) (id : Nat) (fault : Option Error) :
    s.step id fault =
      ((s.asked id).elim s (s.affectedUnless fault)).stepOn (s.replies fault) id := by
  unfold State.asked
  cases ht : s.tasks[id]? with
  | none =>
    show s.step id fault = s.stepOn (s.replies fault) id
    unfold State.stepOn State.step
    rw [ht]
  | some t =>
    cases asks : t.asks with
    | none =>
      have silent : s.stepOn (s.replies fault) id = s.step id none := stepOn_of_silent ht asks
      rw [step_of_silent ht asks, ← silent]
      simp [asks]
    | some op =>
      have hstands : (s.affectedUnless fault op).Stands id t := by
        rw [State.Stands, State.tasks_affectedUnless]
        exact ht
      have htext : ∀ r generation, t = .search r (.resolve generation) →
          (trim r.query).isEmpty = false := by
        rintro r generation rfl
        exact text_of_resolving run ht
      rw [step_of_asks ht asks htext, ← stepOn_of_asks hstands asks]
      simp [asks]

end CommitSearch.Service
