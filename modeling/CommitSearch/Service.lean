import CommitSearch.Cache.Key
import CommitSearch.Cache.Memory
import CommitSearch.Commit.Json
import CommitSearch.Flight
import CommitSearch.Store

/-!
# The service

Calls of the service as tasks whose steps can come in any order. A search looks into the cache,
joins the flight of its key, looks once more as its leader, notes the generation, reads the store,
and caches what it read unless the generation moved meanwhile; when the generation moved during the
write itself, the entry is deleted again. A save or refresh that succeeded moves the generation on
and leaves behind a task that sweeps all results from the cache. Refreshes come one at a time, in
the order of their requests; between reading the commits and putting the snapshot of them in place
other tasks can take their steps.

`State.step` makes one step of a task, with a fault of the store or cache as the environment wills,
and `State.drop` gives a task up where it stands. Nothing in a step depends on when the others run.
-/

namespace CommitSearch

open CommitSearch.Text

inductive Answer
  | done
  | page (page : Page)
  | filters (values : FilterValues)
  | values (values : List String)
deriving DecidableEq, Repr

def resultLifetime : Nat := 3600000

namespace Service

inductive SaveStage
  | accept (commit : Commit)
  | insert (commit : Commit)
  | invalidate

/-- Where a search stands. From the second look into the cache on it leads a flight. -/
inductive SearchStage
  | validate
  | lookup
  | join
  | waiting
  | answered (outcome : Except Error Page)
  | lookupAgain
  | note
  | resolve (generation : UInt64)
  | execute (generation : UInt64) (query : Query)
  | executed (generation : UInt64) (page : Page)
  | compare (generation : UInt64) (page : Page)
  | write (generation : UInt64) (page : Page)
  | written (generation : UInt64) (page : Page)
  | recheck (generation : UInt64) (page : Page)
  | discard (page : Page)
  | land (outcome : Except Error Page)

/-- Where a refresh stands. From the rebuilding on it holds the lock. -/
inductive RefreshStage
  | request
  | queued
  | rebuild
  | swap (snapshot : Snapshot)
  | invalidate

/-- A call that is in progress, or its end. A sweep is the task that a save or refresh leaves
behind. -/
inductive Task
  | save (stage : SaveStage)
  | search (request : SearchRequest) (stage : SearchStage)
  | refresh (stage : RefreshStage)
  | list (key : Option FilterKey)
  | sweep
  | ended (answer : Except Error Answer)
  | dropped

def SearchStage.leads : SearchStage → Bool
  | .validate | .lookup | .join | .waiting | .answered _ => false
  | _ => true

/-- The lock of the refreshes: who holds it and who waits for it, in order. -/
structure Lock where
  holder : Option Nat
  queue : List Nat
deriving DecidableEq, Repr

/-- The service and all its tasks so far; a task is known by its position. -/
structure State where
  store : Store
  cache : MemoryCache
  now : Nat
  generation : UInt64
  flights : Flights
  lock : Lock
  tasks : List Task

/-- The service after a step, and the tasks that can go on because of it, in order. -/
structure Move where
  state : State
  woken : List Nat

def fresh (store : Store) : State := ⟨store, .empty, 0, 0, [], ⟨none, []⟩, []⟩

/-! ### Tasks of the calls -/

def saving (c : Commit) : Task := .save (.accept c)

def searching (r : SearchRequest) : Task := .search r .validate

def refreshing : Task := .refresh .request

/-- The task of listing the values of one filter, or of all. -/
def listing (key : Option FilterKey) : Task := .list key

namespace State

def start (s : State) (t : Task) : State × Nat :=
  ({ s with tasks := s.tasks ++ [t] }, s.tasks.length)

def place (s : State) (id : Nat) (t : Task) : State := { s with tasks := s.tasks.set id t }

/-- A step after which the task stands where given and no other is woken. -/
def moveTo (s : State) (id : Nat) (t : Task) : Option Move := some ⟨s.place id t, []⟩

/-- The result cached for a request. Texts that cannot be read count as absent. -/
def cached (s : State) (r : SearchRequest) : Option Page :=
  match (s.cache.get s.now r.key).1 with
  | none => none
  | some text => (Page.decode text).toOption

/-- The cache after a look under the key of a request. -/
def touched (s : State) (r : SearchRequest) : State :=
  { s with cache := (s.cache.get s.now r.key).2 }

/-- The task that takes the place of a waiting search when its leader has come to an outcome. -/
def answerTask (outcome : Except Error Page) : Task → Task
  | .search r .waiting => .search r (.answered (copyOutcome outcome))
  | t => t

/-- The task that takes the place of a waiting search when its leader has given up. -/
def rejoinTask : Task → Task
  | .search r .waiting => .search r .join
  | t => t

/-- Ends the flight of a key and changes the tasks that wait for it. -/
def closeFlight (s : State) (key : String) (change : Task → Task) : Move :=
  let waiters := s.flights.waiting key
  let tasks := s.tasks.mapIdx fun i t => if waiters.contains i then change t else t
  ⟨{ s with tasks, flights := s.flights.close key }, waiters⟩

/-- Moves the generation on and adds the task that sweeps the cache. -/
def invalidate (s : State) : Move :=
  let (s, id) := { s with generation := s.generation + 1 }.start .sweep
  ⟨s, [id]⟩

def unlock (s : State) : Move :=
  match s.lock.queue with
  | [] => ⟨{ s with lock := ⟨none, []⟩ }, []⟩
  | id :: queue => ⟨{ s with lock := ⟨some id, queue⟩ }.place id (.refresh .rebuild), [id]⟩

def endRefresh (s : State) (id : Nat) (answer : Except Error Answer) : Option Move :=
  some (s.place id (.ended answer)).unlock

/-! ### Steps -/

def stepSave (s : State) (id : Nat) (fault : Option Error) : SaveStage → Option Move
  | .accept c =>
    match Store.accept c with
    | .error e => s.moveTo id (.ended (.error e))
    | .ok c => s.moveTo id (.save (.insert c))
  | .insert c =>
    match fault with
    | some e => s.moveTo id (.ended (.error e))
    | none =>
      match s.store.insert c with
      | .error e => s.moveTo id (.ended (.error e))
      | .ok store => { s with store }.moveTo id (.save .invalidate)
  | .invalidate => some (s.place id (.ended (.ok .done))).invalidate

def planned (generation : UInt64) (r : SearchRequest) (words : List String) : SearchStage :=
  match Store.queryOf r words with
  | .error e => .land (.error e)
  | .ok q => .execute generation q

def stepSearch (s : State) (id : Nat) (fault : Option Error) (r : SearchRequest) :
    SearchStage → Option Move
  | .validate =>
    match r.validate with
    | .error e => s.moveTo id (.ended (.error e))
    | .ok _ => s.moveTo id (.search r .lookup)
  | .lookup =>
    match fault with
    | some _ => s.moveTo id (.search r .join)
    | none =>
      match s.cached r with
      | some p => (s.touched r).moveTo id (.ended (.ok (.page p)))
      | none => (s.touched r).moveTo id (.search r .join)
  | .join =>
    if s.flights.has r.key then
      { s with flights := s.flights.wait r.key id }.moveTo id (.search r .waiting)
    else { s with flights := s.flights.begin r.key }.moveTo id (.search r .lookupAgain)
  | .waiting => none
  | .answered outcome => s.moveTo id (.ended (outcome.map Answer.page))
  | .lookupAgain =>
    match fault with
    | some _ => s.moveTo id (.search r .note)
    | none =>
      match s.cached r with
      | some p => (s.touched r).moveTo id (.search r (.land (.ok p)))
      | none => (s.touched r).moveTo id (.search r .note)
  | .note =>
    if (trim r.query).isEmpty then s.moveTo id (.search r (planned s.generation r []))
    else s.moveTo id (.search r (.resolve s.generation))
  | .resolve generation =>
    match fault with
    | some e => s.moveTo id (.search r (.land (.error e)))
    | none =>
      match s.store.resolve r.query with
      | .error e => s.moveTo id (.search r (.land (.error e)))
      | .ok words => s.moveTo id (.search r (planned generation r words))
  | .execute generation q =>
    match fault with
    | some e => s.moveTo id (.search r (.land (.error e)))
    | none =>
      match s.store.execute q with
      | .error e => s.moveTo id (.search r (.land (.error e)))
      | .ok p => s.moveTo id (.search r (.executed generation p))
  | .executed generation p =>
    match fault with
    | some e => s.moveTo id (.search r (.land (.error e)))
    | none => s.moveTo id (.search r (.compare generation p))
  | .compare generation p =>
    if s.generation = generation then s.moveTo id (.search r (.write generation p))
    else s.moveTo id (.search r (.land (.ok p)))
  | .write generation p =>
    match fault with
    | some _ => s.moveTo id (.search r (.land (.ok p)))
    | none =>
      { s with cache := s.cache.set s.now r.key p.encode resultLifetime }.moveTo id
        (.search r (.written generation p))
  | .written generation p =>
    match fault with
    | some _ => s.moveTo id (.search r (.land (.ok p)))
    | none => s.moveTo id (.search r (.recheck generation p))
  | .recheck generation p =>
    if s.generation = generation then s.moveTo id (.search r (.land (.ok p)))
    else s.moveTo id (.search r (.discard p))
  | .discard p =>
    match fault with
    | some _ => s.moveTo id (.search r (.land (.ok p)))
    | none =>
      { s with cache := (s.cache.deletePattern r.key).2 }.moveTo id (.search r (.land (.ok p)))
  | .land outcome =>
    some ((s.place id (.ended (outcome.map Answer.page))).closeFlight r.key (answerTask outcome))

def stepRefresh (s : State) (id : Nat) (fault : Option Error) : RefreshStage → Option Move
  | .request =>
    match s.lock.holder with
    | none => { s with lock := ⟨some id, s.lock.queue⟩ }.moveTo id (.refresh .rebuild)
    | some _ =>
      { s with lock := { s.lock with queue := s.lock.queue ++ [id] } }.moveTo id (.refresh .queued)
  | .queued => none
  | .rebuild =>
    match fault with
    | some e => s.endRefresh id (.error e)
    | none =>
      match s.store.rebuilt with
      | .error e => s.endRefresh id (.error e)
      | .ok snapshot => s.moveTo id (.refresh (.swap snapshot))
  | .swap snapshot =>
    { s with store := s.store.swap snapshot }.moveTo id (.refresh .invalidate)
  | .invalidate =>
    let m := (s.place id (.ended (.ok .done))).invalidate
    let m' := m.state.unlock
    some ⟨m'.state, m.woken ++ m'.woken⟩

/-- The answer to listing the values of one filter, or of all. -/
def listed (s : State) (key : Option FilterKey) : Except Error Answer :=
  match key with
  | none => s.store.listFilters.map Answer.filters
  | some key => (s.store.listFilter key).map Answer.values

/-- One step of a task; a fault is that of the store or cache operation which the step makes. There
is none for a task that waits or has ended. -/
def step (s : State) (id : Nat) (fault : Option Error) : Option Move :=
  match s.tasks[id]? with
  | none => none
  | some (.save stage) => s.stepSave id fault stage
  | some (.search r stage) => s.stepSearch id fault r stage
  | some (.refresh stage) => s.stepRefresh id fault stage
  | some (.list key) =>
    match fault with
    | some e => s.moveTo id (.ended (.error e))
    | none => s.moveTo id (.ended (s.listed key))
  | some .sweep =>
    match fault with
    | some e => s.moveTo id (.ended (.error e))
    | none =>
      { s with cache := (s.cache.deletePattern searchPattern).2 }.moveTo id (.ended (.ok .done))
  | some (.ended _) | some .dropped => none

/-- Gives a call up where it stands. The flight of a leader is over and its waiters join again; a
lock is given away, and a place in the queue for it is lost. -/
def drop (s : State) (id : Nat) : Option Move :=
  match s.tasks[id]? with
  | some (.search r stage) =>
    let s := s.place id .dropped
    if stage.leads then some (s.closeFlight r.key rejoinTask) else some ⟨s, []⟩
  | some (.refresh stage) =>
    let s := s.place id .dropped
    match stage with
    | .request => some ⟨s, []⟩
    | .queued =>
      some ⟨{ s with lock := { s.lock with queue := s.lock.queue.filter (· != id) } }, []⟩
    | .rebuild | .swap _ | .invalidate => some s.unlock
  | some (.save _) | some (.list _) => s.moveTo id .dropped
  | _ => none

end State
end Service
end CommitSearch
