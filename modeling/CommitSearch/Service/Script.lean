import CommitSearch.Service

/-!
# Scripted runs of the service

The places at which a task calls the store or the cache are points. Points can be held, so that
tasks that come to them park there, and they can fail. Every event lets all tasks that can go on do
so, one after the other in the order in which they were woken, each until it is blocked; what they
do is logged.
-/

namespace CommitSearch.Service

open CommitSearch.Text

/-- The places at which a task can be held or fail. -/
inductive Point
  | insert
  | similar
  | execute
  | executed
  | listFilters
  | refresh
  | get
  | set
  | setDone
  | delete
deriving DecidableEq, Repr

namespace Point

def all : List Point :=
  [delete, execute, executed, get, insert, listFilters, refresh, set, setDone, similar]

def name : Point → String
  | insert => "insert"
  | similar => "similar"
  | execute => "execute"
  | executed => "executed"
  | listFilters => "list_filters"
  | refresh => "refresh"
  | get => "get"
  | set => "set"
  | setDone => "set_done"
  | delete => "delete"

def ofName (name : String) : Option Point := all.find? fun p => p.name == name

def fault (p : Point) : Error := .internal (p.name ++ " down")

end Point

inductive Entry
  | insert (hash : String)
  | similar (text : String)
  | execute (query : Query)
  | executed (total : Nat)
  | listFilters
  | refresh
  | get (key : String)
  | got (found : Bool)
  | set (key : String) (text : String) (seconds : Nat)
  | delete (pattern : String)
  | deleted (count : Nat)
deriving Repr

/-- The point at which a task stands, if it stands at one. -/
def Task.point : Task → Option Point
  | .save (.insert _) => some .insert
  | .search _ .lookup | .search _ .lookupAgain => some .get
  | .search _ (.resolve _) => some .similar
  | .search _ (.execute _ _) => some .execute
  | .search _ (.executed _ _) => some .executed
  | .search _ (.write _ _) => some .set
  | .search _ (.written _ _) => some .setDone
  | .search _ (.discard _) | .sweep => some .delete
  | .refresh .rebuild => some .refresh
  | .list _ => some .listFilters
  | _ => none

def Task.arrival : Task → List Entry
  | .save (.insert c) => [.insert c.hash]
  | .search r .lookup | .search r .lookupAgain => [.get r.key]
  | .search r (.resolve _) => [.similar (trim r.query)]
  | .search _ (.execute _ q) => [.execute q]
  | .search _ (.executed _ p) => [.executed p.total]
  | .search r (.write _ p) => [.set r.key p.encode (resultLifetime / 1000)]
  | .search r (.discard _) => [.delete r.key]
  | .sweep => [.delete searchPattern]
  | .refresh .rebuild => [.refresh]
  | .list _ => [.listFilters]
  | _ => []

/-- What is logged when the operation of a task has succeeded on a cache. -/
def Task.effect (cache : MemoryCache) (now : Nat) : Task → List Entry
  | .search r .lookup | .search r .lookupAgain => [.got (cache.get now r.key).1.isSome]
  | .search r (.discard _) => [.deleted (cache.deletePattern r.key).1]
  | .sweep => [.deleted (cache.deletePattern searchPattern).1]
  | _ => []

/-- A service under a script: the points that are held and that fail, the tasks parked at points in
the order of arrival, the tasks that can go on, and the log. -/
structure Script where
  service : State
  held : List Point
  failing : List Point
  parked : List (Point × Nat)
  ready : List Nat
  log : List Entry

inductive Event
  | call (task : Task)
  | drop (id : Nat)
  | hold (point : Point)
  | release (point : Point)
  | releaseOne (point : Point)
  | fail (point : Point)
  | heal (point : Point)
  | put (request : SearchRequest) (text : String)

namespace Script

/-- A service at which nothing is held; some points fail. -/
def fresh (store : Store) (failing : List Point) : Script :=
  ⟨Service.fresh store, [], failing, [], [], []⟩

def take (s : Script) (m : Move) : Script :=
  { s with service := m.state, ready := s.ready ++ m.woken }

def pass (s : Script) (id : Nat) (t : Task) (p : Point) : Script :=
  if s.failing.contains p then
    match s.service.step id (some p.fault) with
    | some m => s.take m
    | none => s
  else
    let entries := t.effect s.service.cache s.service.now
    match s.service.step id none with
    | some m => { s.take m with log := s.log ++ entries }
    | none => s

/-- Lets a task go on until it is blocked, parked or has ended; `fuel` bounds its steps. -/
def run : Nat → Script → Nat → Script
  | 0, s, _ => s
  | fuel + 1, s, id =>
    match s.service.tasks[id]? with
    | none => s
    | some t =>
      match t.point with
      | some p =>
        let s := { s with log := s.log ++ t.arrival }
        if s.held.contains p then { s with parked := s.parked ++ [(p, id)] }
        else run fuel (s.pass id t p) id
      | none =>
        match s.service.step id none with
        | some m => run fuel (s.take m) id
        | none => s

/-- A bound on the steps of a task: it never comes back to a stage between two blocks. -/
def stepBound : Nat := 32

/-- Lets tasks go on as long as one can, at most `fuel` times. -/
def settle : Nat → Script → Script
  | 0, s => s
  | fuel + 1, s =>
    match s.ready with
    | [] => s
    | id :: ready => settle fuel (run stepBound { s with ready } id)

/-- Lets tasks go on as long as one can. Every task can be woken once by a flight, once by the lock
and once on its own account, and can leave one sweep behind. -/
def settleAll (s : Script) : Script := s.settle (8 * (s.service.tasks.length + 1))

/-- Lets a parked task go on, and then all that it woke. -/
def resume (s : Script) (id : Nat) : Script :=
  match s.service.tasks[id]? with
  | none => s
  | some t =>
    match t.point with
    | none => s
    | some p =>
      let s := { s with parked := s.parked.filter fun entry => entry.2 != id }
      (run stepBound (s.pass id t p) id).settleAll

/-- The tasks parked at a point, in the order of arrival. -/
def parkedAt (s : Script) (p : Point) : List Nat :=
  (s.parked.filter fun entry => entry.1 = p).map Prod.snd

def occur (s : Script) : Event → Script
  | .call task =>
    let (service, id) := s.service.start task
    { s with service, ready := s.ready ++ [id] }.settleAll
  | .drop id =>
    match s.service.drop id with
    | none => s
    | some m =>
      let s := s.take m
      { s with
        parked := s.parked.filter (fun entry => entry.2 != id)
        ready := s.ready.filter (· != id) }.settleAll
  | .hold p => { s with held := p :: s.held }
  | .release p =>
    let ids := s.parkedAt p
    ids.foldl resume { s with held := s.held.filter (· != p) }
  | .releaseOne p =>
    match s.parkedAt p with
    | [] => s
    | id :: _ => s.resume id
  | .fail p => { s with failing := p :: s.failing }
  | .heal p => { s with failing := s.failing.filter (· != p) }
  | .put r text =>
    let service := s.service
    let cache := service.cache.set service.now r.key text resultLifetime
    { s with service := { service with cache } }

def step (s : Script) (e : Event) : Script := { s with log := [] }.occur e

/-- The points of the parked tasks, in the order of their names, one for every task. -/
def parkedPoints (s : Script) : List Point :=
  Point.all.flatMap fun p => (s.parkedAt p).map fun _ => p

def peek (s : Script) (r : SearchRequest) : Option String :=
  (s.service.cache.get s.service.now r.key).1

end Script

/-- How a task ended: with an answer, or dropped. -/
inductive Ending
  | answer (answer : Except Error Answer)
  | dropped

def Task.ending : Task → Option Ending
  | .ended answer => some (.answer answer)
  | .dropped => some .dropped
  | _ => none

def endedBetween (before after : State) : List (Nat × Ending) :=
  after.tasks.zipIdx.filterMap fun (t, i) =>
    match (before.tasks[i]?).bind Task.ending with
    | some _ => none
    | none => t.ending.map fun e => (i, e)

end CommitSearch.Service
