import CommitSearch.Flight.Group

/-!
# Scripted flights

Callers come, their work is allowed to end, and they are dropped, one event at a time. After every
event all callers that can go on do so, one after the other and in the order in which they were
woken, until each is blocked.
-/

namespace CommitSearch.Flight

/-- What happens to the callers from outside. -/
inductive Event (α : Type)
  | run (key : String) (outcome : Except Error α)
  | finish (id : Nat)
  | drop (id : Nat)

/-- The work of a caller: its outcome, and whether it may end. -/
structure Work (α : Type) where
  outcome : Except Error α
  mayEnd : Bool

/-- A group, the work of its callers, those that can go on, and those whose work began. -/
structure Script (α : Type) where
  group : Group α
  works : List (Work α)
  ready : List Nat
  started : List Nat

namespace Script

variable {α : Type}

def empty : Script α := ⟨.empty, [], [], []⟩

/-- Takes over a step of the group, if there was one. -/
def take (s : Script α) : Option (Move α) → Script α
  | some m => { s with group := m.group, ready := s.ready ++ m.woken }
  | none => s

/-- Lets a leader that publishes go on to its end, at most `fuel` steps. -/
def publish : Nat → Script α → Nat → Script α
  | 0, s, _ => s
  | fuel + 1, s, id =>
    match s.group.send id with
    | some m => publish fuel (s.take m) id
    | none => s

/-- Ends the work of a leader that may end, and answers its waiters. -/
def tryFinish (s : Script α) (id : Nat) : Script α :=
  match s.works[id]? with
  | some ⟨outcome, true⟩ =>
    let s := s.take (s.group.finish id outcome)
    s.publish ((s.group.due id).length + 1) id
  | _ => s

/-- Lets a caller join; a leader begins its work. -/
def join (s : Script α) (id : Nat) (key : String) : Script α :=
  let leads := !s.group.flights.has key
  let s := s.take (s.group.join id)
  if leads then { s with started := s.started ++ [id] }.tryFinish id else s

/-- Lets a caller go on until it is blocked or has ended. -/
def advance (s : Script α) (id : Nat) : Script α :=
  match s.group.callers[id]? with
  | some ⟨key, .joining⟩ => s.join id key
  | some ⟨key, .abandoned⟩ => (s.take (s.group.retry id)).join id key
  | some ⟨_, .leading⟩ => s.tryFinish id
  | some ⟨_, .answered _⟩ => s.take (s.group.receive id)
  | _ => s

/-- Lets callers go on as long as one can, at most `fuel` times. -/
def settle : Nat → Script α → Script α
  | 0, s => s
  | fuel + 1, s =>
    match s.ready with
    | [] => s
    | id :: ready => settle fuel ({ s with ready }.advance id)

def occur (s : Script α) : Event α → Script α
  | .run key outcome =>
    { s with
      group := s.group.enter key
      works := s.works ++ [⟨outcome, false⟩]
      ready := s.ready ++ [s.works.length] }
  | .finish id =>
    { s with
      works := s.works.modify id fun w => { w with mayEnd := true }
      ready := s.ready ++ [id] }
  | .drop id => s.take (s.group.drop id)

/-- An event and all that follows from it. Every caller can be woken once as a waiter and once on
its own account. -/
def step (s : Script α) (e : Event α) : Script α :=
  let s := { s with started := [] }.occur e
  s.settle (4 * (s.works.length + 1))

end Script

/-- How a caller ended: with an outcome, or dropped. -/
inductive Ending (α : Type)
  | outcome (outcome : Except Error α)
  | dropped

/-- How a caller that is in a phase ended, if it did. -/
def Phase.ending {α : Type} : Phase α → Option (Ending α)
  | .ended outcome => some (.outcome outcome)
  | .dropped => some .dropped
  | _ => none

def endedBetween {α : Type} (before after : Group α) : List (Nat × Ending α) :=
  (after.callers.zipIdx).filterMap fun (c, i) =>
    match (before.callers[i]?).bind fun b => b.phase.ending with
    | some _ => none
    | none => c.phase.ending.map fun e => (i, e)

end CommitSearch.Flight
