import CommitSearch.Flight

/-!
# Groups of callers

Callers of any work, coordinated by flights, as a machine whose steps can come in any order. A
caller joins, leads or waits, and ends with an outcome; it can be dropped at any time before. A
leader whose work has ended first takes its flight from the table and then answers its waiters one
by one, so that others can join, and lead, while it does. When a leader is dropped its waiters are
abandoned, and join again.
-/

namespace CommitSearch.Flight

/-- Where a caller stands. One that publishes still has to answer the callers that are due. -/
inductive Phase (α : Type)
  | joining
  | leading
  | publishing (outcome : Except Error α) (due : List Nat)
  | waiting
  | answered (outcome : Except Error α)
  | abandoned
  | ended (outcome : Except Error α)
  | dropped

/-- A caller and the key of its work. -/
structure Caller (α : Type) where
  key : String
  phase : Phase α

/-- The flights and all callers so far; a caller is known by its position. -/
structure Group (α : Type) where
  flights : Flights
  callers : List (Caller α)

/-- A group after a step, and the callers that can go on because of it, in order. -/
structure Move (α : Type) where
  group : Group α
  woken : List Nat

namespace Group

variable {α : Type}

def empty : Group α := ⟨[], []⟩

def place (g : Group α) (id : Nat) (phase : Phase α) : Group α :=
  { g with callers := g.callers.modify id fun c => { c with phase } }

/-- Lets the waiting ones of some callers stand in a phase. -/
def placeWaiting (g : Group α) (ids : List Nat) (phase : Phase α) : Group α :=
  { g with
    callers := g.callers.mapIdx fun i c =>
      match c.phase with
      | .waiting => if ids.contains i then { c with phase } else c
      | _ => c }

def enter (g : Group α) (key : String) : Group α :=
  { g with callers := g.callers ++ [⟨key, .joining⟩] }

/-- A caller joins: it leads if its key is not in flight and waits otherwise. -/
def join (g : Group α) (id : Nat) : Option (Move α) :=
  match g.callers[id]? with
  | some ⟨key, .joining⟩ =>
    if g.flights.has key then
      some ⟨{ g.place id .waiting with flights := g.flights.wait key id }, []⟩
    else some ⟨{ g.place id .leading with flights := g.flights.begin key }, []⟩
  | _ => none

/-- The work of a leader ends: the flight is over, and its waiters are due for an answer. -/
def finish (g : Group α) (id : Nat) (outcome : Except Error α) : Option (Move α) :=
  match g.callers[id]? with
  | some ⟨key, .leading⟩ =>
    let due := g.flights.waiting key
    some ⟨{ g.place id (.publishing outcome due) with flights := g.flights.close key }, []⟩
  | _ => none

/-- A leader that publishes answers the first caller that is due, and ends when none is. -/
def send (g : Group α) (id : Nat) : Option (Move α) :=
  match g.callers[id]? with
  | some ⟨_, .publishing outcome []⟩ => some ⟨g.place id (.ended outcome), []⟩
  | some ⟨_, .publishing outcome (w :: due)⟩ =>
    let g := g.place id (.publishing outcome due)
    some ⟨g.placeWaiting [w] (.answered (copyOutcome outcome)), [w]⟩
  | _ => none

def receive (g : Group α) (id : Nat) : Option (Move α) :=
  match g.callers[id]? with
  | some ⟨_, .answered outcome⟩ => some ⟨g.place id (.ended outcome), []⟩
  | _ => none

def retry (g : Group α) (id : Nat) : Option (Move α) :=
  match g.callers[id]? with
  | some ⟨_, .abandoned⟩ => some ⟨g.place id .joining, []⟩
  | _ => none

/-- A caller that has not ended is dropped. The flight of a leader is over and its waiters are
abandoned. Publishing cannot be interrupted. -/
def drop (g : Group α) (id : Nat) : Option (Move α) :=
  match g.callers[id]? with
  | some ⟨key, .leading⟩ =>
    let waiters := g.flights.waiting key
    let g := (g.place id .dropped).placeWaiting waiters .abandoned
    some ⟨{ g with flights := g.flights.close key }, waiters⟩
  | some ⟨_, .joining⟩ | some ⟨_, .waiting⟩ | some ⟨_, .answered _⟩ | some ⟨_, .abandoned⟩ =>
    some ⟨g.place id .dropped, []⟩
  | _ => none

def due (g : Group α) (id : Nat) : List Nat :=
  match g.callers[id]? with
  | some ⟨_, .publishing _ due⟩ => due
  | _ => []

end Group
end CommitSearch.Flight
