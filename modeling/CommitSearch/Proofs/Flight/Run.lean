import CommitSearch.Flight.Group

/-!
# Runs of a group of callers

A run is any sequence of possible acts from a group without callers: callers come, take their steps
and are dropped in any order. `Step` says what an act can do, one case for each, and everything
about runs is proved from it.
-/

namespace CommitSearch.Flight

variable {α : Type}

/-- What can happen in a group: a caller comes, takes one of its steps, or is dropped. -/
inductive Act (α : Type)
  | enter (key : String)
  | join (id : Nat)
  | finish (id : Nat) (outcome : Except Error α)
  | send (id : Nat)
  | receive (id : Nat)
  | retry (id : Nat)
  | drop (id : Nat)

def Group.act (g : Group α) : Act α → Option (Group α)
  | .enter key => some (g.enter key)
  | .join id => (g.join id).map Move.group
  | .finish id outcome => (g.finish id outcome).map Move.group
  | .send id => (g.send id).map Move.group
  | .receive id => (g.receive id).map Move.group
  | .retry id => (g.retry id).map Move.group
  | .drop id => (g.drop id).map Move.group

/-- The groups to which sequences of acts lead. -/
inductive Run : List (Act α) → Group α → Prop
  | start : Run [] .empty
  | act {acts : List (Act α)} {g g' : Group α} {a : Act α} :
    Run acts g → g.act a = some g' → Run (acts ++ [a]) g'

def Group.Stands (g : Group α) (id : Nat) (key : String) (phase : Phase α) : Prop :=
  g.callers[id]? = some ⟨key, phase⟩

/-- A caller does the work of its key. -/
def Group.Leads (g : Group α) (id : Nat) (key : String) : Prop := g.Stands id key .leading

/-- A caller that waits for another's outcome, or has yet to look at what it got. -/
def Phase.isSuspended : Phase α → Bool
  | .waiting | .answered _ | .abandoned => true
  | _ => false

/-- A caller that has returned or was dropped. -/
def Phase.isOver : Phase α → Bool
  | .ended _ | .dropped => true
  | _ => false

/-! ### What acts can do -/

/-- The group after a leader was dropped. -/
def Group.abandoned (g : Group α) (id : Nat) (key : String) : Group α :=
  { (g.place id .dropped).placeWaiting (g.flights.waiting key) .abandoned with
    flights := g.flights.close key }

/-- An act, the group before it and the group after it, by what happens to the caller. -/
inductive Step (g : Group α) : Act α → Group α → Prop
  | enter (key : String) : Step g (.enter key) (g.enter key)
  | lead {id : Nat} {key : String} (joining : g.Stands id key .joining)
      (free : g.flights.has key = false) :
    Step g (.join id) { g.place id .leading with flights := g.flights.begin key }
  | wait {id : Nat} {key : String} (joining : g.Stands id key .joining)
      (taken : g.flights.has key = true) :
    Step g (.join id) { g.place id .waiting with flights := g.flights.wait key id }
  | publish {id : Nat} {key : String} (outcome : Except Error α) (leads : g.Leads id key) :
    Step g (.finish id outcome)
      { g.place id (.publishing outcome (g.flights.waiting key)) with
        flights := g.flights.close key }
  | answer {id w : Nat} {key : String} {outcome : Except Error α} {due : List Nat}
      (publishing : g.Stands id key (.publishing outcome (w :: due))) :
    Step g (.send id)
      ((g.place id (.publishing outcome due)).placeWaiting [w] (.answered (copyOutcome outcome)))
  | conclude {id : Nat} {key : String} {outcome : Except Error α}
      (publishing : g.Stands id key (.publishing outcome [])) :
    Step g (.send id) (g.place id (.ended outcome))
  | receive {id : Nat} {key : String} {outcome : Except Error α}
      (answered : g.Stands id key (.answered outcome)) :
    Step g (.receive id) (g.place id (.ended outcome))
  | retry {id : Nat} {key : String} (abandoned : g.Stands id key .abandoned) :
    Step g (.retry id) (g.place id .joining)
  | abandon {id : Nat} {key : String} (leads : g.Leads id key) :
    Step g (.drop id) (g.abandoned id key)
  | leave {id : Nat} {key : String} {phase : Phase α} (stands : g.Stands id key phase)
      (follows : phase.isSuspended = true ∨ phase = .joining) :
    Step g (.drop id) (g.place id .dropped)

theorem step_of_join {g g' : Group α} {id : Nat} (h : g.act (.join id) = some g') :
    Step g (.join id) g' := by
  simp only [Group.act, Group.join] at h
  split at h
  · next key hid =>
    split at h <;> cases h
    · next taken => exact .wait hid taken
    · next free => exact .lead hid (by simpa using free)
  · cases h

theorem step_of_send {g g' : Group α} {id : Nat} (h : g.act (.send id) = some g') :
    Step g (.send id) g' := by
  simp only [Group.act, Group.send] at h
  split at h
  · next hid => cases h; exact .conclude hid
  · next hid => cases h; exact .answer hid
  · cases h

theorem step_of_drop {g g' : Group α} {id : Nat} (h : g.act (.drop id) = some g') :
    Step g (.drop id) g' := by
  simp only [Group.act, Group.drop] at h
  split at h
  · next hid => cases h; exact .abandon hid
  · next hid => cases h; exact .leave hid (.inr rfl)
  · next hid => cases h; exact .leave hid (.inl rfl)
  · next hid => cases h; exact .leave hid (.inl rfl)
  · next hid => cases h; exact .leave hid (.inl rfl)
  · cases h

theorem step_of_act {g g' : Group α} {a : Act α} (h : g.act a = some g') : Step g a g' := by
  cases a with
  | enter key =>
    cases h
    exact .enter key
  | join id => exact step_of_join h
  | finish id outcome =>
    simp only [Group.act, Group.finish] at h
    split at h
    · next hid => cases h; exact .publish outcome hid
    · cases h
  | send id => exact step_of_send h
  | receive id =>
    simp only [Group.act, Group.receive] at h
    split at h
    · next hid => cases h; exact .receive hid
    · cases h
  | retry id =>
    simp only [Group.act, Group.retry] at h
    split at h
    · next hid => cases h; exact .retry hid
    · cases h
  | drop id => exact step_of_drop h

/-! ### Where callers stand after an act -/

theorem Group.Stands.inj {g : Group α} {id : Nat} {k k' : String} {p p' : Phase α}
    (h : g.Stands id k p) (h' : g.Stands id k' p') : k = k' ∧ p = p' := by
  have e := Option.some.inj (h.symm.trans h')
  exact ⟨congrArg Caller.key e, congrArg Caller.phase e⟩

@[simp] theorem flights_place (g : Group α) (id : Nat) (p : Phase α) :
    (g.place id p).flights = g.flights := rfl

@[simp] theorem flights_placeWaiting (g : Group α) (ids : List Nat) (p : Phase α) :
    (g.placeWaiting ids p).flights = g.flights := rfl

@[simp] theorem flights_enter (g : Group α) (key : String) : (g.enter key).flights = g.flights := rfl

@[simp] theorem stands_with_flights (g : Group α) (fs : Flights) (i : Nat) (k : String)
    (p : Phase α) : ({ g with flights := fs } : Group α).Stands i k p ↔ g.Stands i k p := Iff.rfl

theorem stands_enter (g : Group α) (key : String) (i : Nat) (k : String) (p : Phase α) :
    (g.enter key).Stands i k p ↔
      g.Stands i k p ∨ (i = g.callers.length ∧ k = key ∧ p = .joining) := by
  simp only [Group.Stands, Group.enter, List.getElem?_append, List.getElem?_singleton]
  split
  · next hlt => simp [Nat.ne_of_lt hlt]
  · next hge =>
    have hnone : g.callers[i]? = none := List.getElem?_eq_none (Nat.le_of_not_lt hge)
    rw [hnone]
    by_cases hi : i = g.callers.length
    · subst hi
      simp [eq_comm]
    · have hpos : i - g.callers.length ≠ 0 := by omega
      simp [hi, hpos]

theorem stands_place {g : Group α} {id : Nat} {key : String} {p : Phase α} (h : g.Stands id key p)
    (q : Phase α) (i : Nat) (k : String) (r : Phase α) :
    (g.place id q).Stands i k r ↔ (i = id ∧ k = key ∧ r = q) ∨ (i ≠ id ∧ g.Stands i k r) := by
  simp only [Group.Stands, Group.place, List.getElem?_modify] at h ⊢
  by_cases hi : i = id
  · subst hi
    simp [h, eq_comm]
  · simp [hi, Ne.symm hi]

theorem stands_placeWaiting (g : Group α) (ids : List Nat) (q : Phase α) (i : Nat) (k : String)
    (r : Phase α) :
    (g.placeWaiting ids q).Stands i k r ↔
      (g.Stands i k .waiting ∧ i ∈ ids ∧ r = q) ∨ (g.Stands i k r ∧ ¬(r = .waiting ∧ i ∈ ids)) := by
  simp only [Group.Stands, Group.placeWaiting, List.getElem?_mapIdx]
  cases hi : g.callers[i]? with
  | none => simp
  | some c =>
    obtain ⟨key, phase⟩ := c
    cases phase <;> grind

end CommitSearch.Flight
