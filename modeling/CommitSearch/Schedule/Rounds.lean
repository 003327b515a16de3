import CommitSearch.Schedule
import CommitSearch.Store

/-!
# Rounds of the daily refresh

The program waits for the next refresh, builds the index anew and waits again, so that every refresh is
the first after the one before. A round that fails leaves the store as it is, and the next one comes
all the same.
-/

namespace CommitSearch.Schedule

open CommitSearch.Calendar

namespace Daily

/-- A number of refreshes, each the first after the one before. -/
def instants (d : Daily) : Nat → Instant → List Instant
  | 0, _ => []
  | count + 1, now =>
    match d.next now with
    | none => []
    | some i => i :: d.instants count i

/-- The seconds of a number of refreshes. -/
def firings (d : Daily) (count : Nat) (now : Instant) : List Int :=
  (d.instants count now).map Instant.seconds

end Daily

/-- A round: whether it succeeded, and the store behind it. -/
structure Round where
  succeeded : Bool
  store : Store

/-- The round on a store, with the fault that it meets if there is one. -/
def Round.on (store : Store) (fault : Option Error) : Round :=
  match fault with
  | some _ => ⟨false, store⟩
  | none =>
    match store.refresh with
    | .ok store => ⟨true, store⟩
    | .error _ => ⟨false, store⟩

/-- The rounds on a store, one for every fault or its absence. -/
def rounds (store : Store) : List (Option Error) → List Round
  | [] => []
  | fault :: faults =>
    let round := Round.on store fault
    round :: rounds round.store faults

end CommitSearch.Schedule
