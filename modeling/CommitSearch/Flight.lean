import CommitSearch.Error

/-!
# Flights

Callers that want the same thing at the same time share one flight. The first caller of a key leads
it and does the work; callers that come while it lasts wait for its outcome. When a flight is over
it is taken from the table together with its waiters, who get a copy of the outcome, or try again if
the leader gave up.

Main statements: what beginning, waiting for and closing a flight does to the keys in flight and to
the waiters of each.
-/

namespace CommitSearch

/-- A key in flight, and the callers that wait for it in the order of their arrival. -/
structure Flight where
  key : String
  waiters : List Nat
deriving DecidableEq, Repr

/-- The flights that are not over, at most one for a key. -/
abbrev Flights := List Flight

namespace Flights

def has (fs : Flights) (key : String) : Bool := fs.any fun f => f.key == key

def wait (fs : Flights) (key : String) (caller : Nat) : Flights :=
  fs.map fun f => if f.key == key then { f with waiters := f.waiters ++ [caller] } else f

def begin (fs : Flights) (key : String) : Flights := fs ++ [⟨key, []⟩]

/-- The callers that wait for a key, in the order of their arrival. -/
def waiting (fs : Flights) (key : String) : List Nat :=
  (fs.filter fun f => f.key == key).flatMap Flight.waiters

def close (fs : Flights) (key : String) : Flights := fs.filter fun f => f.key != key

theorem has_iff (fs : Flights) (k : String) : fs.has k = true ↔ ∃ f ∈ fs, f.key = k := by
  simp only [has, List.any_eq_true, beq_iff_eq]

theorem mem_waiting (fs : Flights) (k : String) (w : Nat) :
    w ∈ fs.waiting k ↔ ∃ f ∈ fs, f.key = k ∧ w ∈ f.waiters := by
  simp only [waiting, List.mem_flatMap, List.mem_filter, beq_iff_eq, and_assoc]

theorem has_begin (fs : Flights) (key k : String) :
    (fs.begin key).has k = true ↔ fs.has k = true ∨ k = key := by
  simp only [has, begin, List.any_append, Bool.or_eq_true, List.any_cons, List.any_nil,
    Bool.or_false, beq_iff_eq]
  exact or_congr Iff.rfl eq_comm

theorem has_wait (fs : Flights) (key : String) (caller : Nat) (k : String) :
    (fs.wait key caller).has k = fs.has k := by
  simp only [has, wait, List.any_map]
  congr 1
  funext f
  simp only [Function.comp]
  split <;> rfl

theorem has_close (fs : Flights) (key k : String) :
    (fs.close key).has k = true ↔ fs.has k = true ∧ k ≠ key := by
  simp only [has_iff, close, List.mem_filter, bne_iff_ne]
  constructor
  · rintro ⟨f, ⟨hf, hne⟩, rfl⟩
    exact ⟨⟨f, hf, rfl⟩, hne⟩
  · rintro ⟨⟨f, hf, rfl⟩, hne⟩
    exact ⟨f, ⟨hf, hne⟩, rfl⟩

theorem waiting_begin (fs : Flights) (key k : String) :
    (fs.begin key).waiting k = fs.waiting k := by
  simp only [waiting, begin, List.filter_append, List.flatMap_append]
  by_cases h : key = k <;> simp [h]

theorem waiting_eq_nil {fs : Flights} {k : String} (h : fs.has k = false) : fs.waiting k = [] := by
  rw [List.eq_nil_iff_forall_not_mem]
  intro w hw
  obtain ⟨f, hf, hk, -⟩ := (fs.mem_waiting k w).1 hw
  rw [(fs.has_iff k).2 ⟨f, hf, hk⟩] at h
  cases h

theorem waiting_cons (f : Flight) (rest : Flights) (k : String) :
    waiting (f :: rest) k = (if f.key = k then f.waiters else []) ++ waiting rest k := by
  by_cases h : f.key = k <;> simp [waiting, h]

theorem wait_cons (f : Flight) (rest : Flights) (key : String) (caller : Nat) :
    wait (f :: rest) key caller =
      ⟨f.key, if f.key = key then f.waiters ++ [caller] else f.waiters⟩ :: wait rest key caller := by
  by_cases h : f.key = key <;> simp [wait, h]

theorem waiting_wait_of_ne {key k : String} (h : k ≠ key) (fs : Flights) (caller : Nat) :
    (fs.wait key caller).waiting k = fs.waiting k := by
  induction fs with
  | nil => rfl
  | cons f rest ih =>
    rw [wait_cons, waiting_cons, waiting_cons, ih]
    by_cases hf : f.key = k
    · simp [hf, h]
    · simp [hf]

theorem wait_of_not_has {fs : Flights} {key : String} (h : fs.has key = false) (caller : Nat) :
    fs.wait key caller = fs := by
  induction fs with
  | nil => rfl
  | cons f rest ih =>
    simp only [has, List.any_cons, Bool.or_eq_false_iff, beq_eq_false_iff_ne] at h
    rw [wait_cons, ih h.2, if_neg h.1]

/-- A caller that waits for a key in flight comes last among its waiters. -/
theorem waiting_wait {fs : Flights} (hn : (fs.map Flight.key).Nodup) {key : String}
    (h : fs.has key = true) (caller : Nat) :
    (fs.wait key caller).waiting key = fs.waiting key ++ [caller] := by
  induction fs with
  | nil => cases h
  | cons f rest ih =>
    have hn := List.nodup_cons.1 hn
    by_cases hf : f.key = key
    · have hrest : has rest key = false := by
        rw [Bool.eq_false_iff]
        intro hk
        obtain ⟨x, hx, hxk⟩ := (has_iff rest key).1 hk
        exact hn.1 (List.mem_map.2 ⟨x, hx, hxk.trans hf.symm⟩)
      rw [wait_cons, wait_of_not_has hrest, waiting_cons, waiting_cons, waiting_eq_nil hrest]
      simp [hf]
    · have hr : has rest key = true := by simpa [has, hf] using h
      rw [wait_cons, waiting_cons, waiting_cons, ih hn.2 hr]
      simp [hf]

/-- Whoever waits for a key after a caller began to: one that did before, or that caller. -/
theorem mem_waiting_wait (fs : Flights) (key : String) (caller w : Nat) :
    w ∈ (fs.wait key caller).waiting key ↔
      w ∈ fs.waiting key ∨ (w = caller ∧ fs.has key = true) := by
  induction fs with
  | nil => simp [wait, waiting, has]
  | cons f rest ih =>
    rw [wait_cons, waiting_cons, waiting_cons, List.mem_append, List.mem_append, ih]
    by_cases hf : f.key = key
    · simp only [hf, if_true, has, List.any_cons, beq_self_eq_true, Bool.true_or, and_true,
        List.mem_append, List.mem_singleton]
      grind
    · simp [has, hf]

theorem waiting_close (fs : Flights) (key : String) : (fs.close key).waiting key = [] :=
  waiting_eq_nil (Bool.eq_false_iff.2 fun h => ((has_close fs key key).1 h).2 rfl)

theorem waiting_close_of_ne {key k : String} (h : k ≠ key) (fs : Flights) :
    (fs.close key).waiting k = fs.waiting k := by
  simp only [waiting, close, List.filter_filter]
  congr 2
  funext f
  by_cases hf : f.key = k
  · simp [hf, h]
  · simp [hf]

theorem keys_wait (fs : Flights) (key : String) (caller : Nat) :
    (fs.wait key caller).map Flight.key = fs.map Flight.key := by
  simp only [wait, List.map_map]
  congr 1
  funext f
  simp only [Function.comp]
  split <;> rfl

end Flights

def copyOutcome {α : Type} (r : Except Error α) : Except Error α := r.mapError Error.replica

end CommitSearch
