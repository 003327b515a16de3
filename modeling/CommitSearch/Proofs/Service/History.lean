import CommitSearch.Proofs.Service.Tasks

/-!
# The course of a run

A run goes through the states to which the beginnings of its acts lead. What holds at one of them and
is kept by every act from there on holds at the end. The course also tells which task a call was made
into, and what the store was asked and what it gave back.
-/

namespace CommitSearch.Service

variable {start s s' u : State} {acts before : List Act} {count : Nat} {a : Act}

/-- An act of a run, the acts before it and the state to which they led. -/
structure Occurs (start : State) (acts before : List Act) (a : Act) (u : State) : Prop where
  order : before ++ [a] <+: acts
  reached : start.after before = some u

/-- A call of a run is known by the place of its task. -/
def Calls (start : State) (acts : List Act) (id : Nat) (call : Call) : Prop :=
  ∃ before u, Occurs start acts before (.call call) u ∧ u.tasks.length = id

/-- A search that begins to ask the store, and one to which the store gave a page. -/
inductive Exchange
  | asked (r : SearchRequest)
  | found (r : SearchRequest) (p : Page)

/-- What passes between a search and the store in a step of its task. -/
def Task.exchange (fault : Option Error) : Task → Option Exchange
  | .search r .note => some (.asked r)
  | .search r (.executed _ p) => if fault.isNone then some (.found r p) else none
  | _ => none

namespace State

def exchange (s : State) : Act → Option Exchange
  | .step id fault => (s.tasks[id]?).bind (Task.exchange fault)
  | _ => none

/-- What passes between the searches and the store in a run, in order. -/
def exchanges (s : State) : List Act → List Exchange
  | [] => []
  | a :: rest =>
    (s.exchange a).toList ++
      match s.act a with
      | some s' => s'.exchanges rest
      | none => []

theorem after_append (s : State) (acts more : List Act) :
    s.after (acts ++ more) = (s.after acts).bind fun u => u.after more := by
  induction acts generalizing s with
  | nil => rfl
  | cons a rest ih =>
    simp only [List.cons_append, after, Option.bind_assoc]
    congr 1
    funext u
    exact ih u

theorem after_snoc (h : start.after acts = some s) (a : Act) :
    start.after (acts ++ [a]) = s.act a := by
  rw [after_append, h]
  simp [after]

theorem exchanges_append (h : start.after acts = some s) (more : List Act) :
    start.exchanges (acts ++ more) = start.exchanges acts ++ s.exchanges more := by
  induction acts generalizing start with
  | nil =>
    cases h
    rfl
  | cons a rest ih =>
    obtain ⟨u, hu, hrest⟩ := Option.bind_eq_some_iff.1 h
    simp only [List.cons_append, exchanges, hu, ih hrest, List.append_assoc]

theorem exchanges_snoc (h : start.after acts = some s) (a : Act) :
    start.exchanges (acts ++ [a]) = start.exchanges acts ++ (s.exchange a).toList := by
  rw [exchanges_append h]
  simp only [exchanges]
  split <;> simp

end State

/-! ### Moments -/

theorem Run.after_eq (run : Run start acts count s) : start.after acts = some s := by
  induction run with
  | nothing => rfl
  | act run next ih => rw [State.after_snoc ih, next]

/-- Acts that can be performed make a run, in which the generation moves at most once an act. -/
theorem run_of_after (h : start.after acts = some s) :
    ∃ count ≤ acts.length, Run start acts count s := by
  obtain ⟨count, hle, run⟩ := Run.nothing.after h
  rw [List.nil_append] at run
  exact ⟨count, by omega, run⟩

/-- A run goes on from each of its moments. -/
theorem Run.at_moment (run : Run start acts count s) (h : before <+: acts) :
    ∃ u n, Run start before n u ∧ n ≤ count := by
  induction run with
  | nothing =>
    rw [List.prefix_nil.1 h]
    exact ⟨start, 0, .nothing, Nat.le_refl 0⟩
  | @act acts count s s' a run next ih =>
    rcases List.prefix_concat_iff.1 h with rfl | h
    · exact ⟨s', _, run.act next, Nat.le_refl _⟩
    · obtain ⟨u, n, hu, hn⟩ := ih h
      exact ⟨u, n, hu, by omega⟩

theorem Run.eq_of_after {n : Nat} (run : Run start acts n s) (h : start.after acts = some u) :
    s = u :=
  Option.some.inj (run.after_eq.symm.trans h)

/-- The acts of a run tell how often the generation moved. -/
theorem Run.count_eq {n : Nat} (run : Run start acts count s) (run' : Run start acts n s') :
    count = n := by
  induction run generalizing n s' with
  | nothing =>
    generalize hacts : ([] : List Act) = acts at run'
    cases run' with
    | nothing => rfl
    | act => simp at hacts
  | @act acts count s u a run next ih =>
    generalize hacts : acts ++ [a] = acts₂ at run'
    cases run' with
    | nothing => simp at hacts
    | act run₂ next₂ =>
      obtain ⟨rfl, ha⟩ := List.append_inj' hacts rfl
      cases ha
      obtain rfl := run.eq_of_after run₂.after_eq
      rw [ih run₂]

/-- What holds at a moment of a run and is kept from there on holds at its end. -/
theorem Run.onward {P : List Act → State → Prop} (run : Run start acts count s)
    (reached : start.after before = some u) (order : before <+: acts) (base : P before u)
    (keep : ∀ {acts' n v a v'}, Run start acts' n v → n ≤ count → before <+: acts' →
      acts' ++ [a] <+: acts → v.act a = some v' → P acts' v → P (acts' ++ [a]) v') : P acts s := by
  induction run with
  | nothing =>
    obtain rfl := List.prefix_nil.1 order
    cases reached
    exact base
  | @act acts count s s' a run next ih =>
    rcases List.prefix_concat_iff.1 order with rfl | h
    · obtain rfl := (run.act next).eq_of_after reached
      exact base
    · refine keep run (by omega) h List.prefix_rfl next (ih h ?_)
      intro acts' n v b v' hv hn hbefore hrest
      exact keep hv (by omega) hbefore (hrest.trans (List.prefix_append acts [a]))

/-- An act of a run that is one longer is the last one or one of those before. -/
theorem Occurs.cases_snoc {b : Act} (h : Occurs start (acts ++ [b]) before a u) :
    (before = acts ∧ a = b) ∨ Occurs start acts before a u := by
  rcases List.prefix_concat_iff.1 h.order with heq | hearlier
  · obtain ⟨hbefore, ha⟩ := List.append_inj' heq rfl
    exact .inl ⟨hbefore, List.singleton_inj.1 ha⟩
  · exact .inr ⟨hearlier, h.reached⟩

theorem Occurs.mem (h : Occurs start acts before a u) : a ∈ acts :=
  h.order.subset (List.mem_append_right before List.mem_cons_self)

end CommitSearch.Service
