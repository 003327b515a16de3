import CommitSearch.Proofs.Service.Refreshes
import CommitSearch.Proofs.Service.Stored

/-!
# What the snapshot covers

A refresh reads the commits in one step and puts the snapshot of them in place in another; saves and
searches come in between, other refreshes do not. `Coverage` counts along a run the commits that were
read last and those of the snapshot in place. Main statement: the snapshot in place is always that of
the counted commits, their number never falls, and a refresh that returned covers all that was stored
when it was called. Before the first refresh there is no such number, and no snapshot of any commits
is in place.
-/

namespace CommitSearch.Service

/-- Of how many commits the last snapshot was built, and of how many the one in place. -/
structure Coverage where
  built : Nat
  inPlace : Option Nat

namespace Coverage

/-- The coverage after a step of a task. -/
def stepped (k : Coverage) (s : State) (fault : Option Error) : Task → Coverage
  | .refresh .rebuild =>
    match fault with
    | some _ => k
    | none => { k with built := s.store.commits.length }
  | .refresh (.swap _) => { k with inPlace := some k.built }
  | _ => k

def next (k : Coverage) (s : State) : Act → Coverage
  | .step id fault =>
    match s.tasks[id]? with
    | some t => k.stepped s fault t
    | none => k
  | _ => k

def along (k : Coverage) (s : State) : List Act → Coverage
  | [] => k
  | a :: rest =>
    match s.act a with
    | some s' => (k.next s a).along s' rest
    | none => k

/-- A later coverage: neither number has fallen. -/
structure Grown (k k' : Coverage) : Prop where
  built : k.built ≤ k'.built
  inPlace : ∀ {n}, k.inPlace = some n → ∃ m, k'.inPlace = some m ∧ n ≤ m

end Coverage

/-- The coverage after the acts of a run that starts without a snapshot. -/
def State.coverage (start : State) (acts : List Act) : Coverage :=
  Coverage.along ⟨0, none⟩ start acts

/-- The snapshot in place is that of the first `n` commits, or was never built. -/
def State.Covered (s : State) : Option Nat → Prop
  | none => s.store.snapshot = .empty
  | some n => n ≤ s.store.commits.length ∧ s.store.snapshot = .build (s.store.commits.take n)

/-- What the counted numbers say about a state. -/
structure Coverage.Fits (k : Coverage) (s : State) : Prop where
  ordered : ∀ {n}, k.inPlace = some n → n ≤ k.built
  built : k.built ≤ s.store.commits.length
  inPlace : s.Covered k.inPlace
  pending : ∀ {i snapshot}, s.Stands i (.refresh (.swap snapshot)) →
    snapshot = .build (s.store.commits.take k.built)

variable {start s s' u : State} {k : Coverage} {acts before : List Act} {count : Nat} {a : Act}
  {i id : Nat} {t t' : Task} {e : Effect} {fault : Option Error} {snapshot : Snapshot}

theorem Coverage.Grown.rfl : k.Grown k := ⟨Nat.le_refl _, fun h => ⟨_, h, Nat.le_refl _⟩⟩

theorem Coverage.Grown.trans {k' k'' : Coverage} (h : k.Grown k') (h' : k'.Grown k'') :
    k.Grown k'' := by
  refine ⟨Nat.le_trans h.built h'.built, fun hn => ?_⟩
  obtain ⟨m, hm, hnm⟩ := h.inPlace hn
  obtain ⟨l, hl, hml⟩ := h'.inPlace hm
  exact ⟨l, hl, Nat.le_trans hnm hml⟩

/-! ### Counting along a run -/

theorem Coverage.along_append (h : start.after acts = some s) (more : List Act) :
    k.along start (acts ++ more) = (k.along start acts).along s more := by
  induction acts generalizing start k with
  | nil =>
    cases h
    rfl
  | cons a rest ih =>
    obtain ⟨u, hu, hrest⟩ := Option.bind_eq_some_iff.1 h
    simp only [List.cons_append, along, hu, ih hrest]

theorem coverage_snoc (h : start.after acts = some s) (next : s.act a = some s') :
    start.coverage (acts ++ [a]) = (start.coverage acts).next s a := by
  rw [State.coverage, Coverage.along_append h]
  simp only [Coverage.along, next]
  rfl

theorem next_step (stands : s.Stands id t) : k.next s (.step id fault) = k.stepped s fault t := by
  have ht : s.tasks[id]? = some t := stands
  simp only [Coverage.next, ht]

/-- The numbers grow because what is read is all that is stored, and only what was read last can be
put in place. -/
theorem grown_next (h : k.Fits s) (hstep : Step s a s') : k.Grown (k.next s a) := by
  cases hstep with
  | call | drop | wait => exact .rfl
  | go stands goes =>
    rw [next_step stands]
    cases goes with
    | rebuild | rejectRebuild => exact ⟨h.built, Coverage.Grown.rfl.inPlace⟩
    | swap => exact ⟨Nat.le_refl _, fun hn => ⟨_, rfl, h.ordered hn⟩⟩
    | _ => exact .rfl

/-! ### Snapshots that are not in place yet -/

/-- A refresh that is about to put a snapshot in place has read the commits, just now or before. -/
theorem swap_from (hl : LockFits s) (hstep : Step s a s')
    (hs : s'.Stands i (.refresh (.swap snapshot))) :
    s.Stands i (.refresh (.swap snapshot)) ∨
      a = .step i none ∧ s.Stands i (.refresh .rebuild) ∧ s.store.rebuilt = .ok snapshot := by
  have hnudged : ∀ {j : Nat} {t t' : Task} {v : State}, s.Stands j t → i ≠ j →
      Nudges (s.place j t') v → v.Stands i (.refresh (.swap snapshot)) →
      s.Stands i (.refresh (.swap snapshot)) := by
    intro j t t' v stands hi hn hv
    rcases hn.back i _ hv with heq | ⟨w, hw, hwn⟩
    · cases heq
    · cases hwn
      rcases (stands_place stands t' i _).1 hw with ⟨rfl, -⟩ | ⟨-, hold⟩
      · exact absurd rfl hi
      · exact hold
  cases hstep with
  | call call =>
    rcases (stands_start s call.task i _).1 hs with hold | ⟨-, htask⟩
    · exact .inl hold
    · cases call <;> cases htask
  | wait => exact .inl hs
  | @go id fault t t' e stands goes =>
    by_cases hi : i = id
    · subst hi
      obtain rfl := hs.inj (stands_goes_self hl stands goes)
      cases goes with
      | rebuild rebuilt => exact .inr ⟨rfl, stands, rebuilt⟩
    · exact .inl (hnudged stands hi (nudges_goes hl stands goes) hs)
  | @drop id t e stands gives =>
    by_cases hi : i = id
    · subst hi
      cases hs.inj (stands_drop_self hl stands gives)
    · exact .inl (hnudged stands hi (nudges_gives hl stands gives) hs)

/-! ### What holds throughout a run -/

theorem take_of_step {n : Nat} (hstep : Step s a s') (hn : n ≤ s.store.commits.length) :
    n ≤ s'.store.commits.length ∧ s'.store.commits.take n = s.store.commits.take n := by
  rcases commits_step hstep with hsame | ⟨-, c, -, hadded⟩
  · rw [hsame]
    exact ⟨hn, rfl⟩
  · rw [hadded, List.length_append, List.take_append_of_le_length hn]
    exact ⟨Nat.le_add_right_of_le hn, rfl⟩

theorem covered_of_step {o : Option Nat} (hstep : Step s a s')
    (same : s'.store.snapshot = s.store.snapshot) (h : s.Covered o) : s'.Covered o := by
  cases o with
  | none => exact same.trans h
  | some n =>
    obtain ⟨hlength, htake⟩ := take_of_step hstep h.1
    exact ⟨hlength, by rw [same, h.2, htake]⟩

/-- Where neither the snapshot nor the counted numbers change. -/
theorem Coverage.Fits.kept (h : k.Fits s) (hstep : Step s a s')
    (same : s'.store.snapshot = s.store.snapshot)
    (pending : ∀ {i snapshot}, s'.Stands i (.refresh (.swap snapshot)) →
      s.Stands i (.refresh (.swap snapshot))) : k.Fits s' := by
  obtain ⟨hlength, htake⟩ := take_of_step hstep h.built
  refine ⟨h.ordered, hlength, covered_of_step hstep same h.inPlace, fun hs => ?_⟩
  rw [htake]
  exact h.pending (pending hs)

theorem fits_rebuild (hl : LockFits s) (hh : HolderFits s) (h : k.Fits s)
    (stands : s.Stands id (.refresh .rebuild)) (hstep : Step s (.step id none) s')
    (same : s'.store = s.store) : Coverage.Fits { k with built := s.store.commits.length } s' := by
  have hinPlace : s'.Covered k.inPlace := covered_of_step hstep (by rw [same]) h.inPlace
  refine ⟨fun hn => Nat.le_trans (h.ordered hn) h.built, by rw [same], hinPlace, ?_⟩
  intro i snapshot hs
  rw [same, List.take_length]
  rcases swap_from hl hstep hs with hold | ⟨-, -, rebuilt⟩
  · -- No other refresh has read the commits: it would hold the lock as well.
    obtain rfl := hh.eq_of_holds ⟨_, hold, rfl⟩ ⟨_, stands, rfl⟩
    cases stands.inj hold
  · cases hstore : s.store with
    | memory contents =>
      rw [hstore] at rebuilt
      cases rebuilt
      rfl
    | disconnected =>
      rw [hstore] at rebuilt
      cases rebuilt

theorem fits_swap (hl : LockFits s) (connected : s.store ≠ .disconnected) (h : k.Fits s)
    (stands : s.Stands id (.refresh (.swap snapshot))) (hstep : Step s (.step id fault) s')
    (swapped : s'.store = s.store.swap snapshot) :
    Coverage.Fits { k with inPlace := some k.built } s' := by
  have hcommits : s'.store.commits = s.store.commits := by rw [swapped, Store.commits_swap]
  have hsnapshot : s'.store.snapshot = snapshot := by
    rw [swapped, Store.snapshot_swap connected]
  refine ⟨fun hn => Nat.le_of_eq (Option.some.inj hn).symm, hcommits ▸ h.built, ?_, ?_⟩
  · refine ⟨hcommits ▸ h.built, ?_⟩
    rw [hsnapshot, hcommits]
    exact h.pending stands
  · intro i pending hs
    rw [hcommits]
    rcases swap_from hl hstep hs with hold | ⟨heq, rebuild, -⟩
    · exact h.pending hold
    · cases heq
      cases stands.inj rebuild

theorem fits_step (hl : LockFits s) (hh : HolderFits s) (connected : s.store ≠ .disconnected)
    (h : k.Fits s) (hstep : Step s a s') : (k.next s a).Fits s' := by
  have hpending : (∀ i, a = .step i none → ¬ s.Stands i (.refresh .rebuild)) →
      ∀ {i snapshot}, s'.Stands i (.refresh (.swap snapshot)) →
        s.Stands i (.refresh (.swap snapshot)) := by
    intro hother i snapshot hs
    rcases swap_from hl hstep hs with hold | ⟨ha, hrebuild, -⟩
    · exact hold
    · exact absurd hrebuild (hother i ha)
  cases hstep with
  | call call => exact h.kept (.call call) rfl (hpending (by simp))
  | wait duration => exact h.kept (.wait duration) rfl (hpending (by simp))
  | drop stands gives =>
    have hstore := congrArg Store.snapshot (store_drop gives)
    exact h.kept (.drop stands gives) hstore (hpending (by simp))
  | @go id fault t t' e stands goes =>
    have hstep := Step.go stands goes
    have hquiet : (t = .refresh .rebuild → fault ≠ none) →
        ∀ i, Act.step id fault = .step i none → ¬ s.Stands i (.refresh .rebuild) := by
      rintro hother i ⟨⟩ hi
      exact hother (stands.inj hi) rfl
    rw [next_step stands]
    cases goes with
    | rebuild => exact fits_rebuild hl hh h stands hstep rfl
    | rejectRebuild => exact fits_rebuild hl hh h stands hstep (store_unlock _)
    | swap => exact fits_swap hl connected h stands hstep rfl
    | insert insert =>
      exact h.kept hstep (Store.snapshot_insert insert) (hpending (hquiet nofun))
    | failRebuild | finish =>
      exact h.kept hstep (congrArg Store.snapshot (store_unlock _)) (hpending (hquiet (by simp)))
    | _ => exact h.kept hstep rfl (hpending (hquiet nofun))

theorem fits_run (run : Run (fresh (.memory .empty)) acts count s) :
    ((fresh (.memory .empty)).coverage acts).Fits s := by
  induction run with
  | nothing =>
    refine ⟨nofun, Nat.le_refl 0, rfl, fun hs => ?_⟩
    exact absurd hs (not_stands_fresh _)
  | act run next ih =>
    rw [coverage_snoc run.after_eq next]
    exact fits_step (lockFits_run run) (holderFits_run run) (connected_run run) ih (step_of_act next)

theorem grown_run (run : Run (fresh (.memory .empty)) acts count s) (order : before <+: acts) :
    ((fresh (.memory .empty)).coverage before).Grown ((fresh (.memory .empty)).coverage acts) := by
  obtain ⟨u, n, hu, -⟩ := run.at_moment order
  refine run.onward (P := fun acts' _ => Coverage.Grown _ (State.coverage _ acts')) hu.after_eq order
    .rfl ?_
  intro acts' n v a v' hv _ _ _ next h
  rw [coverage_snoc hv.after_eq next]
  exact h.trans (grown_next (fits_run hv) (step_of_act next))

/-! ### What a refresh covers -/

/-- How far a refresh has come that was called when `m` commits were stored. -/
inductive Refreshed (m : Nat) (k : Coverage) : Task → Prop
  | request : Refreshed m k (.refresh .request)
  | queued : Refreshed m k (.refresh .queued)
  | rebuild : Refreshed m k (.refresh .rebuild)
  | swap {snapshot : Snapshot} (read : m ≤ k.built) : Refreshed m k (.refresh (.swap snapshot))
  | invalidate {n : Nat} (covered : k.inPlace = some n) (enough : m ≤ n) :
    Refreshed m k (.refresh .invalidate)
  | returned {answer : Answer} {n : Nat} (covered : k.inPlace = some n) (enough : m ≤ n) :
    Refreshed m k (.ended (.ok answer))
  | failed {error : Error} : Refreshed m k (.ended (.error error))
  | dropped : Refreshed m k .dropped

theorem Refreshed.grown {m : Nat} {k' : Coverage} (h : Refreshed m k t) (g : k.Grown k') :
    Refreshed m k' t := by
  cases h with
  | request => exact .request
  | queued => exact .queued
  | rebuild => exact .rebuild
  | swap read => exact .swap (Nat.le_trans read g.built)
  | invalidate covered enough =>
    obtain ⟨l, hl, hle⟩ := g.inPlace covered
    exact .invalidate hl (Nat.le_trans enough hle)
  | returned covered enough =>
    obtain ⟨l, hl, hle⟩ := g.inPlace covered
    exact .returned hl (Nat.le_trans enough hle)
  | failed => exact .failed
  | dropped => exact .dropped

theorem Refreshed.nudged {m : Nat} (h : Refreshed m k t) (hn : Nudged t t') : Refreshed m k t' := by
  cases hn with
  | same => exact h
  | locked => exact .rebuild
  | answered | rejoins => cases h

theorem refreshed_goes {m : Nat} (h : Refreshed m k t) (stored : m ≤ s.store.commits.length)
    (goes : Goes s id fault t t' e) : Refreshed m (k.stepped s fault t) t' := by
  cases h with
  | request =>
    cases goes with
    | acquire => exact .rebuild
    | queue => exact .queued
  | rebuild =>
    cases goes with
    | failRebuild | rejectRebuild => exact .failed
    | rebuild => exact .swap stored
  | swap read =>
    cases goes with
    | swap => exact .invalidate rfl read
  | invalidate covered enough =>
    cases goes with
    | finish => exact .returned covered enough
  | queued | returned | failed | dropped => cases goes

theorem refreshed_step {m : Nat} (hl : LockFits s) (fits : k.Fits s) (hs : s.Stands i t)
    (h : Refreshed m k t) (stored : m ≤ s.store.commits.length) (hstep : Step s a s') :
    ∃ t', s'.Stands i t' ∧ Refreshed m (k.next s a) t' := by
  rcases stands_after hl hstep hs with ⟨fault, t', e, rfl, goes, hs'⟩ | ⟨e, -, -, hs'⟩ |
    ⟨t', -, nudged, hs'⟩
  · rw [next_step hs]
    exact ⟨t', hs', refreshed_goes h stored goes⟩
  · exact ⟨_, hs', .dropped⟩
  · exact ⟨t', hs', (h.nudged nudged).grown (grown_next fits hstep)⟩

theorem refreshed_run (run : Run (fresh (.memory .empty)) acts count s)
    (called : Occurs (fresh (.memory .empty)) acts before (.call .refresh) u) :
    ∃ t, s.Stands u.tasks.length t ∧
      Refreshed u.store.commits.length ((fresh (.memory .empty)).coverage acts) t := by
  have hcalled : (fresh (.memory .empty)).after (before ++ [.call .refresh]) =
      some (u.start refreshing).1 := State.after_snoc called.reached _
  refine run.onward (P := fun acts' v => ∃ t, v.Stands u.tasks.length t ∧
    Refreshed u.store.commits.length ((fresh (.memory .empty)).coverage acts') t) hcalled called.order
    ⟨_, (stands_start u refreshing _ _).2 (.inr ⟨rfl, rfl⟩), .request⟩ ?_
  rintro acts' n v a v' hv - order - next ⟨t, ht, h⟩
  have stored := commits_le_run hv ((List.prefix_append before _).trans order) called.reached
  rw [coverage_snoc hv.after_eq next]
  exact refreshed_step (lockFits_run hv) (fits_run hv) ht h stored (step_of_act next)

/-! ### Main statement -/

/-- The number of commits of which the snapshot in place was built, after the acts of a run from an
empty store. -/
def covered (acts : List Act) : Option Nat := ((fresh (.memory .empty)).coverage acts).inPlace

/-- The snapshot after a run from an empty store. -/
structure Covers (acts : List Act) (s : State) : Prop where
  /-- No two refreshes are at work. -/
  alone : ∀ {i j}, s.Holds i → s.Holds j → i = j
  snapshot : s.Covered (covered acts)
  /-- Once a refresh has put a snapshot in place, it is one of commits. -/
  placed : ∀ {before u i fault snapshot}, Occurs (fresh (.memory .empty)) acts before (.step i fault) u →
    u.Stands i (.refresh (.swap snapshot)) → ∃ n, covered acts = some n
  grows : ∀ {before n}, before <+: acts → covered before = some n →
    ∃ m, covered acts = some m ∧ n ≤ m
  /-- A refresh that has returned covers what was stored when it was called. -/
  recent : ∀ {before u answer}, Occurs (fresh (.memory .empty)) acts before (.call .refresh) u →
    s.Stands u.tasks.length (.ended (.ok answer)) →
    ∃ n, covered acts = some n ∧ u.store.commits.length ≤ n
  /-- The values listed for a key are those of the covered commits, in order. -/
  values : ∀ key, ∃ values, s.listed (some key) = .ok (.values values) ∧
    values.Pairwise (· < ·) ∧ ∀ v, v ∈ values ↔
      v ≠ "" ∧ ∃ c ∈ s.store.commits.take ((covered acts).getD 0), key.valueOf c = v

theorem valuesFor_of_covered {o : Option Nat} (h : s.Covered o) (key : FilterKey) :
    Store.valuesFor key s.store.snapshot.filters =
      Snapshot.valuesOf (s.store.commits.take (o.getD 0)) key := by
  cases o with
  | none =>
    rw [show s.store.snapshot = .empty from h]
    rfl
  | some n =>
    rw [h.2, Store.valuesFor_build]
    rfl

theorem snapshots_cover (run : Run (fresh (.memory .empty)) acts count s) : Covers acts s := by
  have fits := fits_run run
  constructor
  case alone => exact (holderFits_run run).eq_of_holds
  case snapshot => exact fits.inPlace
  case grows => exact fun order => (grown_run run order).inPlace
  case placed =>
    intro before u i fault snapshot swap stands
    obtain ⟨v, n, hv, -⟩ := run.at_moment swap.order
    have next := (State.after_snoc swap.reached _).symm.trans hv.after_eq
    have hcovered := coverage_snoc swap.reached next
    rw [next_step stands] at hcovered
    obtain ⟨m, hm, -⟩ := (grown_run run swap.order).inPlace (congrArg Coverage.inPlace hcovered)
    exact ⟨m, hm⟩
  case recent =>
    intro before u answer called returned
    obtain ⟨t, ht, h⟩ := refreshed_run run called
    obtain rfl := ht.inj returned
    cases h with
    | returned covered enough => exact ⟨_, covered, enough⟩
  case values =>
    intro key
    have hvalues := valuesFor_of_covered fits.inPlace key
    refine ⟨_, ?_, Snapshot.ascending_valuesOf _ key, fun v => Snapshot.mem_valuesOf⟩
    rw [State.listed, Store.listFilter_eq (connected_run run), hvalues]
    rfl

def savedCommit : Commit :=
  ⟨Calendar.Instant.ofSeconds 1, "a1", "fix", "", "b", "r", "p", false, false⟩

/-- A refresh that reads the commits before one is stored and puts its snapshot in place after that,
and one that is called in between and waits for the lock. -/
def refreshesAroundSave : List Act :=
  [.call .refresh, .call (.save savedCommit), .step 0 none, .step 1 none, .step 0 none,
    .step 1 none, .call .refresh, .step 2 none, .step 0 none, .step 0 none, .step 2 none,
    .step 2 none, .step 2 none]

theorem refreshesAroundSave_after :
    ∃ v u s, (fresh (.memory .empty)).after (refreshesAroundSave.take 10) = some v ∧
      (fresh (.memory .empty)).after (refreshesAroundSave.take 6) = some u ∧
      (fresh (.memory .empty)).after refreshesAroundSave = some s ∧
      v.Stands 0 (.ended (.ok .done)) ∧ v.store.commits = [savedCommit] ∧
      u.tasks.length = 2 ∧ u.store.commits = [savedCommit] ∧ s.Stands 2 (.ended (.ok .done)) :=
  ⟨_, _, _, rfl, rfl, rfl, rfl, rfl, rfl, rfl, rfl⟩

/-- The first refresh leaves out the commit that was stored after it had read, the second has it. -/
theorem snapshots_cover_saved :
    ∃ m n v s, Run (fresh (.memory .empty)) (refreshesAroundSave.take 10) m v ∧
      v.store.commits = [savedCommit] ∧ Covers (refreshesAroundSave.take 10) v ∧
      covered (refreshesAroundSave.take 10) = some 0 ∧
      Run (fresh (.memory .empty)) refreshesAroundSave n s ∧ Covers refreshesAroundSave s ∧
      covered refreshesAroundSave = some 1 ∧
      ∃ u, Occurs (fresh (.memory .empty)) refreshesAroundSave (refreshesAroundSave.take 6)
        (.call .refresh) u ∧ s.Stands u.tasks.length (.ended (.ok .done)) := by
  obtain ⟨v, u, s, hv, hu, hs, -, hstored, hid, -, hended⟩ := refreshesAroundSave_after
  obtain ⟨m, -, before⟩ := run_of_after hv
  obtain ⟨n, -, run⟩ := run_of_after hs
  have call : Occurs (fresh (.memory .empty)) refreshesAroundSave (refreshesAroundSave.take 6)
      (.call .refresh) u := ⟨⟨_, rfl⟩, hu⟩
  exact ⟨m, n, v, s, before, hstored, snapshots_cover before, rfl, run, snapshots_cover run, rfl, u,
    call, by rwa [hid]⟩

/-- The store that was never refreshed lists no filter, while the snapshot of any of its commits
would list every filter without values. -/
theorem unbuilt_lists_no_filter :
    ∃ s, Run (fresh (.memory .empty)) [] 0 s ∧ s.listed none = .ok (.filters []) ∧
      ∀ n, s.store.snapshot ≠ .build (s.store.commits.take n) := by
  refine ⟨_, .nothing, rfl, fun n h => ?_⟩
  cases congrArg Snapshot.filters h

end CommitSearch.Service
