import CommitSearch.Proofs.Service.Sweeps

/-!
# Dropped calls and the cache

Giving a call up leaves the store, the generation and the cache as they are. A search that is dropped
after it has written an outdated page, and before it has compared the generations again and deleted the
page, leaves that page in the cache until it expires: nobody else will remove it. Main statement: if no
search was dropped so, all that is cached when everything is quiet was read after the last save or
refresh that returned.
-/

namespace CommitSearch.Service

variable {start s s' u : State} {since acts : List Act} {count n : Nat} {a : Act} {i id : Nat}
  {t : Task} {r : SearchRequest} {stage : SearchStage} {key : String} {store : Store}
  {entry : CacheEntry}

/-- No search is dropped that has yet to remove an outdated result. -/
def DropsNoRemoval (start : State) (acts : List Act) : Prop :=
  ∀ before id u r stage, Occurs start acts before (.drop id) u → u.Stands id (.search r stage) →
    ¬ Pending u r (.search r stage)

/-! ### What is cached -/

/-- An entry holds a page that the store gave for a request after the acts `since`. -/
def ReadEntry (start : State) (since acts : List Act) (entry : CacheEntry) : Prop :=
  ∃ r p, .call (.search r) ∈ acts ∧ entry.key = r.key ∧ entry.value = p.encode ∧
    Sourced start since acts r (.ok p)

/-- Somebody is about to remove what is cached under a key: a sweep, or a search of that key. -/
inductive Removing (n : Nat) (key : String) (s : State) : Prop
  | sweep {i : Nat} (stands : s.Stands i .sweep)
  | search {i : Nat} {r : SearchRequest} {stage : SearchStage} (stands : s.Stands i (.search r stage))
      (removes : stage.Removes n) (same : r.key = key)

/-- Every entry has the key of a request, and what it holds was read after the acts `since` or is about
to be removed. -/
def Cleared (start : State) (since acts : List Act) (n : Nat) (s : State) : Prop :=
  ∀ entry ∈ s.cache.entries, ReadEntry start since acts entry ∨
    ∃ r : SearchRequest, entry.key = r.key ∧ Removing n r.key s

theorem keyed_run (run : Run (fresh store) acts count s) :
    ∀ entry ∈ s.cache.entries, ∃ r : SearchRequest, entry.key = r.key := by
  induction run with
  | nothing => exact fun entry hm => nomatch hm
  | act run next ih =>
    intro entry hm
    rcases entry_of_step (lockFits_run run) (step_of_act next) hm with hold | ⟨i, r, g, p, -, -, hkey, -⟩
    · exact ih entry hold
    · exact ⟨r, hkey⟩

/-! ### One act -/

theorem sweep_step (m : Course start since acts s) (hstep : Step s a s')
    (faultless : a.isFaultless = true) (hs : s.Stands i .sweep) (r : SearchRequest) :
    s'.Stands i .sweep ∨ ∀ entry ∈ s'.cache.entries, entry.key ≠ r.key := by
  by_cases other : a.IsOf i
  · cases hstep with
    | call | wait => cases other
    | drop stands gives =>
      obtain rfl := other
      obtain rfl := hs.inj stands
      cases gives
    | go stands goes =>
      obtain rfl := other
      obtain rfl := hs.inj stands
      cases goes with
      | failSweep => cases faultless
      | sweep => exact .inr fun entry hm => not_mem_deletePattern_search r hm
  · obtain ⟨u, hu, hn⟩ := stands_of_step_other m.lock hstep other hs
    cases hn
    exact .inl hu

theorem pending_of_removes (removes : stage.Removes n) (past : ∀ g, Noted n g → g ≠ s.generation) :
    Pending s r (.search r stage) := by
  cases removes with
  | written noted => exact .written (past _ noted)
  | recheck noted => exact .recheck (past _ noted)
  | discard => exact .discard

/-- Who is about to remove a result goes on to do so. -/
theorem removing_step (m : Course start since acts s) (hstep : Step s a s')
    (faultless : a.isFaultless = true) (past : ∀ g, Noted n g → g ≠ s.generation)
    (harmless : ∀ i r stage, a = .drop i → s.Stands i (.search r stage) →
      ¬ Pending s r (.search r stage))
    (removing : Removing n r.key s) (hm : entry ∈ s'.cache.entries) (hk : entry.key = r.key) :
    Removing n r.key s' := by
  cases removing with
  | sweep stands =>
    rcases sweep_step m hstep faultless stands r with stands' | gone
    · exact .sweep stands'
    · exact absurd hk (gone entry hm)
  | @search i q stage stands removes same =>
    have kept : a ≠ .drop i := fun hdrop =>
      harmless i q stage hdrop stands (pending_of_removes removes past)
    rcases removes_step m hstep faultless kept past stands removes with
      ⟨stage', stands', removes'⟩ | gone
    · exact .search stands' removes' same
    · exact absurd (hk.trans same.symm) (gone entry hm)

theorem cleared_step (m : Course start since acts s) (hold : ∀ r, RecentHold start since acts n r s)
    (h : Cleared start since acts n s) (hstep : Step s a s') (faultless : a.isFaultless = true)
    (past : ∀ g, Noted n g → g ≠ s.generation)
    (harmless : ∀ i r stage, a = .drop i → s.Stands i (.search r stage) →
      ¬ Pending s r (.search r stage)) : Cleared start since (acts ++ [a]) n s' := by
  intro entry hm
  rcases entry_of_step m.lock hstep hm with hbefore | ⟨i, r, g, p, hs, hs', hkey, hvalue⟩
  · rcases h entry hbefore with ⟨r, p, hcall, hkey, hvalue, hsource⟩ | ⟨r, hkey, removing⟩
    · exact .inl ⟨r, p, List.mem_append_left _ hcall, hkey, hvalue, hsource.later m.reached _⟩
    · exact .inr ⟨r, hkey, removing_step m hstep faultless past harmless removing hm hkey⟩
  · -- Who writes what was read before is the one that is to remove it.
    by_cases noted : Noted n g
    · exact .inr ⟨r, hkey, .search hs' (.written noted) rfl⟩
    · have hsource : Sourced start since acts r (.ok p) := hold r i _ hs ⟨g, rfl, noted⟩
      exact .inl ⟨r, p, List.mem_append_left _ (m.known hs).1, hkey, hvalue,
        hsource.later m.reached _⟩

/-! ### Runs -/

/-- When a save or refresh returns, a sweep is to remove all that is cached. -/
theorem cleared_start (run : Run (fresh store) acts count s) (stands : u.Stands id t)
    (dirty : t.isDirty = true) (next : u.act (.step id none) = some s) (lock : LockFits u) :
    Cleared (fresh store) since acts n s := by
  intro entry hm
  obtain ⟨r, hkey⟩ := keyed_run run entry hm
  cases step_of_act next with
  | go stands' goes =>
    obtain rfl := stands.inj stands'
    obtain ⟨i, hi⟩ := stands_of_mem (sweep_goes lock stands' goes dirty)
    exact .inr ⟨r, hkey, .sweep hi⟩

theorem cleared_run (run : Run (fresh store) acts count s)
    (faultless : ∀ a ∈ acts, a.isFaultless = true) (few : count < 2 ^ 64)
    (harmless : DropsNoRemoval (fresh store) acts) (runWrite : Run (fresh store) since n u)
    (writes : u.Stands id t) (dirty : t.isDirty = true) (order : since ++ [.step id none] <+: acts) :
    Cleared (fresh store) since acts n s := by
  obtain ⟨x, k, hx, -⟩ := run.at_moment order
  have hnext := State.after_snoc runWrite.after_eq (.step id none)
  rw [hx.after_eq] at hnext
  refine run.onward (P := fun acts' y => Cleared (fresh store) since acts' n y) hx.after_eq order
    (cleared_start hx writes dirty hnext.symm (lockFits_run runWrite)) ?_
  intro acts' m y a y' hy hm hbefore hrest next h
  have hsince : since <+: acts' := (List.prefix_append since _).trans hbefore
  have hmoved : n < m := moved_after_write runWrite writes dirty hy hbefore
  refine cleared_step (course_of_run hy hsince) (fun r => recentHold_run hy runWrite hsince) h
    (step_of_act next) (faultless a (hrest.subset (List.mem_append_right _ List.mem_cons_self)))
    (past_run hy (by omega) hmoved) ?_
  rintro i r stage rfl stands
  exact harmless acts' i y r stage ⟨hrest, hy.after_eq⟩ stands

/-- Calls may be dropped: when all is quiet, what is cached was read after each save or refresh that
returned, unless a search was dropped that was to remove it. -/
theorem entries_fresh_despite_drops {early : List Act} {v : State} {w : Nat}
    (run : Run (fresh store) acts count s) (faultless : ∀ a ∈ acts, a.isFaultless = true)
    (few : count < 2 ^ 64) (harmless : DropsNoRemoval (fresh store) acts)
    (write : Occurs (fresh store) acts early (.step w none) v) (writes : v.Stands w t)
    (dirty : t.isDirty = true) (quiet : s.Quiet) (cached : entry ∈ s.cache.entries) :
    ∃ r p, .call (.search r) ∈ acts ∧ entry.key = r.key ∧ entry.value = p.encode ∧
      ReadSince (fresh store) early acts r (.ok p) := by
  obtain ⟨v', n, runWrite, -⟩ := run.at_moment ((List.prefix_append early _).trans write.order)
  obtain rfl := runWrite.eq_of_after write.reached
  have hcleared := cleared_run run faultless few harmless runWrite writes dirty write.order
  rcases hcleared entry cached with ⟨r, p, hcall, hkey, hvalue, hsource⟩ | ⟨r, -, removing⟩
  · cases hsource with
    | found read => exact ⟨r, p, hcall, hkey, hvalue, read⟩
  · cases removing with
    | sweep stands => cases quiet _ stands.mem
    | search stands => cases quiet _ stands.mem

/-! ### Searches that are dropped at their writes -/

/-- A save with its sweep, and a search that is dropped after its write into the cache. -/
def saveThenDrop : List Act := saveThenSearch.take 15 ++ [.drop 2]

theorem saveThenDrop_after :
    ∃ v u s p entry, (fresh (.memory oneCommit)).after (saveThenSearch.take 3) = some v ∧
      v.Stands 0 (.save .invalidate) ∧
      (fresh (.memory oneCommit)).after (saveThenSearch.take 15) = some u ∧ u.generation = 1 ∧
      u.Stands 2 (.search .all (.written 1 p)) ∧
      (fresh (.memory oneCommit)).after saveThenDrop = some s ∧ s.Quiet ∧ entry ∈ s.cache.entries := by
  refine ⟨_, _, _, (oneCommit.insert laterCommit).execute ⟨[], 20⟩, _, rfl, rfl, rfl, rfl, rfl, rfl, ?_,
    List.mem_cons_self⟩
  exact quiet_closeFlight (List.all_eq_true.1 (by rfl)) _ nudged_rejoinTask

/-- A page that was not outdated when its search was dropped stays. -/
theorem entries_fresh_despite_drops_saved :
    ∃ count s entry p, Run (fresh (.memory oneCommit)) saveThenDrop count s ∧ .drop 2 ∈ saveThenDrop ∧
      s.Quiet ∧ entry ∈ s.cache.entries ∧ entry.key = SearchRequest.all.key ∧
      entry.value = p.encode ∧
      ReadSince (fresh (.memory oneCommit)) (saveThenSearch.take 3) saveThenDrop .all (.ok p) := by
  obtain ⟨v, u, s, p, entry, hv, hsave, hu, hgeneration, hstands, hs, quiet, cached⟩ :=
    saveThenDrop_after
  obtain ⟨count, hle, run⟩ := run_of_after hs
  have faultless : ∀ a ∈ saveThenDrop, a.isFaultless = true := by
    simp [saveThenDrop, saveThenSearch, Act.isFaultless]
  have harmless : DropsNoRemoval (fresh (.memory oneCommit)) saveThenDrop := by
    intro before id v r stage occurs ht pending
    rcases occurs.cases_snoc with ⟨rfl, heq⟩ | hearlier
    · cases heq
      obtain rfl := Option.some.inj (hu.symm.trans occurs.reached)
      cases hstands.inj ht
      cases pending with
      | dirty hdirty => cases hdirty
      | written outdated => exact outdated hgeneration.symm
    · have hmem := hearlier.mem
      simp [saveThenSearch] at hmem
  have write : Occurs (fresh (.memory oneCommit)) saveThenDrop (saveThenSearch.take 3)
      (.step 0 none) v := ⟨⟨_, rfl⟩, hv⟩
  obtain ⟨r, q, hcall, hkey, hvalue, hread⟩ := entries_fresh_despite_drops run faultless
    (Nat.lt_of_le_of_lt hle (by decide)) harmless write hsave rfl quiet cached
  obtain rfl : r = .all := by simpa [saveThenDrop, saveThenSearch] using hcall
  exact ⟨count, s, entry, q, run, List.mem_append_right _ List.mem_cons_self, quiet, cached, hkey, hvalue,
    hread⟩

/-- A search that has just compared the generations when a commit is saved and the cache is swept, and
that is dropped after its write. -/
def searchDroppedOutdated : List Act :=
  .call (.search .all) :: List.replicate 8 (.step 0 none) ++
    [.call (.save laterCommit), .step 1 none, .step 1 none, .step 1 none, .step 2 none, .step 0 none,
      .drop 0]

theorem searchDroppedOutdated_after :
    ∃ v s entry, (fresh (.memory oneCommit)).after (searchDroppedOutdated.take 12) = some v ∧
      v.Stands 1 (.save .invalidate) ∧ v.store.commits.length = 2 ∧
      (fresh (.memory oneCommit)).after searchDroppedOutdated = some s ∧ s.Quiet ∧
      s.store.commits.length = 2 ∧ entry ∈ s.cache.entries ∧
      entry.key = SearchRequest.all.key ∧ entry.value = onePage.encode := by
  refine ⟨_, _, _, rfl, rfl, rfl, rfl, ?_, rfl, List.mem_cons_self, rfl, rfl⟩
  exact quiet_closeFlight (List.all_eq_true.1 (by rfl)) _ nudged_rejoinTask

/-- A dropped search leaves a page that was read before the last save, though all is quiet. -/
theorem outdated_entry_of_dropped_search :
    ∃ count v s entry, Run (fresh (.memory oneCommit)) searchDroppedOutdated count s ∧ count < 2 ^ 64 ∧
      (∀ a ∈ searchDroppedOutdated, a.isFaultless = true) ∧
      Occurs (fresh (.memory oneCommit)) searchDroppedOutdated (searchDroppedOutdated.take 12)
        (.step 1 none) v ∧ v.Stands 1 (.save .invalidate) ∧ s.Quiet ∧ entry ∈ s.cache.entries ∧
      entry.key = SearchRequest.all.key ∧ Page.decode entry.value = .ok onePage ∧
      ∀ p, entry.value = p.encode → ¬ ReadSince (fresh (.memory oneCommit))
        (searchDroppedOutdated.take 12) searchDroppedOutdated .all (.ok p) := by
  obtain ⟨v, s, entry, hv, hsave, htwo, hs, quiet, hstore, cached, key, hvalue⟩ :=
    searchDroppedOutdated_after
  obtain ⟨count, hle, run⟩ := run_of_after hs
  have hdecode : Page.decode entry.value = .ok onePage := by
    rw [hvalue]
    exact decode_encode isStorable_onePage
  have saves : SavesStorable searchDroppedOutdated := by
    intro d hd
    obtain rfl : d = laterCommit := by simpa [searchDroppedOutdated] using hd
    exact laterCommit_storable
  have storable := storable_run run oneCommit_dates saves (by rw [hstore]; decide)
  refine ⟨count, v, s, entry, run, Nat.lt_of_le_of_lt hle (by decide), ?_, ⟨⟨_, rfl⟩, hv⟩, hsave, quiet,
    cached, key, hdecode, fun p hp hread => ?_⟩
  · simp [searchDroppedOutdated, Act.isFaultless]
  · have hsame : p = onePage := by
      obtain ⟨early, late, x, y, -, -, hlate, -, hy, hanswer⟩ := hread
      have hstorable := isStorable_of_searchAcross (storable late y hlate hy) hanswer.symm
      rw [hp, decode_encode hstorable] at hdecode
      exact Except.ok.inj hdecode
    rw [hsame] at hread
    exact not_readSince_onePage Store.noConfusion hv (by rw [htwo]) hread

end CommitSearch.Service
