import CommitSearch.Proofs.Service.Progress
import CommitSearch.Proofs.Service.Provenance

/-!
# Searches after a sweep

A save or refresh moves the generation on when the store includes it, and a sweep then empties the
cache of results. What was read before can still come to a search that is called after the sweep: from
a leader that led already when the cache was swept, which may yet write its page and which hands its
outcome to all who join its flight. When none of these leaders is left, all that leaders and the cache
hold was read after the save or refresh, and so is what the search returns. It need not be the answer of
the store at one moment, as a refresh can come between the two looks that a search takes at the store.
-/

namespace CommitSearch.Service

variable {start s s' u : State} {since acts before : List Act} {count n : Nat} {a : Act} {i j id : Nat}
  {t t' : Task} {e : Effect} {r : SearchRequest} {stage stage' : SearchStage}
  {fault : Option Error} {p : Page} {store : Store} {old : Nat → Prop}

/-- The generation that a search has noted and not compared for the last time. -/
def SearchStage.generation : SearchStage → Option UInt64
  | .resolve g | .execute g _ | .executed g _ | .compare g _ | .write g _ | .written g _
  | .recheck g _ => some g
  | _ => none

/-- A search that noted a generation after the first `n` moves. -/
def SearchStage.IsRecent (n : Nat) (stage : SearchStage) : Prop :=
  ∃ g, stage.generation = some g ∧ ¬ Noted n g

theorem Noted.outdated {m : Nat} {g : UInt64} (h : Noted n g) (hlt : n < m) (few : m < 2 ^ 64) :
    g ≠ UInt64.ofNat m := by
  obtain ⟨k, rfl⟩ : ∃ k, m = k + 1 := ⟨m - 1, by omega⟩
  exact (h.mono (by omega)).ne_later few

/-! ### From the write to the sweep -/

/-- Who noted the generation after the write holds what was read after it. -/
def RecentHold (start : State) (since acts : List Act) (n : Nat) (r : SearchRequest) (s : State) :
    Prop :=
  ∀ i stage, s.Stands i (.search r stage) → stage.IsRecent n → stage.Holds start since acts r

/-- A search that has noted a generation did so before its step, or notes it in this step. -/
theorem generation_of_goes {g : UInt64} (goes : Goes s i fault (.search r stage) (.search r stage') e)
    (hg : stage'.generation = some g) :
    stage.generation = some g ∨ stage = .note ∧ g = s.generation := by
  have hplanned : ∀ {g' words}, (State.planned g' r words).generation = some g → g' = g := by
    intro g' words h
    unfold State.planned at h
    split at h <;> cases h
    rfl
  generalize htask : Task.search r stage' = t' at goes
  cases goes with
  | noteBlank =>
    rw [(Task.search.inj htask).2] at hg
    exact .inr ⟨rfl, (hplanned hg).symm⟩
  | note =>
    cases htask
    exact .inr ⟨rfl, (Option.some.inj hg).symm⟩
  | resolve =>
    rw [(Task.search.inj htask).2] at hg
    exact .inl (congrArg some (hplanned hg))
  | execute | executed | fill | write | written =>
    cases htask
    exact .inl hg
  | _ => cases htask <;> cases hg

/-- What a search has noted is a generation that there was. -/
theorem noted_run {g : UInt64} (run : Run (fresh store) acts count s)
    (hs : s.Stands i (.search r stage)) (hg : stage.generation = some g) : Noted count g := by
  induction run generalizing stage with
  | nothing => exact absurd hs (not_stands_fresh store)
  | @act acts count s s' a run next ih =>
    have hle : count ≤ count + s.invalidations a := by omega
    have hstep := step_of_act next
    cases searchFrom_of_step (lockFits_run run) hstep hs with
    | called | answered | rejoins => cases hg
    | stayed stands => exact (ih stands hg).mono hle
    | moved stands goes =>
      obtain ⟨stage', rfl⟩ := same_request (.moved stands goes) stands
      rcases generation_of_goes goes hg with hbefore | ⟨-, rfl⟩
      · exact (ih stands hbefore).mono hle
      · exact ⟨count, hle, generation_run run⟩

theorem recentHold_step (m : Course start since acts s) (h : RecentHold start since acts n r s)
    (hstep : Step s a s') : RecentHold start since (acts ++ [a]) n r s' := by
  intro i stage hs recent
  obtain ⟨g, hg, hnew⟩ := recent
  cases searchFrom_of_step m.lock hstep hs with
  | called | answered | rejoins => cases hg
  | stayed stands => exact (h i _ stands ⟨g, hg, hnew⟩).later m.reached _
  | @moved t fault stage e stands goes =>
    obtain ⟨stage', rfl⟩ := same_request (searchFrom_of_step m.lock hstep hs) stands
    refine holds_goes m.reached m.order (m.known stands).2 stands goes ?_ ?_
    · rintro p - - rfl
      cases hg
    · rcases generation_of_goes goes hg with hbefore | ⟨rfl, -⟩
      · exact h i _ stands ⟨g, hbefore, hnew⟩
      · trivial

/-! ### From the sweep to the call -/

/-- A search that wrote a page under a generation that is over, or that is to delete it. -/
inductive SearchStage.Removes (n : Nat) : SearchStage → Prop
  | written {g : UInt64} {p : Page} (noted : Noted n g) : Removes n (.written g p)
  | recheck {g : UInt64} {p : Page} (noted : Noted n g) : Removes n (.recheck g p)
  | discard {p : Page} : Removes n (.discard p)

/-- After the sweep, leaders hold what was read after the write, but for old ones; and so does the
cache, unless an old leader is about to remove the result. -/
structure Swept (start : State) (since acts : List Act) (n : Nat) (old : Nat → Prop)
    (r : SearchRequest) (s : State) : Prop where
  held : ∀ {i stage}, s.Stands i (.search r stage) → stage.leads = true →
    ¬ old i ∨ stage.IsRecent n → stage.Holds start since acts r
  stocked : Stocked start since acts r s ∨
    ∃ i stage, old i ∧ s.Stands i (.search r stage) ∧ stage.Removes n

theorem SearchStage.Removes.leads (h : stage.Removes n) : stage.leads = true := by
  cases h <;> rfl

/-- What a leader finds in the cache that is not an old one: no old one is about to remove it, since
there is one leader at a time. -/
theorem Swept.sourced (m : Moment start since acts r s) (h : Swept start since acts n old r s)
    (leader : s.Leads i r.key) (new : ¬ old i) (cached : s.cached r = some p) :
    Sourced start since acts r (.ok p) := by
  rcases h.stocked with stocked | ⟨j, stage, hold, hs, removes⟩
  · exact stocked.sourced m.storable cached
  · have hleads : s.Leads j r.key := ⟨r, stage, hs, removes.leads, rfl⟩
    obtain rfl := (m.flights r.key).unique hleads leader
    exact absurd hold new

theorem swept_held_step (m : Moment start since acts r s) (h : Swept start since acts n old r s)
    (hstep : Step s a s') (hs : s'.Stands i (.search r stage)) (leads : stage.leads = true)
    (trusted : ¬ old i ∨ stage.IsRecent n) : stage.Holds start since (acts ++ [a]) r := by
  cases searchFrom_of_step m.lock hstep hs with
  | called | answered | rejoins => cases leads
  | stayed stands => exact (h.held stands leads trusted).later m.reached _
  | @moved t fault stage e stands goes =>
    obtain ⟨stage', rfl⟩ := same_request (searchFrom_of_step m.lock hstep hs) stands
    have hleads : stage'.leads = true ∨ stage' = .join := by
      rcases leads_from (.moved stands goes) leads with ⟨stage₂, hs₂, leads₂⟩ | ⟨hjoin, -, -⟩
      · cases stands.inj hs₂
        exact .inl leads₂
      · cases stands.inj hjoin
        exact .inr rfl
    refine holds_goes m.reached m.order (m.known stands).2 stands goes ?_ ?_
    · rintro p rfl cached rfl
      rcases trusted with new | ⟨g, hg, -⟩
      · exact h.sourced m ⟨r, _, stands, rfl, rfl⟩ new cached
      · cases hg
    · rcases hleads with leads' | rfl
      · rcases trusted with new | ⟨g, hg, hnew⟩
        · exact h.held stands leads' (.inl new)
        · rcases generation_of_goes goes hg with hbefore | ⟨rfl, -⟩
          · exact h.held stands leads' (.inr ⟨g, hbefore, hnew⟩)
          · trivial
      · trivial

/-- A search that is about to remove the result goes on to do so, unless it is dropped. -/
theorem removes_step (m : Course start since acts s) (hstep : Step s a s')
    (faultless : a.isFaultless = true) (kept : a ≠ .drop i)
    (past : ∀ g, Noted n g → g ≠ s.generation) (hs : s.Stands i (.search r stage))
    (removes : stage.Removes n) :
    (∃ stage', s'.Stands i (.search r stage') ∧ stage'.Removes n) ∨
      ∀ entry ∈ s'.cache.entries, entry.key ≠ r.key := by
  by_cases other : a.IsOf i
  · cases hstep with
    | call | wait => cases other
    | drop =>
      obtain rfl := other
      exact absurd rfl kept
    | @go id fault t t' e stands goes =>
      obtain rfl := other
      obtain rfl := hs.inj stands
      have hself := stands_goes_self m.lock stands goes
      cases removes with
      | written noted =>
        cases goes with
        | failWritten => cases faultless
        | written => exact .inl ⟨_, hself, .recheck noted⟩
      | recheck noted =>
        cases goes with
        | keep current => exact absurd current.symm (past _ noted)
        | reject => exact .inl ⟨_, hself, .discard⟩
      | discard =>
        cases goes with
        | failDiscard => cases faultless
        | discard => exact .inr fun entry hm => not_mem_deletePattern_key r hm
  · have hmoves : stage ≠ .waiting := by
      rintro rfl
      cases removes
    exact .inl ⟨stage, search_stays m.lock hstep other hs hmoves, removes⟩

theorem swept_stocked_step (m : Moment start since acts r s) (h : Swept start since acts n old r s)
    (hstep : Step s a s') (calm : a.isCalm = true) (past : ∀ g, Noted n g → g ≠ s.generation) :
    Stocked start since (acts ++ [a]) r s' ∨
      ∃ i stage, old i ∧ s'.Stands i (.search r stage) ∧ stage.Removes n := by
  rcases h.stocked with stocked | ⟨i, stage, hold, hs, removes⟩
  · by_cases hwrites : ∃ i g p, old i ∧ Noted n g ∧ s'.Stands i (.search r (.written g p))
    · obtain ⟨i, g, p, hold, noted, hs⟩ := hwrites
      exact .inr ⟨i, _, hold, hs, .written noted⟩
    · -- Whoever writes in this act holds what was read after the write.
      refine .inl fun entry hm hk => ?_
      rcases entry_of_step m.lock hstep hm with hbefore | ⟨i, q, g, p, stands, hs, hkey, hvalue⟩
      · exact stocked.later m.reached _ entry hbefore hk
      · obtain rfl := m.eq_of_key stands (hkey.symm.trans hk)
        have htrusted : ¬ old i ∨ (SearchStage.write g p).IsRecent n := by
          by_cases hold : old i
          · exact .inr ⟨g, rfl, fun noted => hwrites ⟨i, g, p, hold, noted, hs⟩⟩
          · exact .inl hold
        have hsource : Sourced start since acts q (.ok p) := h.held stands rfl htrusted
        exact ⟨p, hvalue, hsource.later m.reached _⟩
  · have hcalm : a.isFaultless = true ∧ a ≠ .drop i := by
      cases hstep with
      | call | wait => exact ⟨rfl, nofun⟩
      | drop => cases calm
      | @go id fault =>
        cases fault with
        | none => exact ⟨rfl, nofun⟩
        | some e => cases calm
    rcases removes_step m.toCourse hstep hcalm.1 hcalm.2 past hs removes with
      ⟨stage', hs', removes'⟩ | gone
    · exact .inr ⟨i, stage', hold, hs', removes'⟩
    · exact .inl fun entry hm hk => absurd hk (gone entry hm)

theorem swept_step (m : Moment start since acts r s) (h : Swept start since acts n old r s)
    (hstep : Step s a s') (calm : a.isCalm = true) (past : ∀ g, Noted n g → g ≠ s.generation) :
    Swept start since (acts ++ [a]) n old r s' :=
  ⟨swept_held_step m h hstep, swept_stocked_step m h hstep calm past⟩

/-- The sweep itself leaves nothing in the cache, and the leaders that it finds are the old ones. -/
theorem swept_start (m : Moment start since acts r s) (h : RecentHold start since acts n r s)
    (stands : s.Stands id .sweep) (next : s.act (.step id none) = some s') :
    Swept start since (acts ++ [.step id none]) n (fun i => s.Leads i r.key) r s' := by
  cases step_of_act next with
  | go stands' goes =>
    obtain rfl := stands.inj stands'
    have hstep := Step.go stands goes
    constructor
    · intro i stage hs leads trusted
      cases searchFrom_of_step m.lock hstep hs with
      | answered => cases leads
      | stayed stays =>
        rcases trusted with new | recent
        · exact absurd ⟨r, stage, stays, leads, rfl⟩ new
        · exact (h i _ stays recent).later m.reached _
      | moved moves goes' =>
        obtain rfl := stands.inj moves
        cases goes'
    · cases goes
      exact .inl fun entry hm hk => absurd hk (not_mem_deletePattern_search r hm)

/-! ### Runs -/

/-- At the write itself, what is noted was noted before the generation moved. -/
theorem recentHold_start (run : Run (fresh store) before n u) :
    RecentHold (fresh store) before before n r u := by
  intro i stage hs recent
  obtain ⟨g, hg, hnew⟩ := recent
  exact absurd (noted_run run hs hg) hnew

theorem recentHold_run (run : Run (fresh store) acts count s) (runWrite : Run (fresh store) before n u)
    (order : before <+: acts) : RecentHold (fresh store) before acts n r s := by
  refine run.onward (P := fun acts' x => RecentHold (fresh store) before acts' n r x)
    runWrite.after_eq order (recentHold_start runWrite) ?_
  intro acts' m x a x' hx _ hbefore _ next h
  exact recentHold_step (course_of_run hx hbefore) h (step_of_act next)

/-- A save or refresh moves the generation when it returns. -/
theorem moved_after_write {acts' : List Act} {m : Nat} {id : Nat} (run : Run start before n u)
    (writes : u.Stands id t) (dirty : t.isDirty = true) (run' : Run start acts' m s)
    (order : before ++ [.step id none] <+: acts') : n < m := by
  obtain ⟨x, l, hx, hl⟩ := run'.at_moment order
  have hone : u.invalidations (.step id none) = 1 := by
    rw [State.invalidations, show u.tasks[id]? = some t from writes, Option.any_some, if_pos dirty]
  have hact := State.after_snoc run.after_eq (.step id none)
  rw [hx.after_eq] at hact
  have hcount := hx.count_eq (run.act hact.symm)
  omega

theorem past_run (run : Run (fresh store) acts count s) (few : count < 2 ^ 64) (moved : n < count)
    (g : UInt64) (noted : Noted n g) : g ≠ s.generation := by
  rw [generation_run run]
  exact noted.outdated moved few

theorem swept_run (run : Run (fresh store) acts count s) (calm : ∀ a ∈ acts, a.isCalm = true)
    (few : count < 2 ^ 64) (alone : Alone acts r) (storable : Storable (fresh store) acts)
    (reached : (fresh store).after before = some u) (order : before <+: acts)
    (earlier : since <+: before)
    (moved : ∀ {m x}, Run (fresh store) before m x → n < m)
    (base : Swept (fresh store) since before n old r u) :
    Swept (fresh store) since acts n old r s := by
  refine run.onward (P := fun acts' x => Swept (fresh store) since acts' n old r x)
    reached order base ?_
  intro acts' m x a x' hx hm hbefore hrest next h
  have hwithin : acts' <+: acts := (List.prefix_append acts' [a]).trans hrest
  obtain ⟨y, k, hy, hk⟩ := hx.at_moment hbefore
  have hpast := past_run hx (by omega) (Nat.lt_of_lt_of_le (moved hy) hk)
  have hcalm : a.isCalm = true := calm a (hrest.subset (List.mem_append_right _ List.mem_cons_self))
  have m := moment_of_run hx hwithin (earlier.trans hbefore) alone storable
  exact swept_step m h (step_of_act next) hcalm hpast

/-- When no old leader is left, all that is held was read after the write. -/
theorem provided_of_swept (run : Run (fresh store) acts count s)
    (h : Swept (fresh store) since acts n old r s) (unled : ∀ i, old i → ¬ s.Leads i r.key) :
    Provided (fresh store) since acts s.tasks.length r s := by
  constructor
  · intro i stage hs covered
    rcases covered with leads | hlast
    · refine h.held hs leads (.inl fun hold => ?_)
      exact unled i hold ⟨r, stage, hs, leads, rfl⟩
    · have hlt : i < s.tasks.length := (List.getElem?_eq_some_iff.1 hs).1
      omega
  · rcases h.stocked with stocked | ⟨i, stage, hold, hs, removes⟩
    · exact stocked
    · exact absurd ⟨r, stage, hs, removes.leads, rfl⟩ (unled i hold)
  · intro i hlast hcall
    obtain ⟨-, t, ht⟩ := place_of_call run (lockFits_fresh store) hcall
    have hlt : i < s.tasks.length := (List.getElem?_eq_some_iff.1 ht).1
    omega

/-- A search that is called after a write has returned and the cache was swept returns what the store
gave after the write, if none who led a search of its key at the sweep does so still. Its words and its
commits are those of two moments after the write, which need not be one. -/
theorem answers_after_sweep {contents : Contents} {early middle late : List Act} {v u c : State}
    {w k : Nat} {answer : Except Error Answer}
    (run : Run (fresh (.memory contents)) acts count s) (calm : ∀ a ∈ acts, a.isCalm = true)
    (few : count < 2 ^ 64) (dates : ∀ c ∈ contents.commits, c.date.IsStorable)
    (saves : SavesStorable acts) (room : s.store.commits.length < 2 ^ 64) (alone : Alone acts r)
    (write : Occurs (fresh (.memory contents)) acts early (.step w none) v) (writes : v.Stands w t)
    (dirty : t.isDirty = true)
    (sweep : Occurs (fresh (.memory contents)) acts middle (.step k none) u)
    (sweeps : u.Stands k .sweep) (returned : early ++ [.step w none] <+: middle)
    (call : Occurs (fresh (.memory contents)) acts late (.call (.search r)) c)
    (finished : middle ++ [.step k none] <+: late)
    (unled : ∀ i, u.Leads i r.key → ¬ c.Leads i r.key)
    (ended : s.Stands c.tasks.length (.ended answer)) :
    ∃ outcome, answer = outcome.map Answer.page ∧
      ReadSince (fresh (.memory contents)) early acts r outcome := by
  have storable := storable_run run dates saves room
  have hearlier : early <+: middle := (List.prefix_append early _).trans returned
  have hsweep : middle <+: late := (List.prefix_append middle _).trans finished
  have hlate : late <+: acts := (List.prefix_append late _).trans call.order
  obtain ⟨c', m₃, runLate, hm₃⟩ := run.at_moment hlate
  obtain rfl := runLate.eq_of_after call.reached
  obtain ⟨u', m₂, runMiddle, hm₂⟩ := runLate.at_moment hsweep
  obtain rfl := runMiddle.eq_of_after sweep.reached
  obtain ⟨v', n, runEarly, hn⟩ := runMiddle.at_moment hearlier
  obtain rfl := runEarly.eq_of_after write.reached
  have hmiddle : middle <+: acts := hsweep.trans hlate
  have hwithin : early <+: acts := hearlier.trans hmiddle
  have hmoved : ∀ {m x}, Run (fresh (.memory contents)) (middle ++ [.step k none]) m x → n < m :=
    fun hx => moved_after_write runEarly writes dirty hx
      (returned.trans (List.prefix_append middle _))
  have hheld := recentHold_run (r := r) runMiddle runEarly hearlier
  obtain ⟨x, m₁, runSwept, -⟩ := runLate.at_moment finished
  have hnext := State.after_snoc sweep.reached (.step k none)
  rw [runSwept.after_eq] at hnext
  have hswept := swept_start (moment_of_run runMiddle hmiddle hearlier alone storable) hheld sweeps
    hnext.symm
  have hcall := swept_run runLate (fun a ha => calm a (hlate.subset ha)) (by omega)
    (alone.within hlate) (storable.within hlate) runSwept.after_eq finished
    (hearlier.trans (List.prefix_append middle _)) hmoved hswept
  have hprovided := provided_onward run alone storable call.reached hlate (hearlier.trans hsweep)
    (provided_of_swept runLate hcall unled)
  rcases hprovided.served (Nat.le_refl _) ⟨late, c', call, rfl⟩ with
    ⟨stage, hs⟩ | hdropped | ⟨outcome, hended, hsource⟩
  · cases hs.inj ended
  · cases hdropped.inj ended
  · refine ⟨outcome, Task.ended.inj (ended.inj hended), ?_⟩
    cases hsource with
    | found read => exact read
    | refused read => exact read ⟨Store.noConfusion, calm⟩

/-! ### A save, and searches before and after it -/

/-- A save with its sweep, and a search after them. -/
def saveThenSearch : List Act :=
  [.call (.save laterCommit), .step 0 none, .step 0 none, .step 0 none, .step 1 none,
    .call (.search .all)] ++ List.replicate 12 (.step 2 none)

theorem saveThenSearch_after :
    ∃ v u c s p, (fresh (.memory oneCommit)).after (saveThenSearch.take 3) = some v ∧
      v.Stands 0 (.save .invalidate) ∧
      (fresh (.memory oneCommit)).after (saveThenSearch.take 4) = some u ∧
      u.tasks = [.ended (.ok .done), .sweep] ∧
      (fresh (.memory oneCommit)).after (saveThenSearch.take 5) = some c ∧ c.tasks.length = 2 ∧
      (fresh (.memory oneCommit)).after saveThenSearch = some s ∧
      s.store = .memory (oneCommit.insert laterCommit) ∧ s.Stands 2 (.ended (.ok (.page p))) := by
  refine ⟨_, _, _, _, (oneCommit.insert laterCommit).execute ⟨[], 20⟩, rfl, rfl, rfl, rfl, rfl, rfl,
    rfl, rfl, ?_⟩
  refine (stands_closeFlight _ _ _ _ _).2 ⟨_, rfl, ?_⟩
  split <;> rfl

theorem answers_after_sweep_saved :
    ∃ count s p, Run (fresh (.memory oneCommit)) saveThenSearch count s ∧
      s.Stands 2 (.ended (.ok (.page p))) ∧
      ReadSince (fresh (.memory oneCommit)) (saveThenSearch.take 3) saveThenSearch .all (.ok p) := by
  obtain ⟨v, u, c, s, p, hv, hsave, hu, htasks, hc, hlast, hs, hstore, hended⟩ := saveThenSearch_after
  obtain ⟨count, hle, run⟩ := run_of_after hs
  have calm : ∀ a ∈ saveThenSearch, a.isCalm = true := by
    simp [saveThenSearch, Act.isCalm]
  have saves : SavesStorable saveThenSearch := by
    intro d hd
    obtain rfl : d = laterCommit := by simpa [saveThenSearch] using hd
    exact laterCommit_storable
  have alone : Alone saveThenSearch .all := by
    rintro q hq -
    simpa [saveThenSearch] using hq
  have write : Occurs (fresh (.memory oneCommit)) saveThenSearch (saveThenSearch.take 3)
      (.step 0 none) v := ⟨⟨_, rfl⟩, hv⟩
  have sweep : Occurs (fresh (.memory oneCommit)) saveThenSearch (saveThenSearch.take 4)
      (.step 1 none) u := ⟨⟨_, rfl⟩, hu⟩
  have call : Occurs (fresh (.memory oneCommit)) saveThenSearch (saveThenSearch.take 5)
      (.call (.search .all)) c := ⟨⟨_, rfl⟩, hc⟩
  have sweeps : u.Stands 1 .sweep := by rw [State.Stands, htasks]; rfl
  have unled : ∀ i, u.Leads i SearchRequest.all.key → ¬ c.Leads i SearchRequest.all.key := by
    rintro i ⟨q, stage, hq, -⟩
    have hmem := hq.mem
    rw [htasks] at hmem
    simp at hmem
  obtain ⟨outcome, houtcome, hread⟩ := answers_after_sweep run calm
    (Nat.lt_of_le_of_lt hle (by decide)) oneCommit_dates saves (by rw [hstore]; decide) alone write
    hsave rfl sweep sweeps ⟨[], rfl⟩ call ⟨[], rfl⟩ unled (by rw [hlast]; exact hended)
  cases outcome with
  | error e => cases houtcome
  | ok q =>
    cases houtcome
    exact ⟨count, s, p, run, hended, hread⟩

/-- What a store with one commit answers was not read after the store had two. -/
theorem not_readSince_onePage (connected : start.store ≠ .disconnected)
    (reached : start.after before = some u) (two : 2 ≤ u.store.commits.length) :
    ¬ ReadSince start before acts .all (.ok onePage) := by
  rintro ⟨early, late, x, y, hearly, hlate, -, hx, hy, hanswer⟩
  obtain ⟨n, -, runLate⟩ := run_of_after hy
  have hmore := commits_le_run runLate (hearly.trans hlate) reached
  cases hknown : x.store with
  | disconnected => exact absurd hknown (connected_after connected hx)
  | memory known =>
    cases hstored : y.store with
    | disconnected => exact absurd hstored (connected_after connected hy)
    | memory stored =>
      rw [hknown, hstored] at hanswer
      have hone := commits_of_onePage known hanswer.symm
      rw [hstored] at hmore
      change u.store.commits.length ≤ stored.commits.length at hmore
      omega

/-- A search that has read the store when a commit is saved and the cache is swept, and one that is
called after that and joins its flight. -/
def joinsAfterSweep : List Act :=
  .call (.search .all) :: List.replicate 6 (.step 0 none) ++
    [.call (.save laterCommit), .step 1 none, .step 1 none, .step 1 none, .step 2 none,
      .call (.search .all), .step 3 none, .step 3 none] ++
    [.step 3 none, .step 0 none, .step 0 none, .step 0 none, .step 3 none]

/-- The service with the save done and one flight, led by the first task. -/
def flightAfterSave (waiters : List Nat) (leader joining : SearchStage) : State :=
  ⟨.memory (oneCommit.insert laterCommit), .empty, 0, 1, [⟨SearchRequest.all.key, waiters⟩], ⟨none, []⟩,
    [.search .all leader, .ended (.ok .done), .ended (.ok .done), .search .all joining]⟩

theorem join_after_save (leader : SearchStage) :
    (flightAfterSave [] leader .join).act (.step 3 none) =
      some (flightAfterSave [3] leader .waiting) := by
  have htaken : (flightAfterSave [] leader .join).flights.has SearchRequest.all.key = true := by
    simp [flightAfterSave, Flights.has]
  have hjoins : (flightAfterSave [] leader .join).flights.wait SearchRequest.all.key 3 =
      [⟨SearchRequest.all.key, [3]⟩] := by
    simp [flightAfterSave, Flights.wait]
  have hstands : (flightAfterSave [] leader .join).tasks[3]? = some (.search .all .join) := rfl
  simp only [State.act, State.step, hstands, State.stepSearch, htaken, if_true, hjoins]
  rfl

/-- The leader hands its page to the one that joined, which returns it. -/
theorem land_after_save :
    ∃ s, (flightAfterSave [3] (.land (.ok onePage)) .waiting).after [.step 0 none, .step 3 none] =
      some s ∧ s.Stands 3 (.ended (.ok (.page onePage))) := by
  have hwaiting : Flights.waiting [⟨SearchRequest.all.key, [3]⟩] SearchRequest.all.key = [3] := by
    simp [Flights.waiting]
  obtain ⟨x, hx⟩ : ∃ x, (flightAfterSave [3] (.land (.ok onePage)) .waiting).act (.step 0 none) =
      some x ∧ x.Stands 3 (.search .all (.answered (.ok onePage))) := by
    refine ⟨_, rfl, (stands_closeFlight _ _ _ _ _).2 ⟨.search .all .waiting, rfl, ?_⟩⟩
    show _ = if (Flights.waiting [⟨SearchRequest.all.key, [3]⟩] SearchRequest.all.key).contains 3
      then _ else _
    rw [hwaiting]
    rfl
  have hends : x.act (.step 3 none) = some (x.place 3 (.ended (.ok (.page onePage)))) := by
    rw [State.act, State.step, show x.tasks[3]? = _ from hx.2]
    rfl
  refine ⟨_, ?_, (stands_place hx.2 _ _ _).2 (.inl ⟨rfl, rfl⟩)⟩
  simp only [State.after, hx.1, hends, Option.bind_some]

/-- A search that is called after a save has returned and the cache was swept returns a page that was
read before: one that leads its key did so already before the save. -/
theorem joins_outdated_search :
    ∃ count v u c s, Run (fresh (.memory oneCommit)) joinsAfterSweep count s ∧
      (∀ a ∈ joinsAfterSweep, a.isCalm = true) ∧
      Occurs (fresh (.memory oneCommit)) joinsAfterSweep (joinsAfterSweep.take 10) (.step 1 none) v ∧
      v.Stands 1 (.save .invalidate) ∧
      Occurs (fresh (.memory oneCommit)) joinsAfterSweep (joinsAfterSweep.take 11) (.step 2 none) u ∧
      u.Stands 2 .sweep ∧
      Occurs (fresh (.memory oneCommit)) joinsAfterSweep (joinsAfterSweep.take 12)
        (.call (.search .all)) c ∧ c.tasks.length = 3 ∧
      s.Stands 3 (.ended (.ok (.page onePage))) ∧
      ¬ ReadSince (fresh (.memory oneCommit)) (joinsAfterSweep.take 10) joinsAfterSweep .all
        (.ok onePage) := by
  have hcomes : (fresh (.memory oneCommit)).after (joinsAfterSweep.take 15) =
      some (flightAfterSave [] (.executed 0 onePage) .join) := rfl
  have hskips : (flightAfterSave [3] (.executed 0 onePage) .waiting).after
      [.step 0 none, .step 0 none] = some (flightAfterSave [3] (.land (.ok onePage)) .waiting) := rfl
  obtain ⟨s, hlands, hended⟩ := land_after_save
  have hs : (fresh (.memory oneCommit)).after joinsAfterSweep = some s := by
    have hparts : joinsAfterSweep = joinsAfterSweep.take 15 ++ ([.step 3 none] ++
        ([.step 0 none, .step 0 none] ++ [.step 0 none, .step 3 none])) := rfl
    rw [hparts, State.after_append, hcomes, Option.bind_some, State.after_append, State.after,
      join_after_save, Option.bind_some, State.after, Option.bind_some, State.after_append, hskips,
      Option.bind_some, hlands]
  obtain ⟨count, -, run⟩ := run_of_after hs
  obtain ⟨v, hv, hsave, hcommits⟩ : ∃ v, (fresh (.memory oneCommit)).after (joinsAfterSweep.take 10) =
      some v ∧ v.Stands 1 (.save .invalidate) ∧ v.store.commits.length = 2 := ⟨_, rfl, rfl, rfl⟩
  refine ⟨count, v, _, _, s, run, ?_, ⟨⟨_, rfl⟩, hv⟩, hsave, ⟨⟨_, rfl⟩, rfl⟩, rfl, ⟨⟨_, rfl⟩, rfl⟩, rfl,
    hended, ?_⟩
  · simp [joinsAfterSweep, Act.isCalm]
  · exact not_readSince_onePage Store.noConfusion hv (by rw [hcommits])

/-! ### A refresh within a search -/

def wordCommit (second : Int) (hash word : String) : Commit :=
  ⟨.ofSeconds second, hash, "fix", "", word, "r", "p", false, false⟩

/-- Contents of two commits, of which the first was there at the last refresh. -/
def oneKnown : Contents :=
  (Contents.empty.insert (wordCommit 1 "a1" "abc")).refresh.insert (wordCommit 2 "b2" "abcd")

def wordSearch : SearchRequest := { SearchRequest.all with query := "abc" }

/-- A save with its sweep, and a search after them up to its first look at the store. -/
def searchUntilLook : List Act :=
  [.call (.save (wordCommit 3 "c3" "abcd")), .step 0 none, .step 0 none, .step 0 none, .step 1 none,
    .call (.search wordSearch)] ++ List.replicate 5 (.step 2 none)

/-- A refresh and a save, and the search from its second look on. -/
def searchAfterRefresh : List Act :=
  .call .refresh :: List.replicate 4 (.step 3 none) ++
    [.call (.save (wordCommit 4 "d4" "abc")), .step 5 none, .step 5 none] ++
    List.replicate 3 (.step 2 none)

def refreshWithinSearch : List Act :=
  searchUntilLook ++ .step 2 none :: (searchAfterRefresh ++ [.step 2 none])

def contentsWithinSearch : List Contents :=
  let saved := oneKnown.insert (wordCommit 3 "c3" "abcd")
  [oneKnown, saved, saved.refresh, saved.refresh.insert (wordCommit 4 "d4" "abc")]

theorem contents_refreshWithinSearch : ∀ n ≤ refreshWithinSearch.length,
    ((fresh (.memory oneKnown)).after (refreshWithinSearch.take n)).map State.store ∈
      contentsWithinSearch.map (some ∘ Store.memory) := by
  decide +kernel

/-- At no moment are there two commits for the word. -/
theorem total_wordSearch : ∀ contents ∈ contentsWithinSearch,
    ((Store.memory contents).search wordSearch).map Page.total ≠ .ok 2 := by
  simp only [map_total_search]
  decide +kernel

/-- The service with the save done, where the search looks at the store. -/
def lookingForWord (stage : SearchStage) : State :=
  ⟨.memory (oneKnown.insert (wordCommit 3 "c3" "abcd")), .empty, 0, 1, [⟨wordSearch.key, []⟩],
    ⟨none, []⟩, [.ended (.ok .done), .ended (.ok .done), .search wordSearch stage]⟩

theorem resolve_wordSearch :
    (lookingForWord (.resolve 1)).act (.step 2 none) =
      some (lookingForWord (.execute 1 ⟨[.matchesAny ["abc"]], 20⟩)) := by
  have hwords : (lookingForWord (.resolve 1)).store.resolve wordSearch.query = .ok ["abc"] := by
    decide +kernel
  have hquery : Store.queryOf wordSearch ["abc"] = .ok ⟨[.matchesAny ["abc"]], 20⟩ := by
    decide +kernel
  have hstands : (lookingForWord (.resolve 1)).tasks[2]? = some (.search wordSearch (.resolve 1)) := rfl
  simp only [State.act, State.step, hstands, State.stepSearch, hwords, State.planned, hquery]
  rfl

/-- A refresh comes between the words and the commits of a search, and the page is none that the store
would have given at any one moment: it lists a commit that is newer than the refresh, and misses those
that only the refresh made known. -/
theorem answers_across_refresh :
    ∃ count v u c s p, Run (fresh (.memory oneKnown)) refreshWithinSearch count s ∧
      (∀ a ∈ refreshWithinSearch, a.isCalm = true) ∧
      Occurs (fresh (.memory oneKnown)) refreshWithinSearch (refreshWithinSearch.take 3)
        (.step 0 none) v ∧ v.Stands 0 (.save .invalidate) ∧
      Occurs (fresh (.memory oneKnown)) refreshWithinSearch (refreshWithinSearch.take 4)
        (.step 1 none) u ∧ u.Stands 1 .sweep ∧
      Occurs (fresh (.memory oneKnown)) refreshWithinSearch (refreshWithinSearch.take 5)
        (.call (.search wordSearch)) c ∧ c.tasks.length = 2 ∧ c.flights = [] ∧
      s.Stands 2 (.ended (.ok (.page p))) ∧
      ∀ before x, before <+: refreshWithinSearch →
        (fresh (.memory oneKnown)).after before = some x → x.store.search wordSearch ≠ .ok p := by
  let q : Query := ⟨[.matchesAny ["abc"]], 20⟩
  let last := (oneKnown.insert (wordCommit 3 "c3" "abcd")).refresh.insert (wordCommit 4 "d4" "abc")
  have hcomes : (fresh (.memory oneKnown)).after searchUntilLook =
      some (lookingForWord (.resolve 1)) := rfl
  obtain ⟨x, hx, hland⟩ : ∃ x, (lookingForWord (.execute 1 q)).after searchAfterRefresh = some x ∧
      x.Stands 2 (.search wordSearch (.land (.ok (last.execute q)))) := ⟨_, rfl, rfl⟩
  obtain ⟨s, hs, hended⟩ : ∃ s, x.act (.step 2 none) = some s ∧
      s.Stands 2 (.ended (.ok (.page (last.execute q)))) := by
    refine ⟨_, by rw [State.act, State.step, show x.tasks[2]? = _ from hland]; rfl, ?_⟩
    refine (stands_closeFlight _ _ _ _ _).2 ⟨_, (stands_place hland _ _ _).2 (.inl ⟨rfl, rfl⟩), ?_⟩
    split <;> rfl
  have hreached : (fresh (.memory oneKnown)).after refreshWithinSearch = some s := by
    rw [refreshWithinSearch, State.after_append, hcomes, Option.bind_some, State.after,
      resolve_wordSearch, Option.bind_some, State.after_append, hx, Option.bind_some, State.after, hs,
      Option.bind_some, State.after]
  obtain ⟨count, -, run⟩ := run_of_after hreached
  refine ⟨count, _, _, _, s, last.execute q, run, by decide,
    ⟨⟨_, rfl⟩, rfl⟩, rfl, ⟨⟨_, rfl⟩, rfl⟩, rfl, ⟨⟨_, rfl⟩, rfl⟩, rfl, rfl, hended, ?_⟩
  -- The page counts two commits, and no state of the run has two for the word.
  intro before y hbefore hy hfound
  have hmem := contents_refreshWithinSearch before.length hbefore.length_le
  rw [← List.prefix_iff_eq_take.1 hbefore, hy] at hmem
  obtain ⟨contents, hcontents, hstore⟩ := List.mem_map.1 hmem
  refine total_wordSearch contents hcontents ?_
  rw [show Store.memory contents = y.store from Option.some.inj hstore, hfound, Except.map,
    last.total_execute]
  decide +kernel

end CommitSearch.Service
