import CommitSearch.Proofs.Service.Flights
import CommitSearch.Proofs.Service.Reads

/-!
# Where results come from

From a moment of a run on, every result that a search gets or that the cache holds for a request was
given by the store for this very request, if that is so of what leaders and the cache hold at that
moment. A result goes from a leader into the cache, from there to those who look it up, and from the
leader to those who wait for its flight; `Provided` covers all of them and is kept by every act,
failing or not. At the start of the service nothing is held yet.
-/

namespace CommitSearch.Service

variable {start s s' u : State} {since acts before : List Act} {count first : Nat} {a : Act}
  {i id : Nat} {t t' : Task} {e : Effect} {r : SearchRequest} {stage stage' : SearchStage}
  {fault : Option Error} {p : Page} {store : Store}

/-! ### The invariant -/

/-- Every entry for a request is a page that the store gave for it. -/
def Stocked (start : State) (since acts : List Act) (r : SearchRequest) (s : State) : Prop :=
  ∀ entry ∈ s.cache.entries, entry.key = r.key →
    ∃ p, entry.value = p.encode ∧ Sourced start since acts r (.ok p)

/-- A call of a search is in progress, was dropped, or ended with what the store gave for it. -/
def Served (start : State) (since acts : List Act) (r : SearchRequest) (s : State) (id : Nat) :
    Prop :=
  (∃ stage, s.Stands id (.search r stage)) ∨ s.Stands id .dropped ∨
    ∃ outcome, s.Stands id (.ended (outcome.map Answer.page)) ∧
      Sourced start since acts r outcome

/-- What leaders and the cache hold for a request, and what its searches from task `first` on hold or
ended with, was given by the store after the acts `since`. -/
structure Provided (start : State) (since acts : List Act) (first : Nat) (r : SearchRequest)
    (s : State) : Prop where
  held : ∀ {i stage}, s.Stands i (.search r stage) → stage.leads = true ∨ first ≤ i →
    stage.Holds start since acts r
  stocked : Stocked start since acts r s
  served : ∀ {i}, first ≤ i → Calls start acts i (.search r) → Served start since acts r s i

theorem exists_entry_of_cached (h : s.cached r = some p) :
    ∃ entry ∈ s.cache.entries, entry.key = r.key ∧ Page.decode entry.value = .ok p := by
  unfold State.cached MemoryCache.get at h
  cases hfind : s.cache.find r.key with
  | none =>
    rw [hfind] at h
    cases h
  | some entry =>
    rw [hfind] at h
    have hmem : entry ∈ s.cache.entries := List.mem_of_find?_eq_some hfind
    have hkey : entry.key = r.key := by simpa using List.find?_some hfind
    refine ⟨entry, hmem, hkey, ?_⟩
    dsimp only at h
    split at h
    · cases h
    · next text hget =>
      split at hget <;> cases hget
      cases hdecode : Page.decode entry.value with
      | error f =>
        rw [hdecode] at h
        cases h
      | ok q =>
        rw [hdecode] at h
        cases h
        rfl

/-- What is found in the cache is what was put there, read back. -/
theorem Stocked.sourced (h : Stocked start since acts r s) (storable : Storable start acts)
    (cached : s.cached r = some p) : Sourced start since acts r (.ok p) := by
  obtain ⟨entry, hmem, hkey, hdecode⟩ := exists_entry_of_cached cached
  obtain ⟨q, hvalue, hq⟩ := h entry hmem hkey
  rw [hvalue, decode_encode (hq.isStorable storable)] at hdecode
  cases hdecode
  exact hq

theorem Stocked.later (h : Stocked start since acts r s) (reached : start.after acts = some s)
    (more : List Act) : Stocked start since (acts ++ more) r s := by
  intro entry hm hk
  obtain ⟨p, hvalue, hp⟩ := h entry hm hk
  exact ⟨p, hvalue, hp.later reached more⟩

/-- An entry was there before an act, or is the page of a search that writes it. -/
theorem entry_of_step (hl : LockFits s) (hstep : Step s a s') {entry : CacheEntry}
    (hm : entry ∈ s'.cache.entries) : entry ∈ s.cache.entries ∨
      ∃ i q g p, s.Stands i (.search q (.write g p)) ∧ s'.Stands i (.search q (.written g p)) ∧
        entry.key = q.key ∧ entry.value = p.encode := by
  cases hstep with
  | call | wait => exact .inl hm
  | go stands goes =>
    rcases cache_goes goes hm with hold | ⟨q, g, p, rfl, rfl, hkey, hvalue⟩
    · exact .inl hold
    · exact .inr ⟨_, q, g, p, stands, stands_goes_self hl stands goes, hkey, hvalue⟩
  | drop stands gives =>
    rw [cache_drop gives] at hm
    exact .inl hm

/-- What is given of a run at one of its moments: the run so far, whose requests are known. -/
structure Course (start : State) (since acts : List Act) (s : State) : Prop where
  reached : start.after acts = some s
  order : since <+: acts
  lock : LockFits s
  known : Known acts s

/-- What is given besides where one request is concerned, whose key no other request shares. -/
structure Moment (start : State) (since acts : List Act) (r : SearchRequest) (s : State) : Prop
    extends Course start since acts s where
  flights : ∀ key, FlightFits key s
  alone : Alone acts r
  storable : Storable start acts

theorem Moment.eq_of_key (m : Moment start since acts r s) {q : SearchRequest}
    (hs : s.Stands i (.search q stage)) (hk : q.key = r.key) : q = r :=
  m.alone q (m.known hs).1 hk

/-- Whoever waits for the flight of a request and is answered has that request. -/
theorem Moment.same_flight (m : Moment start since acts r s) {q : SearchRequest} {j : Nat}
    (waits : s.Stands i (.search r .waiting)) (leader : s.Stands j (.search q stage))
    (waiter : i ∈ s.flights.waiting q.key) : q = r := by
  obtain ⟨t, ht, hkey⟩ := (m.flights q.key).waiters waiter
  have hk := hkey r .waiting (ht.inj waits)
  exact m.eq_of_key leader hk.symm

theorem held_step (m : Moment start since acts r s) (h : Provided start since acts first r s)
    (hstep : Step s a s') (hs : s'.Stands i (.search r stage))
    (covered : stage.leads = true ∨ first ≤ i) : stage.Holds start since (acts ++ [a]) r := by
  cases searchFrom_of_step m.lock hstep hs with
  | called | rejoins => trivial
  | stayed stands => exact (h.held stands covered).later m.reached _
  | @answered j _ q outcome waits lands waiter =>
    obtain rfl := m.same_flight waits lands waiter
    have hsource : Sourced start since acts q outcome := h.held lands (.inl rfl)
    exact hsource.copy.later m.reached _
  | @moved t fault stage e stands goes =>
    obtain ⟨stage', rfl⟩ := same_request (searchFrom_of_step m.lock hstep hs) stands
    refine holds_goes m.reached m.order (m.known stands).2 stands goes ?_ ?_
    · exact fun p _ cached _ => h.stocked.sourced m.storable cached
    · -- A search that leads only from this step on held nothing yet.
      rcases covered with leads | hfirst
      · rcases leads_from (.moved stands goes) leads with ⟨stage₂, hs₂, leads₂⟩ | ⟨hjoin, -, -⟩
        · cases stands.inj hs₂
          exact h.held stands (.inl leads₂)
        · cases stands.inj hjoin
          trivial
      · exact h.held stands (.inr hfirst)

theorem stocked_step (m : Moment start since acts r s) (h : Provided start since acts first r s)
    (hstep : Step s a s') : Stocked start since (acts ++ [a]) r s' := by
  intro entry hm hk
  rcases entry_of_step m.lock hstep hm with hold | ⟨i, q, g, p, stands, -, hkey, hvalue⟩
  · exact h.stocked.later m.reached _ entry hold hk
  · obtain rfl := m.eq_of_key stands (hkey.symm.trans hk)
    have hsource : Sourced start since acts q (.ok p) := h.held stands (.inl rfl)
    exact ⟨p, hvalue, hsource.later m.reached _⟩

/-- A search that was served so far is served still, also when it ends in this act. -/
theorem served_goes (m : Moment start since acts r s) (h : Provided start since acts first r s)
    (hstep : Step s a s') (hfirst : first ≤ i) (hs : s.Stands i (.search r stage)) :
    Served start since (acts ++ [a]) r s' i := by
  rcases search_goes_on m.lock hstep hs with
    hon | hdropped | ⟨fault, answer, e, rfl, goes, hended⟩
  · exact .inl hon
  · exact .inr (.inl hdropped)
  · have hholds := h.held hs (.inr hfirst)
    refine .inr (.inr ?_)
    cases goes with
    | @invalid _ _ e validate =>
      refine ⟨.error e, hended, .refused fun _ => ?_⟩
      exact (readSince_of_invalid m.reached m.order validate).later _
    | @hit _ p cached =>
      exact ⟨.ok p, hended, (h.stocked.sourced m.storable cached).later m.reached _⟩
    | @receive _ _ outcome => exact ⟨outcome, hended, Sourced.later hholds m.reached _⟩
    | @land _ _ outcome => exact ⟨outcome, hended, Sourced.later hholds m.reached _⟩

theorem served_step (m : Moment start since acts r s) (h : Provided start since acts first r s)
    (hstep : Step s a s') (hfirst : first ≤ i) (hcall : Calls start (acts ++ [a]) i (.search r)) :
    Served start since (acts ++ [a]) r s' i := by
  obtain ⟨before, u, occurs, rfl⟩ := hcall
  rcases occurs.cases_snoc with ⟨rfl, rfl⟩ | hearlier
  · obtain rfl := Option.some.inj (occurs.reached.symm.trans m.reached)
    cases hstep
    exact .inl ⟨.validate, (stands_start _ _ _ _).2 (.inr ⟨rfl, rfl⟩)⟩
  · rcases h.served hfirst ⟨before, u, hearlier, rfl⟩ with
      ⟨stage, hs⟩ | hdropped | ⟨outcome, hended, hsource⟩
    · exact served_goes m h hstep hfirst hs
    · exact .inr (.inl (over_stays m.lock hstep hdropped rfl))
    · exact .inr (.inr ⟨outcome, over_stays m.lock hstep hended rfl, hsource.later m.reached _⟩)

theorem provided_step (m : Moment start since acts r s) (h : Provided start since acts first r s)
    (hstep : Step s a s') : Provided start since (acts ++ [a]) first r s' :=
  ⟨held_step m h hstep, stocked_step m h hstep, served_step m h hstep⟩

/-! ### Runs -/

theorem course_of_run (run : Run (fresh store) acts count s) (order : since <+: acts) :
    Course (fresh store) since acts s where
  reached := run.after_eq
  order := order
  lock := lockFits_run run
  known := run.known (lockFits_fresh store) (not_stands_fresh store)

theorem moment_of_run {acts' : List Act} {n : Nat} (run : Run (fresh store) acts n s)
    (within : acts <+: acts') (order : since <+: acts) (alone : Alone acts' r)
    (storable : Storable (fresh store) acts') : Moment (fresh store) since acts r s where
  toCourse := course_of_run run order
  flights := flightFits_run run
  alone := alone.within within
  storable := storable.within within

theorem provided_onward (run : Run (fresh store) acts count s) (alone : Alone acts r)
    (storable : Storable (fresh store) acts) (reached : (fresh store).after before = some u)
    (order : before <+: acts) (earlier : since <+: before)
    (base : Provided (fresh store) since before first r u) :
    Provided (fresh store) since acts first r s := by
  refine run.onward (P := fun acts' v => Provided (fresh store) since acts' first r v)
    reached order base ?_
  intro acts' n v a v' hrun _ hbefore hrest next h
  have hwithin : acts' <+: acts := (List.prefix_append acts' [a]).trans hrest
  have m := moment_of_run hrun hwithin (earlier.trans hbefore) alone storable
  exact provided_step m h (step_of_act next)

/-- Whatever is dropped or fails, a list that a search returns, and one that is cached for a request,
is what the store gave for this request before. -/
theorem results_given (run : Run (fresh store) acts count s)
    (dates : ∀ c ∈ store.commits, c.date.IsStorable) (saves : SavesStorable acts)
    (room : s.store.commits.length < 2 ^ 64) (alone : Alone acts r) :
    (∀ id p, Calls (fresh store) acts id (.search r) → s.Stands id (.ended (.ok (.page p))) →
      .found r p ∈ (fresh store).exchanges acts ∧ ReadSince (fresh store) [] acts r (.ok p)) ∧
    ∀ entry ∈ s.cache.entries, entry.key = r.key →
      ∃ p, entry.value = p.encode ∧ Page.decode entry.value = .ok p ∧
        .found r p ∈ (fresh store).exchanges acts ∧ ReadSince (fresh store) [] acts r (.ok p) := by
  have storable := storable_run run dates saves room
  have hbase : Provided (fresh store) [] [] 0 r (fresh store) := by
    constructor
    · intro i stage hs
      exact absurd hs (not_stands_fresh store)
    · intro entry hm
      cases hm
    · rintro i - ⟨before, u, occurs, -⟩
      cases occurs.mem
  have h := provided_onward run alone storable rfl (List.nil_prefix) List.prefix_rfl hbase
  constructor
  · intro id p hcall hended
    rcases h.served (Nat.zero_le id) hcall with ⟨stage, hs⟩ | hdropped | ⟨outcome, hs, hsource⟩
    · cases hs.inj hended
    · cases hdropped.inj hended
    · have heq := hs.inj hended
      cases outcome with
      | error e => cases heq
      | ok q =>
        cases heq
        cases hsource with
        | found read found => exact ⟨found, read⟩
  · intro entry hm hk
    obtain ⟨p, hvalue, hsource⟩ := h.stocked entry hm hk
    have hdecode : Page.decode entry.value = .ok p := by
      rw [hvalue]
      exact decode_encode (hsource.isStorable storable)
    cases hsource with
    | found read found => exact ⟨p, hvalue, hdecode, found, read⟩

/-- A refresh that is dropped, and a search whose looks into the cache fail. -/
def searchDespiteFaults : List Act :=
  [.call .refresh, .step 0 none, .drop 0, .call (.search .all), .step 1 none,
    .step 1 (some (.internal "cache")), .step 1 none, .step 1 (some (.internal "cache"))] ++
    List.replicate 8 (.step 1 none)

theorem searchDespiteFaults_after :
    ∃ s p, (fresh (.memory oneCommit)).after searchDespiteFaults = some s ∧
      s.store.commits = oneCommit.commits ∧ s.Stands 1 (.ended (.ok (.page p))) := by
  refine ⟨_, oneCommit.execute ⟨[], 20⟩, rfl, rfl, ?_⟩
  refine (stands_closeFlight _ _ _ _ _).2 ⟨_, rfl, ?_⟩
  split <;> rfl

theorem results_given_despite_faults :
    ∃ count s p, Run (fresh (.memory oneCommit)) searchDespiteFaults count s ∧
      Calls (fresh (.memory oneCommit)) searchDespiteFaults 1 (.search .all) ∧
      s.Stands 1 (.ended (.ok (.page p))) ∧
      .found .all p ∈ (fresh (.memory oneCommit)).exchanges searchDespiteFaults := by
  obtain ⟨s, p, hs, hstore, hended⟩ := searchDespiteFaults_after
  obtain ⟨count, -, run⟩ := run_of_after hs
  have hcall : Calls (fresh (.memory oneCommit)) searchDespiteFaults 1 (.search .all) :=
    ⟨[.call .refresh, .step 0 none, .drop 0], _, ⟨⟨_, rfl⟩, rfl⟩, rfl⟩
  have saves : SavesStorable searchDespiteFaults := by
    intro c hc
    simp [searchDespiteFaults] at hc
  have room : s.store.commits.length < 2 ^ 64 := by
    rw [hstore]
    decide
  have alone : Alone searchDespiteFaults .all := by
    rintro r hr -
    simpa [searchDespiteFaults] using hr
  have hgiven := results_given run oneCommit_dates saves room alone
  exact ⟨count, s, p, run, hcall, hended, (hgiven.1 1 p hcall hended).1⟩

end CommitSearch.Service
