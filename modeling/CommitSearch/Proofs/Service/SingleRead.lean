import CommitSearch.Proofs.Service.Progress
import CommitSearch.Proofs.Service.Reads

/-!
# One read for searches of one request

When nothing but searches of one request is going on, they pass through four phases together: the store
was not asked yet, its answer is awaited, the page is known to a leader, the page is cached. A phase
says which stages a search can be at, and only the leader of the flight moves the service on to the
next one. The store is asked in passing from the first phase to the second, so once and no more.
-/

namespace CommitSearch.Service

variable {start s s' : State} {acts : List Act} {count : Nat} {a : Act} {i j id : Nat}
  {t t' : Task} {e : Effect} {r : SearchRequest} {stage stage' : SearchStage} {p : Page}

/-- Acts of searches of one request: calls, steps without a fault, and the passing of time. -/
inductive OfSearches (r : SearchRequest) : Act → Prop
  | call : OfSearches r (.call (.search r))
  | step (id : Nat) : OfSearches r (.step id none)
  | wait (duration : Nat) : OfSearches r (.wait duration)

/-- Where searches of one request begin: none is in progress, and only the store knows its page. -/
structure Untouched (start : State) (r : SearchRequest) (p : Page) : Prop where
  quiet : start.Quiet
  unlocked : start.lock.queue = []
  vacant : ∀ entry ∈ start.cache.entries, entry.key ≠ r.key
  free : start.flights.has r.key = false
  answer : start.store.search r = .ok p
  storable : p.IsStorable

/-- A result of the request in the cache has not come to its deadline. -/
def State.Unexpired (s : State) (r : SearchRequest) : Prop :=
  ∀ entry ∈ s.cache.entries, entry.key = r.key → s.now < entry.deadline

/-- At no moment of a run has a result of the request come to its deadline. -/
def NeverExpires (start : State) (acts : List Act) (r : SearchRequest) : Prop :=
  ∀ before u, before <+: acts → start.after before = some u → u.Unexpired r

theorem NeverExpires.within {before : List Act} (h : NeverExpires start acts r)
    (order : before <+: acts) : NeverExpires start before r :=
  fun _ _ horder reached => h _ _ (horder.trans order) reached

theorem NeverExpires.snoc (h : NeverExpires start acts r) (reached : start.after acts = some s)
    (next : s.act a = some s') (unexpired : s'.Unexpired r) : NeverExpires start (acts ++ [a]) r := by
  intro before u horder hu
  rcases List.prefix_concat_iff.1 horder with rfl | horder
  · rw [State.after_snoc reached, next] at hu
    obtain rfl := Option.some.inj hu
    exact unexpired
  · exact h _ _ horder hu

theorem Untouched.neverExpires (base : Untouched start r p) : NeverExpires start [] r := by
  intro before u horder hu
  rw [List.prefix_nil.1 horder] at hu
  obtain rfl := Option.some.inj hu
  exact fun entry hm hkey => absurd hkey (base.vacant entry hm)

/-- How far all searches of the request have come together. -/
inductive Phase
  | unread
  | reading
  | found
  | cached

namespace Phase

/-- What has passed between the searches and the store. -/
def exchanges (r : SearchRequest) (p : Page) : Phase → List Exchange
  | .unread => []
  | .reading => [.asked r]
  | .found | .cached => [.asked r, .found r p]

/-- The stages at which a search can be in a phase, and what it holds there. -/
inductive Admits (start : State) (p : Page) : Phase → SearchStage → Prop
  | validate {phase : Phase} : Admits start p phase .validate
  | lookup {phase : Phase} : Admits start p phase .lookup
  | join {phase : Phase} : Admits start p phase .join
  | waiting {phase : Phase} : Admits start p phase .waiting
  | lookupAgain : Admits start p .unread .lookupAgain
  | lookupCached : Admits start p .cached .lookupAgain
  | note : Admits start p .unread .note
  | resolve : Admits start p .reading (.resolve start.generation)
  | execute {q : Query} (execute : start.store.execute q = .ok p) :
    Admits start p .reading (.execute start.generation q)
  | executed : Admits start p .reading (.executed start.generation p)
  | compare : Admits start p .found (.compare start.generation p)
  | write : Admits start p .found (.write start.generation p)
  | written : Admits start p .cached (.written start.generation p)
  | recheck : Admits start p .cached (.recheck start.generation p)
  | land : Admits start p .cached (.land (.ok p))
  | answered : Admits start p .cached (.answered (.ok p))

inductive AdmitsTask (start : State) (r : SearchRequest) (p : Page) : Phase → Task → Prop
  | search {phase : Phase} {stage : SearchStage} (admits : phase.Admits start p stage) :
    AdmitsTask start r p phase (.search r stage)
  | ended : AdmitsTask start r p .cached (.ended (.ok (.page p)))

/-- What the cache holds for the request: nothing until the page is cached, and then the page. -/
def Shelves (r : SearchRequest) (p : Page) (entry : Option CacheEntry) : Phase → Prop
  | .cached => ∃ deadline, entry = some ⟨r.key, p.encode, deadline⟩
  | .unread | .reading | .found => entry = none

end Phase

variable {phase phase' : Phase}

/-- The service in a phase, with all that its searches have in common. -/
structure Shares (start : State) (r : SearchRequest) (p : Page) (phase : Phase) (acts : List Act)
    (s : State) : Prop where
  reached : start.after acts = some s
  lock : LockFits s
  flights : FlightFits r.key s
  store : s.store = start.store
  generation : s.generation = start.generation
  exchanges : start.exchanges acts = phase.exchanges r p
  shelf : phase.Shelves r p (s.cache.find r.key)
  leader : phase = .reading ∨ phase = .found → ∃ i, s.Leads i r.key
  old : ∀ {i t}, i < start.tasks.length → s.Stands i t → t.isOver = true
  tasks : ∀ {i t}, start.tasks.length ≤ i → s.Stands i t → phase.AdmitsTask start r p t

/-! ### The cache -/

theorem alive_of_find (unexpired : s.Unexpired r) {entry : CacheEntry}
    (h : s.cache.find r.key = some entry) : s.now < entry.deadline := by
  have hkey := List.find?_some h
  exact unexpired entry (List.mem_of_find?_eq_some h) (beq_iff_eq.1 hkey)

theorem get_of_unexpired (unexpired : s.Unexpired r) : (s.cache.get s.now r.key).2 = s.cache := by
  rw [MemoryCache.get_of_alive fun _ found => alive_of_find unexpired found]

theorem cached_of_shelf (h : Shares start r p .cached acts s) (storable : p.IsStorable)
    (unexpired : s.Unexpired r) : s.cached r = some p := by
  obtain ⟨deadline, hfind⟩ := h.shelf
  have halive : s.now < deadline := alive_of_find unexpired hfind
  simp only [State.cached, MemoryCache.get, hfind, halive, if_true, decode_encode storable]
  rfl

theorem not_cached_of_shelf (h : Shares start r p phase acts s) (early : phase ≠ .cached) :
    s.cached r = none := by
  have hfind : s.cache.find r.key = none := by
    have hshelf := h.shelf
    cases phase with
    | cached => exact absurd rfl early
    | _ => exact hshelf
  simp only [State.cached, MemoryCache.get, hfind]

/-! ### Steps -/

theorem length_goes (goes : Goes s i none (.search r stage) t' e) :
    (e.apply (s.place i t') i).tasks.length = s.tasks.length := by
  have hplace : (s.place i t').tasks.length = s.tasks.length := List.length_set
  generalize htask : Task.search r stage = t at goes
  cases goes <;> cases htask <;> first | exact hplace | exact List.length_mapIdx.trans hplace

theorem still_goes (goes : Goes s i none (.search r stage) t' e) :
    (e.apply (s.place i t') i).store = s.store ∧
      (e.apply (s.place i t') i).generation = s.generation ∧
        (e.apply (s.place i t') i).now = s.now := by
  generalize htask : Task.search r stage = t at goes
  cases goes <;> cases htask <;> exact ⟨rfl, rfl, rfl⟩

theorem Shares.admits (h : Shares start r p phase acts s) (stands : s.Stands i t)
    (going : t.isOver = false) : start.tasks.length ≤ i ∧
      ∃ stage, t = .search r stage ∧ phase.Admits start p stage := by
  have hi : start.tasks.length ≤ i := by
    refine Nat.le_of_not_lt fun hlt => ?_
    rw [h.old hlt stands] at going
    cases going
  cases h.tasks hi stands with
  | search admits => exact ⟨hi, _, rfl, admits⟩
  | ended => cases going

/-- While the page is not cached, nobody but the leader has begun to work. -/
theorem admits_elsewhere (h : Shares start r p phase acts s) (early : phase ≠ .cached)
    (leader : s.Leads i r.key) (hne : j ≠ i) (hj : start.tasks.length ≤ j) (hs : s.Stands j t) :
    phase'.AdmitsTask start r p t := by
  cases h.tasks hj hs with
  | ended => exact absurd rfl early
  | @search _ stage admits =>
    refine .search ?_
    cases hleads : stage.leads with
    | true => exact absurd (h.flights.unique ⟨r, stage, hs, hleads, rfl⟩ leader) hne
    | false =>
      cases admits with
      | answered => exact absurd rfl early
      | validate | lookup | join | waiting => constructor
      | _ => cases hleads

theorem tasks_goes (h : Shares start r p phase acts s) (stands : s.Stands i (.search r stage))
    (goes : Goes s i none (.search r stage) t' e) (keeps : phase = .cached → phase' = .cached)
    (own : phase'.AdmitsTask start r p t')
    (others : ∀ {j t}, j ≠ i → start.tasks.length ≤ j → s.Stands j t → phase'.AdmitsTask start r p t)
    {u : Task} (hj : start.tasks.length ≤ j) (hu : (e.apply (s.place i t') i).Stands j u) :
    phase'.AdmitsTask start r p u := by
  by_cases hne : j = i
  · subst hne
    obtain rfl := hu.inj (stands_goes_self h.lock stands goes)
    exact own
  have hlt : j < s.tasks.length := by
    rw [← length_goes goes]
    exact (List.getElem?_eq_some_iff.1 hu).1
  have hold : s.Stands j s.tasks[j] := List.getElem?_eq_getElem hlt
  obtain ⟨u', hu', hn⟩ := stands_goes_other h.lock stands goes hne hold
  obtain rfl := hu'.inj hu
  have hbefore := others hne hj hold
  generalize hv : s.tasks[j] = v at hold hn hbefore
  cases hn with
  | same => exact hbefore
  | locked => cases hbefore
  | rejoins =>
    cases hbefore
    exact .search .join
  | answered q outcome =>
    cases hbefore
    -- The outcome is that of the leader that lands in this step, so the page.
    cases searchFrom_goes h.lock stands goes hu with
    | stayed stays => cases stays.inj hold
    | moved => exact absurd rfl hne
    | answered waits lands waiter =>
      obtain ⟨-, stage', heq, admits⟩ := h.admits lands rfl
      cases heq
      cases admits
      obtain rfl := keeps rfl
      exact .search .answered

/-- The service after a step of a search, in the phase to which it leads. -/
theorem shares_next (h : Shares start r p phase acts s) (stands : s.Stands i (.search r stage))
    (goes : Goes s i none (.search r stage) t' e) (keeps : phase = .cached → phase' = .cached)
    (own : phase'.AdmitsTask start r p t')
    (others : ∀ {j t}, j ≠ i → start.tasks.length ≤ j → s.Stands j t → phase'.AdmitsTask start r p t)
    (exchanges : phase'.exchanges r p =
      phase.exchanges r p ++ (Task.exchange none (.search r stage)).toList)
    (shelf : phase'.Shelves r p ((e.apply (s.place i t') i).cache.find r.key))
    (leader : phase' = .reading ∨ phase' = .found →
      ∃ j, (e.apply (s.place i t') i).Leads j r.key)
    (next : s.act (.step i none) = some (e.apply (s.place i t') i)) :
    Shares start r p phase' (acts ++ [.step i none]) (e.apply (s.place i t') i) := by
  have hstep := Step.go stands goes
  obtain ⟨hstore, hgeneration, -⟩ := still_goes goes
  constructor
  · rw [State.after_snoc h.reached, next]
  · exact lockFits_step h.lock hstep
  · exact flightFits_step h.lock h.flights hstep
  · rw [hstore, h.store]
  · rw [hgeneration, h.generation]
  · rw [State.exchanges_snoc h.reached, h.exchanges, exchanges, State.exchange,
      show s.tasks[i]? = _ from stands]
    rfl
  · exact shelf
  · exact leader
  · intro j u hj hu
    have hlt : j < s.tasks.length := by
      rw [← length_goes goes]
      exact (List.getElem?_eq_some_iff.1 hu).1
    have hold : s.Stands j s.tasks[j] := List.getElem?_eq_getElem hlt
    have hover := h.old hj hold
    obtain rfl := (over_stays h.lock hstep hold hover).inj hu
    exact hover
  · exact tasks_goes h stands goes keeps own others

/-- A step within a phase, which asks the store nothing and leaves what is cached. -/
theorem shares_same (h : Shares start r p phase acts s) (stands : s.Stands i (.search r stage))
    (goes : Goes s i none (.search r stage) t' e) (own : phase.AdmitsTask start r p t')
    (quiet : Task.exchange none (.search r stage) = none)
    (cache : (e.apply (s.place i t') i).cache = s.cache)
    (next : s.act (.step i none) = some (e.apply (s.place i t') i)) :
    Shares start r p phase (acts ++ [.step i none]) (e.apply (s.place i t') i) := by
  refine shares_next h stands goes (fun hp => hp) own (fun _ hj hs => h.tasks hj hs) ?_ ?_ ?_ next
  · rw [quiet]
    exact (List.append_nil _).symm
  · rw [cache]
    exact h.shelf
  · intro early
    obtain ⟨j, hj⟩ := h.leader early
    rcases leads_on h.lock (.go stands goes) hj with hlater | ⟨_, q, o, ha, -, hs⟩ | ha
    · exact ⟨j, hlater⟩
    · obtain ⟨-, stage', heq, admits⟩ := h.admits hs rfl
      cases heq
      cases admits
      rcases early with early | early <;> cases early
    · cases ha

/-! ### What the store answers -/

theorem planned_of_answer {store : Store} {words : List String} (answer : store.search r = .ok p)
    (resolve : store.resolve r.query = .ok words) (g : UInt64) :
    ∃ q, State.planned g r words = .execute g q ∧ store.execute q = .ok p := by
  obtain ⟨u, -, hrest⟩ := ok_of_bind answer
  obtain ⟨words', hresolve, hrest⟩ := ok_of_bind hrest
  obtain ⟨q, hquery, hexecute⟩ := ok_of_bind hrest
  rw [resolve] at hresolve
  cases hresolve
  exact ⟨q, by rw [State.planned, hquery], hexecute⟩

theorem resolves_of_answer {store : Store} (answer : store.search r = .ok p) :
    ∃ words, store.resolve r.query = .ok words := by
  obtain ⟨u, -, hrest⟩ := ok_of_bind answer
  obtain ⟨words, hresolve, -⟩ := ok_of_bind hrest
  exact ⟨words, hresolve⟩

/-- A leader whose step moves the service on to the next phase. -/
theorem shares_lead (h : Shares start r p phase acts s) (early : phase ≠ .cached)
    (stands : s.Stands i (.search r stage)) (leads : stage.leads = true)
    (goes : Goes s i none (.search r stage) (.search r stage') e) (leads' : stage'.leads = true)
    (own : phase'.Admits start p stage')
    (exchanges : phase'.exchanges r p =
      phase.exchanges r p ++ (Task.exchange none (.search r stage)).toList)
    (shelf : phase'.Shelves r p
      ((e.apply (s.place i (.search r stage')) i).cache.find r.key))
    (next : s.act (.step i none) = some (e.apply (s.place i (.search r stage')) i)) :
    Shares start r p phase' (acts ++ [.step i none])
      (e.apply (s.place i (.search r stage')) i) := by
  have hleader : s.Leads i r.key := ⟨r, stage, stands, leads, rfl⟩
  have hself := stands_goes_self h.lock stands goes
  refine shares_next h stands goes (fun hp => absurd hp early) (.search own) ?_ exchanges shelf
    (fun _ => ⟨i, r, stage', hself, leads', rfl⟩) next
  intro j t hne hj hs
  exact admits_elsewhere h early hleader hne hj hs

theorem shares_goes (h : Shares start r p phase acts s) (base : Untouched start r p)
    (unexpired : s.Unexpired r)
    (stands : s.Stands i (.search r stage)) (admits : phase.Admits start p stage)
    (goes : Goes s i none (.search r stage) t' e)
    (next : s.act (.step i none) = some (e.apply (s.place i t') i)) :
    ∃ phase', Shares start r p phase' (acts ++ [.step i none]) (e.apply (s.place i t') i) := by
  have hgoes := goes
  have htouched : (s.touched r).cache = s.cache := get_of_unexpired unexpired
  have hfill : phase = .cached → s.cached r = some p := by
    rintro rfl
    exact cached_of_shelf h base.storable unexpired
  have hvacant : phase ≠ .cached → s.cached r = none := not_cached_of_shelf h
  cases goes with
  | invalid validate =>
    rw [Store.validate_of_search base.answer] at validate
    cases validate
  | valid => exact ⟨phase, shares_same h stands hgoes (.search .lookup) rfl rfl next⟩
  | hit cached =>
    cases phase with
    | cached =>
      rw [hfill rfl] at cached
      cases cached
      exact ⟨.cached, shares_same h stands hgoes .ended rfl htouched next⟩
    | _ =>
      rw [hvacant (by simp)] at cached
      cases cached
  | miss => exact ⟨phase, shares_same h stands hgoes (.search .join) rfl htouched next⟩
  | lead free =>
    have hnone : ¬ (phase = .reading ∨ phase = .found) := by
      intro early
      rw [h.flights.flight_iff.2 (h.leader early)] at free
      cases free
    have hown : phase.Admits start p .lookupAgain := by
      cases phase with
      | unread => exact .lookupAgain
      | cached => exact .lookupCached
      | reading | found => exact absurd (by simp) hnone
    exact ⟨phase, shares_same h stands hgoes (.search hown) rfl rfl next⟩
  | follow => exact ⟨phase, shares_same h stands hgoes (.search .waiting) rfl rfl next⟩
  | receive =>
    cases admits
    exact ⟨.cached, shares_same h stands hgoes .ended rfl rfl next⟩
  | hitAgain cached =>
    cases admits with
    | lookupAgain =>
      rw [hvacant (by simp)] at cached
      cases cached
    | lookupCached =>
      rw [hfill rfl] at cached
      cases cached
      exact ⟨.cached, shares_same h stands hgoes (.search .land) rfl htouched next⟩
  | missAgain cached =>
    cases admits with
    | lookupAgain => exact ⟨.unread, shares_same h stands hgoes (.search .note) rfl htouched next⟩
    | lookupCached =>
      rw [hfill rfl] at cached
      cases cached
  | noteBlank blank =>
    cases admits
    have hresolve : start.store.resolve r.query = .ok [] := by rw [Store.resolve, if_pos blank]
    obtain ⟨q, hplanned, hexecute⟩ := planned_of_answer base.answer hresolve s.generation
    rw [h.generation] at hplanned hgoes next ⊢
    rw [hplanned] at hgoes next ⊢
    exact ⟨.reading, shares_lead h (by simp) stands rfl hgoes rfl (.execute hexecute) rfl h.shelf next⟩
  | note =>
    cases admits
    rw [h.generation] at hgoes next ⊢
    exact ⟨.reading, shares_lead h (by simp) stands rfl hgoes rfl .resolve rfl h.shelf next⟩
  | rejectResolve resolve =>
    obtain ⟨words, hresolve⟩ := resolves_of_answer base.answer
    rw [h.store, hresolve] at resolve
    cases resolve
  | resolve resolve =>
    cases admits
    rw [h.store] at resolve
    obtain ⟨q, hplanned, hexecute⟩ := planned_of_answer base.answer resolve start.generation
    rw [hplanned] at hgoes next ⊢
    exact ⟨.reading, shares_same h stands hgoes (.search (.execute hexecute)) rfl rfl next⟩
  | rejectExecute execute =>
    cases admits with
    | execute hexecute =>
      rw [h.store, hexecute] at execute
      cases execute
  | execute execute =>
    cases admits with
    | execute hexecute =>
      rw [h.store, hexecute] at execute
      cases execute
      exact ⟨.reading, shares_same h stands hgoes (.search .executed) rfl rfl next⟩
  | executed =>
    cases admits
    exact ⟨.found, shares_lead h (by simp) stands rfl hgoes rfl .compare rfl h.shelf next⟩
  | fill =>
    cases admits
    exact ⟨.found, shares_same h stands hgoes (.search .write) rfl rfl next⟩
  | skip outdated =>
    cases admits
    exact absurd h.generation outdated
  | write =>
    cases admits
    have hshelf : Phase.Shelves r p
        ((s.cache.set s.now r.key p.encode resultLifetime).find r.key) .cached :=
      ⟨_, (MemoryCache.find_set _ _ _ _ _ _).trans (if_pos rfl)⟩
    exact ⟨.cached, shares_lead h (by simp) stands rfl hgoes rfl .written rfl hshelf next⟩
  | written =>
    cases admits
    exact ⟨.cached, shares_same h stands hgoes (.search .recheck) rfl rfl next⟩
  | keep =>
    cases admits
    exact ⟨.cached, shares_same h stands hgoes (.search .land) rfl rfl next⟩
  | reject outdated =>
    cases admits
    exact absurd h.generation outdated
  | discard => cases admits
  | land =>
    cases admits
    exact ⟨.cached, shares_same h stands hgoes .ended rfl rfl next⟩

/-! ### Runs -/

theorem Untouched.shares (base : Untouched start r p) : Shares start r p .unread [] start := by
  constructor
  · rfl
  · constructor
    · rw [base.unlocked]
      exact List.nodup_nil
    · intro i hi
      rw [base.unlocked] at hi
      cases hi
  · exact flightFits_of_quiet base.quiet base.free
  · rfl
  · rfl
  · rfl
  · show start.cache.find r.key = none
    refine List.find?_eq_none.2 fun entry hm => ?_
    simpa using base.vacant entry hm
  · rintro (early | early) <;> cases early
  · intro i t _ hs
    exact base.quiet t hs.mem
  · intro i t hi hs
    have hlt : i < start.tasks.length := (List.getElem?_eq_some_iff.1 hs).1
    omega

theorem shares_call (h : Shares start r p phase acts s)
    (later : start.tasks.length ≤ s.tasks.length) :
    Shares start r p phase (acts ++ [.call (.search r)]) (s.start (searching r)).1 := by
  have hstep : Step s (.call (.search r)) (s.start (searching r)).1 := .call (.search r)
  constructor
  · rw [State.after_snoc h.reached]
    rfl
  · exact lockFits_step h.lock hstep
  · exact flightFits_step h.lock h.flights hstep
  · exact h.store
  · exact h.generation
  · rw [State.exchanges_snoc h.reached, h.exchanges]
    exact List.append_nil _
  · exact h.shelf
  · intro early
    obtain ⟨i, q, stage, hs, hleader⟩ := h.leader early
    exact ⟨i, q, stage, (stands_start s _ i _).2 (.inl hs), hleader⟩
  · intro i t hi hs
    rcases (stands_start s _ i t).1 hs with hold | ⟨rfl, -⟩
    · exact h.old hi hold
    · omega
  · intro i t hi hs
    rcases (stands_start s _ i t).1 hs with hold | ⟨-, rfl⟩
    · exact h.tasks hi hold
    · exact .search .validate

theorem shares_wait (h : Shares start r p phase acts s) (duration : Nat) :
    Shares start r p phase (acts ++ [.wait duration]) { s with now := s.now + duration } where
  reached := State.after_snoc h.reached _
  lock := lockFits_of_same h.lock rfl rfl
  flights := flightFits_step h.lock h.flights (.wait duration)
  store := h.store
  generation := h.generation
  exchanges := by
    rw [State.exchanges_snoc h.reached, h.exchanges]
    exact List.append_nil _
  shelf := h.shelf
  leader := h.leader
  old := h.old
  tasks := h.tasks

/-- Of a run of searches, each step is that of a search and keeps all in one phase. -/
theorem shares_act (h : Shares start r p phase acts s) (base : Untouched start r p)
    (unexpired : s.Unexpired r) (later : start.tasks.length ≤ s.tasks.length) (of : OfSearches r a)
    (next : s.act a = some s') : ∃ phase', Shares start r p phase' (acts ++ [a]) s' := by
  cases of with
  | call =>
    cases next
    exact ⟨phase, shares_call h later⟩
  | wait duration =>
    cases next
    exact ⟨phase, shares_wait h duration⟩
  | step id =>
    cases step_of_act next with
    | go stands goes =>
      obtain ⟨-, stage, rfl, admits⟩ := h.admits stands (going_of_goes goes)
      exact shares_goes h base unexpired stands admits goes next

theorem shares_run (base : Untouched start r p) (run : Run start acts count s)
    (of : ∀ a ∈ acts, OfSearches r a) (never : NeverExpires start acts r) :
    ∃ phase, Shares start r p phase acts s := by
  induction run with
  | nothing => exact ⟨.unread, base.shares⟩
  | @act acts count s s' a run next ih =>
    have hbefore : acts <+: acts ++ [a] := List.prefix_append acts [a]
    obtain ⟨phase, h⟩ := ih (fun b hb => of b (hbefore.subset hb)) (never.within hbefore)
    exact shares_act h base (never acts s hbefore run.after_eq) (run.length_le base.shares.lock)
      (of a (List.mem_append_right _ List.mem_cons_self)) next

def Act.isCall : Act → Bool
  | .call _ => true
  | _ => false

def Act.isStep : Act → Bool
  | .step _ _ => true
  | _ => false

/-- Each call brings in a bounded distance from its end, of which each step takes some away. -/
theorem distance_run (base : Untouched start r p) (run : Run start acts count s)
    (of : ∀ a ∈ acts, OfSearches r a) (never : NeverExpires start acts r) :
    s.distance + acts.countP Act.isStep ≤ 14 * acts.countP Act.isCall := by
  induction run with
  | nothing => exact Nat.le_of_eq (distance_of_over base.quiet)
  | @act acts count s s' a run next ih =>
    have hbefore : acts <+: acts ++ [a] := List.prefix_append acts [a]
    have hof : ∀ b ∈ acts, OfSearches r b := fun b hb => of b (hbefore.subset hb)
    have hnever := never.within hbefore
    have hle := ih hof hnever
    rw [List.countP_append, List.countP_append, List.countP_singleton, List.countP_singleton]
    cases of a (List.mem_append_right _ List.mem_cons_self) with
    | call =>
      cases next
      have hcall : (s.start (searching r)).1.distance = s.distance + 14 := distance_start _ _
      show (s.start (searching r)).1.distance + (_ + 0) ≤ 14 * (_ + 1)
      omega
    | wait duration =>
      cases next
      show s.distance + (_ + 0) ≤ 14 * (_ + 0)
      omega
    | step id =>
      cases step_of_act next with
      | go stands goes =>
        obtain ⟨phase, h⟩ := shares_run base run hof hnever
        obtain ⟨-, stage, rfl, -⟩ := h.admits stands (going_of_goes goes)
        have hless := distance_step stands goes
        show _ + (_ + 1) ≤ 14 * (_ + 0)
        omega

/-- Where nothing can take a step any more, a search that was called has ended, so all share the
last phase. -/
theorem shares_of_stuck (h : Shares start r p phase acts s) (run : Run start acts count s)
    (hl : LockFits start) (stuck : ∀ id, s.step id none = none)
    (called : Calls start acts id (.search r)) :
    phase = .cached ∧ s.Stands id (.ended (.ok (.page p))) := by
  obtain ⟨hid, t, ht⟩ := place_of_call run hl called
  cases h.tasks hid ht with
  | search => exact absurd ht (not_search_of_stuck h.flights stuck)
  | ended => exact ⟨rfl, ht⟩

/-- A step of a search takes no time, and what it writes into the cache is to last. -/
theorem unexpired_goes (h : s.Unexpired r) (goes : Goes s i none (.search r stage) t' e) :
    (e.apply (s.place i t') i).Unexpired r := by
  intro entry hm hkey
  rw [(still_goes goes).2.2]
  generalize htask : Task.search r stage = t at goes
  cases goes with
  | hit | miss | hitAgain | missAgain => exact h entry (MemoryCache.mem_get hm) hkey
  | write =>
    rcases List.mem_cons.1 hm with rfl | hold
    · exact Nat.lt_add_of_pos_right (by decide)
    · exact h entry (List.mem_filter.1 hold).1 hkey
  | discard => exact h entry (MemoryCache.mem_deletePattern.1 hm).1 hkey
  | _ => cases htask <;> exact h entry hm hkey

/-- Searches that are in progress can be brought to their ends. -/
theorem exists_completion (h : Shares start r p phase acts s) (base : Untouched start r p)
    (run : Run start acts count s) (never : NeverExpires start acts r) :
    ∃ (ids : List Nat) (n : Nat) (s' : State),
      Run start (acts ++ ids.map fun id => .step id none) n s' ∧
        NeverExpires start (acts ++ ids.map fun id => .step id none) r ∧
          ∀ id, s'.step id none = none := by
  induction hd : s.distance using Nat.strong_induction_on generalizing phase acts count s with
  | _ d ih =>
    by_cases stuck : ∀ id, s.step id none = none
    · exact ⟨[], count, s, by simpa using run, by simpa using never, stuck⟩
    · obtain ⟨id, hid⟩ := Classical.not_forall.1 stuck
      obtain ⟨m, hm⟩ := Option.ne_none_iff_exists'.1 hid
      have next : s.act (.step id none) = some m.state := by rw [State.act, hm, Option.map_some]
      generalize m.state = u at next
      have hstep := step_of_act next
      have hunexpired : s.Unexpired r := never acts s List.prefix_rfl h.reached
      cases hstep with
      | @go _ _ t t' e stands goes =>
        obtain ⟨-, stage, rfl, admits⟩ := h.admits stands (going_of_goes goes)
        obtain ⟨phase', h'⟩ := shares_goes h base hunexpired stands admits goes next
        have hnever := never.snoc h.reached next (unexpired_goes hunexpired goes)
        have hless := distance_step stands goes
        obtain ⟨ids, n, s', run', never', stuck'⟩ := ih _ (by omega) h' (run.act next) hnever rfl
        rw [List.append_assoc] at run' never'
        exact ⟨id :: ids, n, s', run', never', stuck'⟩

/-- However their steps are interleaved, searches of one valid request on an empty cache come to an
end after a bounded number of steps, with one read of the store and all with its page. -/
theorem read_once (base : Untouched start r p) (run : Run start acts count s)
    (of : ∀ a ∈ acts, OfSearches r a) (never : NeverExpires start acts r) :
    acts.countP Act.isStep ≤ 14 * acts.countP Act.isCall ∧
      start.exchanges acts <+: [.asked r, .found r p] ∧
      (∀ id outcome, Calls start acts id (.search r) → s.Stands id (.ended outcome) →
        outcome = .ok (.page p)) ∧
      ((∀ id, s.step id none = none) → ∀ id, Calls start acts id (.search r) →
        start.exchanges acts = [.asked r, .found r p] ∧ s.Stands id (.ended (.ok (.page p)))) := by
  obtain ⟨phase, h⟩ := shares_run base run of never
  refine ⟨?_, ?_, ?_, ?_⟩
  · have hle := distance_run base run of never
    omega
  · rw [h.exchanges]
    cases phase with
    | unread => exact List.nil_prefix
    | reading => exact ⟨[.found r p], rfl⟩
    | found | cached => exact List.prefix_rfl
  · intro id outcome called hended
    obtain ⟨hid, -⟩ := place_of_call run base.shares.lock called
    cases h.tasks hid hended
    rfl
  · intro stuck id called
    obtain ⟨rfl, hended⟩ := shares_of_stuck h run base.shares.lock stuck called
    exact ⟨h.exchanges, hended⟩

theorem read_once_for_two :
    ∃ acts count s, acts.countP Act.isCall = 2 ∧ Run (fresh (.memory oneCommit)) acts count s ∧
      (fresh (.memory oneCommit)).exchanges acts = [.asked .all, .found .all onePage] ∧
      s.Stands 0 (.ended (.ok (.page onePage))) ∧ s.Stands 1 (.ended (.ok (.page onePage))) := by
  have base : Untouched (fresh (.memory oneCommit)) .all onePage := by
    refine ⟨?_, rfl, ?_, rfl, rfl, isStorable_onePage⟩
    · intro t ht
      cases ht
    · intro entry hm
      cases hm
  have hcalls : (fresh (.memory oneCommit)).after [.call (.search .all), .call (.search .all)] =
      some ⟨.memory oneCommit, .empty, 0, 0, [], ⟨none, []⟩, [searching .all, searching .all]⟩ := rfl
  obtain ⟨n, -, begun⟩ := run_of_after hcalls
  have hof : ∀ a ∈ [Act.call (.search .all), .call (.search .all)], OfSearches .all a := by
    intro a ha
    simp only [List.mem_cons, List.not_mem_nil, or_false, or_self] at ha
    rw [ha]
    exact .call
  have hnever : NeverExpires (fresh (.memory oneCommit)) [.call (.search .all), .call (.search .all)]
      .all := by
    have hempty : ∀ entry : CacheEntry, ¬ entry ∈ MemoryCache.empty.entries := fun _ => List.not_mem_nil
    refine .snoc (.snoc base.neverExpires rfl rfl ?_) rfl rfl ?_
    · exact fun entry hm => absurd hm (hempty entry)
    · exact fun entry hm => absurd hm (hempty entry)
  obtain ⟨phase, h⟩ := shares_run base begun hof hnever
  obtain ⟨ids, count, s, run, never, stuck⟩ := exists_completion h base begun hnever
  have of : ∀ a ∈ [Act.call (.search .all), .call (.search .all)] ++
      ids.map fun id => .step id none, OfSearches .all a := by
    intro a ha
    rcases List.mem_append.1 ha with ha | ha
    · exact hof a ha
    · obtain ⟨id, -, rfl⟩ := List.mem_map.1 ha
      exact .step id
  have hread := read_once base run of never
  have hfirst := hread.2.2.2 stuck 0 ⟨[], _, ⟨⟨_, rfl⟩, rfl⟩, rfl⟩
  have hsecond := hread.2.2.2 stuck 1 ⟨[.call (.search .all)], _, ⟨⟨_, rfl⟩, rfl⟩, rfl⟩
  refine ⟨_, count, s, ?_, run, hfirst.1, hfirst.2, hsecond.2⟩
  have hnone : ∀ a ∈ ids.map fun id => Act.step id none, ¬ a.isCall = true := by
    intro a ha
    obtain ⟨id, -, rfl⟩ := List.mem_map.1 ha
    exact Bool.false_ne_true
  rw [List.countP_append, List.countP_eq_zero.2 hnone]
  rfl

end CommitSearch.Service
