import CommitSearch.Proofs.Service.Stored

/-!
# What searches read

A search looks up the words of its query at one moment of a run and selects commits at a later one, so
its answer is that of two states of the store. `Sourced` says this of an outcome and that it was read
no earlier than a given moment; `SearchStage.Holds` says it of what a search holds on its way. Each
step of a search keeps that, and so does the copying of an outcome for those who waited.
-/

namespace CommitSearch

/-- The answer to a request whose words are looked up in one state of the store and whose commits are
selected in another. -/
def Store.searchAcross (known stored : Store) (r : SearchRequest) : Except Error Page := do
  r.validate
  let words ← known.resolve r.query
  let q ← Store.queryOf r words
  stored.execute q

theorem Store.searchAcross_self (s : Store) (r : SearchRequest) : s.searchAcross s r = s.search r :=
  rfl

/-! ### Errors of a store that can be reached -/

theorem isClientError_readBound {text : String} {e : Error} (h : readBound text = .error e) :
    e.isClientError = true := by
  unfold readBound at h
  split at h
  · cases h
  · split at h <;> cases h
    rfl

theorem isClientError_readCursor {text : String} {e : Error} (h : readCursor text = .error e) :
    e.isClientError = true := by
  unfold readCursor at h
  split at h <;> cases h
  rfl

theorem isClientError_upperBound {r : SearchRequest} {e : Error} (h : r.upperBound = .error e) :
    e.isClientError = true := by
  unfold SearchRequest.upperBound at h
  split at h
  · exact isClientError_readBound h
  · cases hread : readCursor r.last with
    | error e' =>
      rw [hread] at h
      cases h
      exact isClientError_readCursor hread
    | ok i =>
      rw [hread] at h
      cases h

/-- What fails in a sequence of two computations is one of them. -/
theorem error_of_bind {α β : Type} {x : Except Error α} {f : α → Except Error β} {e : Error}
    (h : x >>= f = .error e) : x = .error e ∨ ∃ a, x = .ok a ∧ f a = .error e := by
  cases x with
  | error e' =>
    cases h
    exact .inl rfl
  | ok a => exact .inr ⟨a, rfl, h⟩

theorem isClientError_validate {r : SearchRequest} {e : Error} (h : r.validate = .error e) :
    e.isClientError = true := by
  unfold SearchRequest.validate at h
  rcases error_of_bind h with h | ⟨_, -, h⟩
  · exact isClientError_upperBound h
  rcases error_of_bind h with h | ⟨_, -, h⟩
  · exact isClientError_readBound h
  rcases error_of_bind h with h | ⟨_, -, h⟩
  · exact isClientError_readBound h
  · cases h

theorem isClientError_queryOf {r : SearchRequest} {words : List String} {e : Error}
    (h : Store.queryOf r words = .error e) : e.isClientError = true := by
  unfold Store.queryOf at h
  split at h
  · cases h
    rfl
  have hbounds : ∀ cursor, (do
      let before ← readBound r.before
      let after ← r.lowerBound
      return Query.build r.pageSize cursor words r.filters before after) = .error e →
      e.isClientError = true := by
    intro cursor h
    rcases error_of_bind h with h | ⟨_, -, h⟩
    · exact isClientError_readBound h
    rcases error_of_bind h with h | ⟨_, -, h⟩
    · exact isClientError_readBound h
    · cases h
  unfold Query.ofRequest at h
  dsimp only at h
  split at h
  · exact hbounds none h
  · rcases error_of_bind h with h | ⟨cursor, -, h⟩
    · exact isClientError_upperBound h
    · exact hbounds cursor h

/-- A store that can be reached refuses a search only for what the client asked. -/
theorem isClientError_searchAcross {known stored : Store} {r : SearchRequest} {e : Error}
    (hknown : known ≠ .disconnected) (hstored : stored ≠ .disconnected)
    (h : known.searchAcross stored r = .error e) : e.isClientError = true := by
  unfold Store.searchAcross at h
  rcases error_of_bind h with h | ⟨_, -, h⟩
  · exact isClientError_validate h
  rcases error_of_bind h with h | ⟨words, -, h⟩
  · cases known with
    | memory contents =>
      unfold Store.resolve at h
      dsimp only at h
      split at h <;> cases h
    | disconnected => exact absurd rfl hknown
  rcases error_of_bind h with h | ⟨q, -, h⟩
  · exact isClientError_queryOf h
  · cases stored with
    | memory contents => cases h
    | disconnected => exact absurd rfl hstored

theorem isStorable_of_searchAcross {known stored : Store} {r : SearchRequest} {p : Page}
    (hs : stored.IsStorable) (h : known.searchAcross stored r = .ok p) : p.IsStorable := by
  obtain ⟨_, -, h⟩ := ok_of_bind h
  obtain ⟨_, -, h⟩ := ok_of_bind h
  obtain ⟨q, -, hq⟩ := ok_of_bind h
  obtain ⟨hcommits, htotal⟩ := Store.page_of_execute hq
  exact ⟨fun c hc => hs.1 c (hcommits c hc), Nat.lt_of_le_of_lt htotal hs.2⟩

namespace Service

variable {start s s' u : State} {since acts before : List Act} {count : Nat} {a : Act} {i id : Nat}
  {t t' : Task} {e : Effect} {r : SearchRequest} {stage stage' : SearchStage}
  {fault : Option Error} {p : Page}

/-! ### Reads -/

/-- The answer to a request, of the store as it was at two moments after the acts `since`: words are
looked up at the first and commits selected at the second. -/
def ReadSince (start : State) (since acts : List Act) (r : SearchRequest)
    (answer : Except Error Page) : Prop :=
  ∃ early late u v, since <+: early ∧ early <+: late ∧ late <+: acts ∧
    start.after early = some u ∧ start.after late = some v ∧
      answer = u.store.searchAcross v.store r

/-- The query that a request became when its words were looked up after the acts `since`. -/
def ResolvedSince (start : State) (since acts : List Act) (r : SearchRequest) (q : Query) : Prop :=
  ∃ early u words, since <+: early ∧ early <+: acts ∧ start.after early = some u ∧
    r.validate = .ok () ∧ u.store.resolve r.query = .ok words ∧ Store.queryOf r words = .ok q

/-- The store can be reached, no operation fails and no call is dropped. -/
structure Calm (start : State) (acts : List Act) : Prop where
  connected : start.store ≠ .disconnected
  acts : ∀ a ∈ acts, a.isCalm = true

/-- An outcome that the store gave for a request after the acts `since`. -/
inductive Sourced (start : State) (since acts : List Act) (r : SearchRequest) :
    Except Error Page → Prop
  | found {p : Page} (read : ReadSince start since acts r (.ok p))
      (found : .found r p ∈ start.exchanges acts) : Sourced start since acts r (.ok p)
  | refused {e : Error} (read : Calm start acts → ReadSince start since acts r (.error e)) :
    Sourced start since acts r (.error e)

/-- What a search holds is what the store gave for its request after the acts `since`. -/
def SearchStage.Holds (start : State) (since acts : List Act) (r : SearchRequest) :
    SearchStage → Prop
  | .execute _ q => ResolvedSince start since acts r q
  | .executed _ p => ReadSince start since acts r (.ok p)
  | .compare _ p | .write _ p | .written _ p | .recheck _ p | .discard p =>
    Sourced start since acts r (.ok p)
  | .land outcome | .answered outcome => Sourced start since acts r outcome
  | .validate | .lookup | .join | .waiting | .lookupAgain | .note | .resolve _ => True

/-! ### Later moments -/

theorem ReadSince.later {answer : Except Error Page} (h : ReadSince start since acts r answer)
    (more : List Act) : ReadSince start since (acts ++ more) r answer := by
  obtain ⟨early, late, u, v, hearly, horder, hlate, hu, hv, hanswer⟩ := h
  exact ⟨early, late, u, v, hearly, horder, hlate.trans (List.prefix_append acts more), hu, hv,
    hanswer⟩

theorem ResolvedSince.later {q : Query} (h : ResolvedSince start since acts r q) (more : List Act) :
    ResolvedSince start since (acts ++ more) r q := by
  obtain ⟨early, u, words, hsince, hearly, hu, hq⟩ := h
  exact ⟨early, u, words, hsince, hearly.trans (List.prefix_append acts more), hu, hq⟩

theorem Calm.earlier {more : List Act} (h : Calm start (acts ++ more)) : Calm start acts :=
  ⟨h.connected, fun a ha => h.acts a (List.mem_append_left more ha)⟩

theorem Sourced.later {outcome : Except Error Page} (h : Sourced start since acts r outcome)
    (reached : start.after acts = some s) (more : List Act) :
    Sourced start since (acts ++ more) r outcome := by
  cases h with
  | found read found =>
    refine .found (read.later more) ?_
    rw [State.exchanges_append reached]
    exact List.mem_append_left _ found
  | refused read => exact .refused fun calm => (read calm.earlier).later more

theorem SearchStage.Holds.later (h : stage.Holds start since acts r)
    (reached : start.after acts = some s) (more : List Act) :
    stage.Holds start since (acts ++ more) r := by
  cases stage with
  | execute g q => exact ResolvedSince.later h more
  | executed g p => exact ReadSince.later h more
  | compare | write | written | recheck | discard | land | answered =>
    exact Sourced.later h reached more
  | _ => trivial

/-! ### Steps of a search -/

/-- Where the words of a request are found, its query is ready or refused. -/
theorem holds_planned {words : List String} {g : UInt64} (reached : start.after acts = some s)
    (order : since <+: acts) (valid : r.validate = .ok ())
    (resolve : s.store.resolve r.query = .ok words) (planned : stage = State.planned g r words) :
    stage.Holds start since acts r := by
  unfold State.planned at planned
  split at planned
  · next e refuse =>
    subst planned
    refine .refused fun _ => ?_
    refine ⟨acts, acts, s, s, order, List.prefix_rfl, List.prefix_rfl, reached, reached, ?_⟩
    simp only [Store.searchAcross, valid, resolve, refuse, bind, Except.bind]
  · next q query =>
    subst planned
    exact ⟨acts, s, words, order, List.prefix_rfl, reached, valid, resolve, query⟩

theorem readSince_of_resolved {q : Query} (h : ResolvedSince start since acts r q)
    (reached : start.after acts = some s) : ReadSince start since acts r (s.store.execute q) := by
  obtain ⟨early, u, words, hsince, hearly, hu, valid, resolve, query⟩ := h
  refine ⟨early, acts, u, s, hsince, hearly, List.prefix_rfl, hu, reached, ?_⟩
  simp only [Store.searchAcross, valid, resolve, query, bind, Except.bind]

theorem readSince_of_rejected {e : Error} (reached : start.after acts = some s)
    (order : since <+: acts) (valid : r.validate = .ok ())
    (resolve : s.store.resolve r.query = .error e) : ReadSince start since acts r (.error e) := by
  refine ⟨acts, acts, s, s, order, List.prefix_rfl, List.prefix_rfl, reached, reached, ?_⟩
  simp only [Store.searchAcross, valid, resolve, bind, Except.bind]

theorem readSince_of_invalid {e : Error} (reached : start.after acts = some s)
    (order : since <+: acts) (validate : r.validate = .error e) :
    ReadSince start since acts r (.error e) := by
  refine ⟨acts, acts, s, s, order, List.prefix_rfl, List.prefix_rfl, reached, reached, ?_⟩
  simp only [Store.searchAcross, validate, bind, Except.bind]

theorem sourced_of_fault {e : Error} : Sourced start since (acts ++ [.step i (some e)]) r (.error e) := by
  refine .refused fun calm => ?_
  have hcalm := calm.acts _ (List.mem_append_right acts List.mem_cons_self)
  cases hcalm

/-- A step of a search leaves it with what the store gave, provided that the cache did so. -/
theorem holds_goes (reached : start.after acts = some s) (order : since <+: acts)
    (valid : stage = .validate ∨ r.validate = .ok ()) (stands : s.Stands i (.search r stage))
    (goes : Goes s i fault (.search r stage) (.search r stage') e)
    (hit : ∀ p, stage = .lookupAgain → s.cached r = some p → stage' = .land (.ok p) →
      Sourced start since acts r (.ok p))
    (h : stage.Holds start since acts r) :
    stage'.Holds start since (acts ++ [.step i fault]) r := by
  have hvalid : stage ≠ .validate → r.validate = .ok () := valid.resolve_left
  generalize htask : Task.search r stage' = t' at goes
  cases goes with
  | hitAgain cached =>
    cases htask
    exact (hit _ rfl cached rfl).later reached _
  | noteBlank blank =>
    have resolve : s.store.resolve r.query = .ok [] := by rw [Store.resolve, if_pos blank]
    have hplanned := holds_planned reached order (hvalid (by simp)) resolve (Task.search.inj htask).2
    exact hplanned.later reached _
  | resolve resolve =>
    have hplanned := holds_planned reached order (hvalid (by simp)) resolve (Task.search.inj htask).2
    exact hplanned.later reached _
  | rejectResolve resolve =>
    cases htask
    have hread := readSince_of_rejected reached order (hvalid (by simp)) resolve
    exact .refused fun _ => hread.later _
  | rejectExecute execute =>
    cases htask
    have hread := readSince_of_resolved h reached
    rw [execute] at hread
    exact .refused fun _ => hread.later _
  | execute execute =>
    cases htask
    have hread := readSince_of_resolved h reached
    rw [execute] at hread
    exact hread.later _
  | failResolve | failExecute | failExecuted =>
    cases htask
    exact sourced_of_fault
  | @executed r g p =>
    cases htask
    refine .found (ReadSince.later h _) ?_
    rw [State.exchanges_snoc reached]
    refine List.mem_append_right _ ?_
    have hexchange : s.exchange (.step i none) = some (.found r p) := by
      rw [State.exchange, show s.tasks[i]? = _ from stands]
      rfl
    rw [hexchange]
    exact List.mem_cons_self
  | fill | skip | failWrite | write | failWritten | written | keep | reject | failDiscard | discard =>
    cases htask
    exact Sourced.later h reached _
  | valid | failLookup | miss | lead | follow | failLookupAgain | missAgain | note =>
    cases htask
    trivial
  | invalid | hit | receive | land => cases htask

/-! ### Copies -/

theorem Sourced.isStorable (h : Sourced start since acts r (.ok p)) (storable : Storable start acts) :
    p.IsStorable := by
  cases h with
  | found read =>
    obtain ⟨early, late, u, v, -, -, hlate, -, hv, hanswer⟩ := read
    exact isStorable_of_searchAcross (storable late v hlate hv) hanswer.symm

theorem Sourced.copy {outcome : Except Error Page} (h : Sourced start since acts r outcome) :
    Sourced start since acts r (copyOutcome outcome) := by
  cases h with
  | found read found => exact .found read found
  | refused read =>
    refine .refused fun calm => ?_
    obtain ⟨early, late, u, v, -, -, -, hu, hv, hanswer⟩ := read calm
    have hclient := isClientError_searchAcross (connected_after calm.connected hu)
      (connected_after calm.connected hv) hanswer.symm
    rw [Error.replica, if_pos hclient]
    exact read calm

/-! ### A store with one commit -/

/-- What the store with one commit answers to a search for everything. -/
def onePage : Page := oneCommit.execute ⟨[], 20⟩

theorem isStorable_onePage : onePage.IsStorable := by
  have answer : (Store.memory oneCommit).searchAcross (.memory oneCommit) .all = .ok onePage := rfl
  exact isStorable_of_searchAcross ⟨oneCommit_dates, by decide⟩ answer

def laterCommit : Commit :=
  ⟨Calendar.Instant.ofSeconds 2, "b2", "fix", "", "c", "r", "p", false, false⟩

theorem laterCommit_storable : laterCommit.date.IsStorable := ⟨rfl, by decide⟩

/-- Only a store with one commit gives its page to a search for everything. -/
theorem commits_of_onePage (known : Contents) {stored : Contents}
    (h : (Store.memory known).searchAcross (.memory stored) .all = .ok onePage) :
    stored.commits.length = 1 := by
  have hcount : ∀ contents : Contents, (contents.execute ⟨[], 20⟩).total = contents.commits.length := by
    intro contents
    rw [contents.total_execute]
    exact congrFun List.countP_true _
  have hpage : stored.execute ⟨[], 20⟩ = onePage := Except.ok.inj h
  rw [← hcount, hpage, onePage, hcount]
  rfl

end Service
end CommitSearch
