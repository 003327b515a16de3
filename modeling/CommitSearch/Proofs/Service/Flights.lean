import CommitSearch.Proofs.Service.Freshness
import CommitSearch.Proofs.Service.Searches

/-!
# Flights of the service

A key is in flight exactly as long as one search leads it, and never more than one does. Whoever waits
is in the list of the flight of its key, and whoever is in that list and still searches has that key,
so that no outcome goes to a search of another key.
-/

namespace CommitSearch.Service

variable {s s' : State} {i j id : Nat} {a : Act} {t t' : Task} {e : Effect} {r : SearchRequest}
  {stage : SearchStage} {fault : Option Error} {key : String}

/-- A task leads the flight of a key. -/
def State.Leads (s : State) (id : Nat) (key : String) : Prop :=
  ∃ r stage, s.Stands id (.search r stage) ∧ stage.leads = true ∧ r.key = key

structure FlightFits (key : String) (s : State) : Prop where
  flight_iff : s.flights.has key = true ↔ ∃ i, s.Leads i key
  unique : ∀ {i j}, s.Leads i key → s.Leads j key → i = j
  queued : ∀ {i r}, s.Stands i (.search r .waiting) → r.key = key → i ∈ s.flights.waiting key
  waiters : ∀ {i}, i ∈ s.flights.waiting key →
    ∃ t, s.Stands i t ∧ ∀ r stage, t = .search r stage → r.key = key

/-! ### Leaders -/

/-- A search that leads after an act led before, or has just found its key free. -/
theorem leads_from (from_ : SearchFrom s i r a stage) (leads : stage.leads = true) :
    (∃ stage', s.Stands i (.search r stage') ∧ stage'.leads = true) ∨
      (s.Stands i (.search r .join) ∧ s.flights.has r.key = false ∧
        ∃ fault, a = .step i fault) := by
  cases from_ with
  | called | answered | rejoins => cases leads
  | stayed stands other => exact .inl ⟨stage, stands, leads⟩
  | moved stands goes =>
    cases goes with
    | lead free => exact .inr ⟨stands, free, _, rfl⟩
    | valid | failLookup | miss | follow => cases leads
    | _ => exact .inl ⟨_, stands, rfl⟩

/-- A leader leads on, unless it lands or is dropped. -/
theorem leads_on (hl : LockFits s) (hstep : Step s a s') (hi : s.Leads i key) :
    s'.Leads i key ∨ (∃ fault r outcome, a = .step i fault ∧ r.key = key ∧
      s.Stands i (.search r (.land outcome))) ∨ a = .drop i := by
  obtain ⟨r, stage, hs, leads, rfl⟩ := hi
  have hwaits : stage ≠ .waiting := by
    rintro rfl
    cases leads
  rcases stands_after hl hstep hs with ⟨fault, t', e, rfl, goes, hself⟩ | ⟨e, rfl, -, -⟩ |
    ⟨t', other, -, -⟩
  · cases goes with
    | land => exact .inr (.inl ⟨_, r, _, rfl, rfl, hs⟩)
    | invalid | valid | failLookup | hit | miss | lead | follow | receive => cases leads
    | noteBlank | resolve =>
      refine .inl ⟨r, _, hself, ?_, rfl⟩
      unfold State.planned
      split <;> rfl
    | _ => exact .inl ⟨r, _, hself, rfl, rfl⟩
  · exact .inr (.inr rfl)
  · exact .inl ⟨r, stage, search_stays hl hstep other hs hwaits, leads, rfl⟩

/-! ### Waiters -/

theorem waiter_later (hl : LockFits s) (hstep : Step s a s')
    (h : ∃ t, s.Stands i t ∧ ∀ r stage, t = .search r stage → r.key = key) :
    ∃ t, s'.Stands i t ∧ ∀ r stage, t = .search r stage → r.key = key := by
  obtain ⟨t, ht, hkey⟩ := h
  obtain ⟨t', ht'⟩ := stands_exists hl hstep ht
  refine ⟨t', ht', ?_⟩
  rintro r stage rfl
  obtain ⟨stage', rfl⟩ := same_request (searchFrom_of_step hl hstep ht') ht
  exact hkey r stage' rfl

/-- A search that waits after an act waited before, or has just found its key in flight. -/
theorem waits_from (from_ : SearchFrom s i r a .waiting) :
    s.Stands i (.search r .waiting) ∨ (s.Stands i (.search r .join) ∧
      s.flights.has r.key = true ∧ ∃ fault, a = .step i fault) := by
  generalize hstage : SearchStage.waiting = stage at from_
  cases from_ with
  | called | answered | rejoins => cases hstage
  | stayed stands other => exact .inl (hstage ▸ stands)
  | moved stands goes =>
    cases goes with
    | follow taken => exact .inr ⟨stands, taken, _, rfl⟩
    | noteBlank | resolve =>
      unfold State.planned at hstage
      split at hstage <;> cases hstage
    | _ => cases hstage

/-! ### Steps -/

theorem flights_unlock (s : State) : s.unlock.state.flights = s.flights := by
  unfold State.unlock
  split <;> rfl

/-- Nothing is to be shown but for leaders where the flights of a key stay. -/
theorem flightFits_of_same (hl : LockFits s) (h : FlightFits key s) (hstep : Step s a s')
    (has : s'.flights.has key = s.flights.has key)
    (waiting : s'.flights.waiting key = s.flights.waiting key)
    (leads : ∀ i, s'.Leads i key ↔ s.Leads i key)
    (waits : ∀ i r, r.key = key → s'.Stands i (.search r .waiting) →
      s.Stands i (.search r .waiting)) : FlightFits key s' := by
  constructor
  · rw [has, h.flight_iff]
    exact exists_congr fun i => (leads i).symm
  · intro i j hi hj
    exact h.unique ((leads i).1 hi) ((leads j).1 hj)
  · intro i r hs hk
    rw [waiting]
    exact h.queued (waits i r hk hs) hk
  · intro i hi
    rw [waiting] at hi
    exact waiter_later hl hstep (h.waiters hi)

/-- Leaders stay the same in an act by which none begins, lands or is dropped. -/
theorem leads_same (hl : LockFits s) (hstep : Step s a s')
    (joins : ∀ fault r, a = .step i fault → r.key = key → ¬ s.Stands i (.search r .join))
    (lands : ∀ fault r outcome, a = .step i fault → r.key = key →
      ¬ s.Stands i (.search r (.land outcome)))
    (drops : a = .drop i → ¬ s.Leads i key) : s'.Leads i key ↔ s.Leads i key := by
  constructor
  · rintro ⟨r, stage, hs, leads, hk⟩
    rcases leads_from (searchFrom_of_step hl hstep hs) leads with
      ⟨stage', hs', leads'⟩ | ⟨hj, -, fault, ha⟩
    · exact ⟨r, stage', hs', leads', hk⟩
    · exact absurd hj (joins fault r ha hk)
  · intro hi
    rcases leads_on hl hstep hi with hlater | ⟨fault, r, outcome, ha, hk, hs⟩ | ha
    · exact hlater
    · exact absurd hs (lands fault r outcome ha hk)
    · exact absurd hi (drops ha)

/-- A flight of another key begins, takes a waiter or is over. -/
theorem flightFits_of_other (hl : LockFits s) (h : FlightFits key s) (hstep : Step s a s')
    (has : s'.flights.has key = s.flights.has key)
    (waiting : s'.flights.waiting key = s.flights.waiting key)
    (own : ∀ i, a.IsOf i → ∃ r stage, s.Stands i (.search r stage) ∧ r.key ≠ key) :
    FlightFits key s' := by
  have hnot : ∀ {i r stage}, a.IsOf i → r.key = key → ¬ s.Stands i (.search r stage) := by
    intro i r stage hof hk hs
    obtain ⟨q, stage', hq, hne⟩ := own i hof
    cases hs.inj hq
    exact hne hk
  refine flightFits_of_same hl h hstep has waiting (fun i => leads_same hl hstep ?_ ?_ ?_) ?_
  · rintro fault r rfl hk
    exact hnot rfl hk
  · rintro fault r outcome rfl hk
    exact hnot rfl hk
  · rintro rfl ⟨r, stage, hs, -, hk⟩
    exact hnot rfl hk hs
  · intro i r hk hs
    rcases waits_from (searchFrom_of_step hl hstep hs) with hold | ⟨hj, -, fault, rfl⟩
    · exact hold
    · exact absurd hj (hnot rfl hk)

theorem flightFits_begin (hl : LockFits s) (h : FlightFits key s) (stands : s.Stands id (.search r .join))
    (goes : Goes s id fault (.search r .join) (.search r .lookupAgain) (.begin r.key))
    (free : s.flights.has r.key = false) (hk : r.key = key) :
    FlightFits key ((Effect.begin r.key).apply (s.place id (.search r .lookupAgain)) id) := by
  subst hk
  have hstep := Step.go stands goes
  have hself := stands_goes_self hl stands goes
  have hnone : ∀ i, ¬ s.Leads i r.key := by
    intro i hi
    rw [h.flight_iff.2 ⟨i, hi⟩] at free
    cases free
  have honly : ∀ i, State.Leads ((Effect.begin r.key).apply (s.place id (.search r .lookupAgain)) id)
      i r.key → i = id := by
    rintro i ⟨q, stage, hs, leads, hk⟩
    rcases leads_from (searchFrom_of_step hl hstep hs) leads with ⟨st, hst, l⟩ | ⟨-, -, _, ha⟩
    · exact absurd ⟨q, st, hst, l, hk⟩ (hnone i)
    · cases ha
      rfl
  constructor
  · have hhas := (Flights.has_begin s.flights r.key r.key).2 (.inr rfl)
    exact ⟨fun _ => ⟨id, r, _, hself, rfl, rfl⟩, fun _ => hhas⟩
  · intro i j hi hj
    rw [honly i hi, honly j hj]
  · intro i q hs hq
    show i ∈ (s.flights.begin r.key).waiting r.key
    rw [Flights.waiting_begin]
    rcases waits_from (searchFrom_of_step hl hstep hs) with hold | ⟨hj, taken, _, ha⟩
    · exact h.queued hold hq
    · cases ha
      cases hj.inj stands
      rw [free] at taken
      cases taken
  · intro i hi
    have hold : i ∈ (s.flights.begin r.key).waiting r.key := hi
    rw [Flights.waiting_begin] at hold
    exact waiter_later hl hstep (h.waiters hold)

theorem flightFits_wait (hl : LockFits s) (h : FlightFits key s) (stands : s.Stands id (.search r .join))
    (goes : Goes s id fault (.search r .join) (.search r .waiting) (.wait r.key))
    (taken : s.flights.has r.key = true) (hk : r.key = key) :
    FlightFits key ((Effect.wait r.key).apply (s.place id (.search r .waiting)) id) := by
  subst hk
  have hstep := Step.go stands goes
  have hself := stands_goes_self hl stands goes
  have hmem : ∀ w, w ∈ (s.flights.wait r.key id).waiting r.key ↔
      w ∈ s.flights.waiting r.key ∨ (w = id ∧ s.flights.has r.key = true) :=
    Flights.mem_waiting_wait s.flights r.key id
  have hleads : ∀ i, State.Leads ((Effect.wait r.key).apply (s.place id (.search r .waiting)) id)
      i r.key ↔ s.Leads i r.key := by
    intro i
    constructor
    · rintro ⟨q, stage, hs, leads, hk⟩
      rcases leads_from (searchFrom_of_step hl hstep hs) leads with ⟨st, hst, l⟩ | ⟨-, free, _, -⟩
      · exact ⟨q, st, hst, l, hk⟩
      · rw [hk, taken] at free
        cases free
    · intro hi
      rcases leads_on hl hstep hi with hlater | ⟨_, q, o, ha, -, hs⟩ | ha
      · exact hlater
      · cases ha
        cases hs.inj stands
      · cases ha
  constructor
  · rw [show State.flights _ = s.flights.wait r.key id from rfl, Flights.has_wait, h.flight_iff]
    exact exists_congr fun i => (hleads i).symm
  · intro i j hi hj
    exact h.unique ((hleads i).1 hi) ((hleads j).1 hj)
  · intro i q hs hq
    refine (hmem i).2 ?_
    rcases waits_from (searchFrom_of_step hl hstep hs) with hold | ⟨-, -, _, ha⟩
    · exact .inl (h.queued hold hq)
    · cases ha
      exact .inr ⟨rfl, taken⟩
  · intro i hi
    rcases (hmem i).1 hi with hold | ⟨rfl, -⟩
    · exact waiter_later hl hstep (h.waiters hold)
    · refine ⟨_, hself, ?_⟩
      rintro q stage heq
      cases heq
      rfl

/-- The only leader of a key is gone, and its flight is over. -/
theorem flightFits_close (hl : LockFits s) (h : FlightFits key s) (hstep : Step s a s')
    (leader : s.Leads id key) (gone : ¬ s'.Leads id key) (hid : a.IsOf id)
    (hjoin : ∀ r, ¬ s.Stands id (.search r .join))
    (flights : s'.flights = s.flights.close key)
    (waits : ∀ i r, s'.Stands i (.search r .waiting) → r.key = key → False) :
    FlightFits key s' := by
  have hnone : ∀ i, ¬ s'.Leads i key := by
    rintro i ⟨r, stage, hs, leads, hk⟩
    rcases leads_from (searchFrom_of_step hl hstep hs) leads with ⟨st, hst, l⟩ | ⟨hj, -, _, ha⟩
    · have heq := h.unique ⟨r, st, hst, l, hk⟩ leader
      subst heq
      exact gone ⟨r, stage, hs, leads, hk⟩
    · subst ha
      obtain rfl : i = id := hid
      exact hjoin r hj
  constructor
  · rw [flights]
    constructor
    · intro hhas
      exact absurd rfl ((Flights.has_close s.flights key key).1 hhas).2
    · rintro ⟨i, hi⟩
      exact absurd hi (hnone i)
  · intro i j hi
    exact absurd hi (hnone i)
  · intro i r hs hk
    exact (waits i r hs hk).elim
  · intro i hi
    rw [flights, Flights.waiting_close] at hi
    cases hi

theorem flightFits_of_still (hl : LockFits s) (h : FlightFits key s) (hstep : Step s a s')
    (flights : s'.flights = s.flights)
    (joins : ∀ i fault, a = .step i fault → ∀ r, ¬ s.Stands i (.search r .join))
    (lands : ∀ i fault, a = .step i fault → ∀ r outcome, ¬ s.Stands i (.search r (.land outcome)))
    (drops : ∀ i, a = .drop i → ¬ s.Leads i key) : FlightFits key s' := by
  refine flightFits_of_same hl h hstep (by rw [flights]) (by rw [flights]) (fun i => ?_) ?_
  · exact leads_same hl hstep (fun fault r ha _ => joins i fault ha r)
      (fun fault r outcome ha _ => lands i fault ha r outcome) (drops i)
  · intro i r hk hs
    rcases waits_from (searchFrom_of_step hl hstep hs) with hold | ⟨hj, -, fault, ha⟩
    · exact hold
    · exact absurd hj (joins i fault ha r)

theorem flightFits_goes (hl : LockFits s) (h : FlightFits key s) (stands : s.Stands id t)
    (goes : Goes s id fault t t' e) : FlightFits key (e.apply (s.place id t') id) := by
  have hstep := Step.go stands goes
  have hself := stands_goes_self hl stands goes
  -- All that the step needs to be where flights stay: it is neither a joining nor a landing.
  have hstill : ∀ {s₂}, Step s (.step id fault) s₂ → s₂.flights = s.flights →
      (∀ r, t ≠ .search r .join) → (∀ r o, t ≠ .search r (.land o)) → FlightFits key s₂ := by
    intro s₂ hstep flights joins lands
    refine flightFits_of_still hl h hstep flights ?_ ?_ ?_
    · rintro i f ⟨⟩ r hs
      exact joins r (stands.inj hs)
    · rintro i f ⟨⟩ r o hs
      exact lands r o (stands.inj hs)
    · rintro i ⟨⟩
  -- A flight that begins, takes a waiter or is over is that of the search's key alone.
  have hother : ∀ {r stage}, t = .search r stage → r.key ≠ key → ∀ i, Act.IsOf i (.step id fault) →
      ∃ q stage, s.Stands i (.search q stage) ∧ q.key ≠ key := by
    rintro r stage rfl hne i rfl
    exact ⟨r, stage, stands, hne⟩
  cases goes with
  | @lead fault r free =>
    by_cases hk : r.key = key
    · have hlead : Goes s id fault (.search r .join) (.search r .lookupAgain) (.begin r.key) :=
        .lead free
      exact flightFits_begin hl h stands hlead free hk
    · refine flightFits_of_other hl h hstep ?_ (Flights.waiting_begin _ _ _) (hother rfl hk)
      refine Bool.eq_iff_iff.2 ((Flights.has_begin s.flights r.key key).trans ?_)
      exact or_iff_left (Ne.symm hk)
  | @follow fault r taken =>
    by_cases hk : r.key = key
    · have hfollow : Goes s id fault (.search r .join) (.search r .waiting) (.wait r.key) :=
        .follow taken
      exact flightFits_wait hl h stands hfollow taken hk
    · exact flightFits_of_other hl h hstep (Flights.has_wait _ _ _ _)
        (Flights.waiting_wait_of_ne (Ne.symm hk) _ _) (hother rfl hk)
  | @land fault r outcome =>
    by_cases hk : r.key = key
    · subst hk
      refine flightFits_close hl h hstep ⟨r, _, stands, rfl, rfl⟩ ?_ rfl ?_ rfl ?_
      · rintro ⟨q, stage, hs, -, -⟩
        cases hself.inj hs
      · intro q hs
        cases stands.inj hs
      · intro i q hs hq
        have hw : i ∈ s.flights.waiting r.key := by
          rcases waits_from (searchFrom_of_step hl hstep hs) with hold | ⟨hj, -, _, ha⟩
          · exact h.queued hold hq
          · cases ha
            cases stands.inj hj
        rcases search_of_closeFlight hs with ⟨-, hne⟩ | ⟨-, -, heq⟩
        · exact hne hw rfl
        · cases heq
    · refine flightFits_of_other hl h hstep ?_
        (Flights.waiting_close_of_ne (Ne.symm hk) _) (hother rfl hk)
      refine Bool.eq_iff_iff.2 ((Flights.has_close s.flights r.key key).trans ?_)
      exact and_iff_left (Ne.symm hk)
  | failRebuild | rejectRebuild =>
    exact hstill hstep (flights_unlock _) (by simp) (by simp)
  | finish => exact hstill hstep (flights_unlock _) (by simp) (by simp)
  | _ => exact hstill hstep rfl (by simp) (by simp)

theorem flightFits_drop (hl : LockFits s) (h : FlightFits key s) (stands : s.Stands id t)
    (gives : GivesUp s id t e) : FlightFits key (e.apply (s.place id .dropped) id) := by
  have hstep := Step.drop stands gives
  have hself := stands_drop_self hl stands gives
  have hstill : ∀ {s₂}, Step s (.drop id) s₂ → s₂.flights = s.flights →
      (∀ r stage, t = .search r stage → stage.leads = false) → FlightFits key s₂ := by
    intro s₂ hstep flights follows
    refine flightFits_of_still hl h hstep flights (by rintro i f ⟨⟩) (by rintro i f ⟨⟩) ?_
    rintro i ⟨⟩ ⟨r, stage, hs, leads, -⟩
    rw [follows r stage (stands.inj hs)] at leads
    cases leads
  cases gives with
  | @lead r stage leads =>
    by_cases hk : r.key = key
    · subst hk
      refine flightFits_close hl h hstep ⟨r, _, stands, leads, rfl⟩ ?_ rfl ?_ rfl ?_
      · rintro ⟨q, stage, hs, -, -⟩
        cases hself.inj hs
      · intro q hs
        cases stands.inj hs
        cases leads
      · intro i q hs hq
        have hw : i ∈ s.flights.waiting r.key := by
          rcases waits_from (searchFrom_of_step hl hstep hs) with hold | ⟨-, -, _, ha⟩
          · exact h.queued hold hq
          · cases ha
        rcases search_of_closeFlight hs with ⟨-, hne⟩ | ⟨-, -, heq⟩
        · exact hne hw rfl
        · cases heq
    · refine flightFits_of_other hl h hstep ?_ (Flights.waiting_close_of_ne (Ne.symm hk) _) ?_
      · refine Bool.eq_iff_iff.2 ((Flights.has_close s.flights r.key key).trans ?_)
        exact and_iff_left (Ne.symm hk)
      · rintro i rfl
        exact ⟨r, stage, stands, hk⟩
  | follow follows =>
    refine hstill hstep rfl ?_
    rintro r stage ⟨⟩
    exact follows
  | rebuild | swap | invalidate => exact hstill hstep (flights_unlock _) (by simp)
  | _ => exact hstill hstep rfl (by simp)

theorem flightFits_step (hl : LockFits s) (h : FlightFits key s) (hstep : Step s a s') :
    FlightFits key s' := by
  cases hstep with
  | call call => exact flightFits_of_still hl h (.call call) rfl (by simp) (by simp) (by simp)
  | go stands goes => exact flightFits_goes hl h stands goes
  | drop stands gives => exact flightFits_drop hl h stands gives
  | wait duration => exact flightFits_of_still hl h (.wait duration) rfl (by simp) (by simp) (by simp)

/-- Nobody leads and nobody waits where no call is in progress. -/
theorem flightFits_of_quiet (quiet : s.Quiet) (free : s.flights.has key = false) :
    FlightFits key s := by
  have hnone : ∀ {i r stage}, ¬ s.Stands i (.search r stage) := by
    intro i r stage hs
    cases quiet _ hs.mem
  constructor
  · rw [free]
    constructor
    · intro h
      cases h
    · rintro ⟨i, r, stage, hs, -⟩
      exact absurd hs hnone
  · rintro i j ⟨r, stage, hs, -⟩
    exact absurd hs hnone
  · intro i r hs
    exact absurd hs hnone
  · intro i hi
    rw [Flights.waiting_eq_nil free] at hi
    cases hi

theorem Run.flightFits {start : State} {acts : List Act} {count : Nat}
    (run : Run start acts count s) (hl : LockFits start) (h : FlightFits key start) :
    FlightFits key s := by
  induction run with
  | nothing => exact h
  | act run next ih => exact flightFits_step (run.lockFits hl) ih (step_of_act next)

theorem flightFits_run {store : Store} {acts : List Act} {count : Nat}
    (run : Run (fresh store) acts count s) (key : String) : FlightFits key s :=
  run.flightFits (lockFits_fresh store) (flightFits_of_quiet (fun t ht => by cases ht) rfl)

end CommitSearch.Service
