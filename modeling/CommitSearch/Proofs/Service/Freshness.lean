import CommitSearch.Proofs.Commit.RoundTrip
import CommitSearch.Proofs.Service.Effects
import CommitSearch.Proofs.Store.Ingestion

/-!
# Cached results are fresh

A fill is reliable while the generation that it noted is the present one and no task is dirty: from
its noting on the store was the same. An entry can be outdated only as long as something is pending
that will remove it: a dirty task, a sweep, or the search that wrote it and that finds the generation
moved on. When all tasks are over, nothing is pending.
-/

namespace CommitSearch.Service

/-- A generation that the service had after at most `count` moves. -/
def Noted (count : Nat) (g : UInt64) : Prop := ∃ n ≤ count, g = UInt64.ofNat n

/-- Some task has changed the store and has yet to move the generation on. -/
def State.Dirty (s : State) : Prop := ∃ t ∈ s.tasks, t.isDirty = true

/-- What was read under a noted generation is what would be read now. -/
structure Reliable (s : State) (g : UInt64) : Prop where
  current : g = s.generation
  clean : ¬ s.Dirty

/-- A task that will have the result of a request removed from the cache. -/
inductive Pending (s : State) (r : SearchRequest) : Task → Prop
  | dirty {t : Task} (dirty : t.isDirty = true) : Pending s r t
  | sweep : Pending s r .sweep
  | written {g : UInt64} {p : Page} (outdated : g ≠ s.generation) :
    Pending s r (.search r (.written g p))
  | recheck {g : UInt64} {p : Page} (outdated : g ≠ s.generation) :
    Pending s r (.search r (.recheck g p))
  | discard {p : Page} : Pending s r (.search r (.discard p))

/-- Nothing that concerns the result of a request is pending. -/
def Settled (s : State) (r : SearchRequest) : Prop := ∀ t ∈ s.tasks, ¬ Pending s r t

/-- A page whose dates are storable and that counts no more commits than there are. -/
structure Drawn (s : State) (p : Page) : Prop where
  dates : ∀ c ∈ p.commits, c.date.IsStorable
  total : p.total ≤ s.store.commits.length

/-- A page that was read for a request under a noted generation. -/
structure ReadUnder (count : Nat) (s : State) (r : SearchRequest) (g : UInt64) (p : Page) :
    Prop where
  noted : Noted count g
  drawn : Drawn s p
  agrees : Reliable s g → s.store.search r = .ok p

def SearchStage.Fits (count : Nat) (s : State) (r : SearchRequest) : SearchStage → Prop
  | .resolve g => Noted count g
  | .execute g q => Noted count g ∧ (Reliable s g → s.store.search r = s.store.execute q)
  | .executed g p | .compare g p | .write g p | .written g p | .recheck g p =>
    ReadUnder count s r g p
  | _ => True

/-- A search was called, is valid once it is checked, and holds what fits. -/
structure SearchFits (acts : List Act) (count : Nat) (s : State) (r : SearchRequest)
    (stage : SearchStage) : Prop where
  called : .call (.search r) ∈ acts
  valid : stage = .validate ∨ r.validate = .ok ()
  fits : stage.Fits count s r

def Task.Fits (acts : List Act) (count : Nat) (s : State) : Task → Prop
  | .save (.accept c) | .save (.insert c) => c.date.IsStorable
  | .search r stage => SearchFits acts count s r stage
  | _ => True

/-- No other request that was called shares the key of this one. -/
def Alone (acts : List Act) (r : SearchRequest) : Prop :=
  ∀ r', .call (.search r') ∈ acts → r'.key = r.key → r' = r

/-- An entry holds a page, which is the answer of the store unless its removal is pending. -/
structure EntryFits (s : State) (r : SearchRequest) (entry : CacheEntry) (p : Page) : Prop where
  value : entry.value = p.encode
  drawn : Drawn s p
  agrees : Settled s r → s.store.search r = .ok p

def SavesStorable (acts : List Act) : Prop :=
  ∀ c, .call (.save c) ∈ acts → c.date.IsStorable

/-- No call is in progress and no sweep is pending. -/
def State.Quiet (s : State) : Prop := ∀ t ∈ s.tasks, t.isOver = true

/-- What holds throughout a run of the service. -/
structure Faithful (acts : List Act) (count : Nat) (s : State) : Prop where
  lock : LockFits s
  generation : s.generation = UInt64.ofNat count
  dates : ∀ c ∈ s.store.commits, c.date.IsStorable
  tasks : ∀ t ∈ s.tasks, t.Fits acts count s
  entries : ∀ r, Alone acts r → ∀ entry ∈ s.cache.entries, entry.key = r.key →
    ∃ p, EntryFits s r entry p

/-! ### Noted generations -/

theorem Noted.mono {count count' : Nat} {g : UInt64} (h : Noted count g) (hle : count ≤ count') :
    Noted count' g := by
  obtain ⟨n, hn, rfl⟩ := h
  exact ⟨n, Nat.le_trans hn hle, rfl⟩

/-- A generation that was noted before the last move does not come back. -/
theorem Noted.ne_later {count : Nat} {g : UInt64} (h : Noted count g) (hlt : count + 1 < 2 ^ 64) :
    g ≠ UInt64.ofNat (count + 1) := by
  obtain ⟨n, hn, rfl⟩ := h
  intro he
  have hnat := congrArg UInt64.toNat he
  rw [UInt64.toNat_ofNat_of_lt' (by show n < 2 ^ 64; omega),
    UInt64.toNat_ofNat_of_lt' hlt] at hnat
  omega

/-! ### What a step leaves as it was -/

/-- One state of the service comes after another, as far as what was noted and read is concerned. -/
structure Advances (count : Nat) (s : State) (count' : Nat) (s' : State) : Prop where
  count_le : count ≤ count'
  commits_le : s.store.commits.length ≤ s'.store.commits.length
  reliable : ∀ g, Noted count g → Reliable s' g → Reliable s g ∧ s'.store = s.store
  outdated : ∀ g, Noted count g → g ≠ s.generation → g ≠ s'.generation

variable {acts : List Act} {count count' : Nat} {s s' : State} {id : Nat} {t t' : Task}
variable {r : SearchRequest} {e : Effect}

theorem Drawn.later {p : Page} (h : Drawn s p) (adv : Advances count s count' s') : Drawn s' p :=
  ⟨h.dates, Nat.le_trans h.total adv.commits_le⟩

theorem ReadUnder.later {g : UInt64} {p : Page} (h : ReadUnder count s r g p)
    (adv : Advances count s count' s') : ReadUnder count' s' r g p := by
  refine ⟨h.noted.mono adv.count_le, h.drawn.later adv, fun hr => ?_⟩
  obtain ⟨hold, hstore⟩ := adv.reliable g h.noted hr
  rw [hstore]
  exact h.agrees hold

theorem SearchStage.Fits.later {stage : SearchStage} (h : stage.Fits count s r)
    (adv : Advances count s count' s') : stage.Fits count' s' r := by
  cases stage with
  | resolve g => exact Noted.mono h adv.count_le
  | execute g q =>
    obtain ⟨hnoted, hagrees⟩ := h
    refine ⟨hnoted.mono adv.count_le, fun hr => ?_⟩
    obtain ⟨hold, hstore⟩ := adv.reliable g hnoted hr
    rw [hstore]
    exact hagrees hold
  | executed | compare | write | written | recheck => exact ReadUnder.later h adv
  | _ => trivial

theorem Task.Fits.later (h : t.Fits acts count s) (adv : Advances count s count' s')
    {acts' : List Act} (hacts : ∀ a ∈ acts, a ∈ acts') : t.Fits acts' count' s' := by
  cases t with
  | search r stage => exact ⟨hacts _ h.called, h.valid, h.fits.later adv⟩
  | save stage => cases stage <;> exact h
  | _ => trivial

theorem Nudged.fits (hn : Nudged t t') (h : t.Fits acts count s) : t'.Fits acts count s := by
  cases hn with
  | same => exact h
  | answered r outcome => exact ⟨h.called, .inr (h.valid.resolve_left (by simp)), trivial⟩
  | rejoins r => exact ⟨h.called, .inr (h.valid.resolve_left (by simp)), trivial⟩
  | locked => trivial

theorem Nudged.eq_of_dirty (hn : Nudged t t') (h : t.isDirty = true) : t' = t := by
  cases hn with
  | same => rfl
  | _ => cases h

theorem Pending.fixed (h : Pending s r t) (u : Task) (hn : Nudged t u) : u = t := by
  cases h with
  | dirty h => exact hn.eq_of_dirty h
  | _ => cases hn; rfl

theorem Pending.later (h : Pending s r t) (ht : t.Fits acts count s)
    (adv : Advances count s count' s') : Pending s' r t := by
  cases h with
  | dirty h => exact .dirty h
  | sweep => exact .sweep
  | written h => exact .written (adv.outdated _ ht.fits.noted h)
  | recheck h => exact .recheck (adv.outdated _ ht.fits.noted h)
  | discard => exact .discard

theorem advances_goes (hl : LockFits s) (hg : s.generation = UInt64.ofNat count)
    (hlt : count + (if t.isDirty then 1 else 0) < 2 ^ 64) (stands : s.Stands id t)
    {fault : Option Error} (goes : Goes s id fault t t' e) :
    Advances count s (count + if t.isDirty then 1 else 0) (e.apply (s.place id t') id) := by
  have hgeneration := generation_goes goes
  -- Without an overflow, no generation that was noted is the one after a move.
  have hlater : ∀ g, Noted count g → t.isDirty = true →
      g ≠ (e.apply (s.place id t') id).generation := by
    intro g hnoted hdirty
    rw [if_pos hdirty] at hlt
    rw [hgeneration, if_pos hdirty, hg]
    have hne := hnoted.ne_later hlt
    rwa [UInt64.ofNat_add] at hne
  have hsame : t.isDirty = false → (e.apply (s.place id t') id).generation = s.generation := by
    intro hclean
    rw [hgeneration, if_neg (by simp [hclean]), UInt64.add_zero]
  constructor
  · omega
  · rcases commits_goes goes with h | ⟨c, -, h⟩
    · exact Nat.le_of_eq (congrArg List.length h.symm)
    · rw [h, List.length_append]
      omega
  · intro g hnoted hr
    have hclean : t.isDirty = false := by
      rw [Bool.eq_false_iff]
      intro hdirty
      exact hlater g hnoted hdirty hr.current
    refine ⟨⟨hr.current.trans (hsame hclean), ?_⟩, ?_⟩
    · rintro ⟨u, hu, hdirty⟩
      obtain ⟨i, hi⟩ := stands_of_mem hu
      have hne : i ≠ id := by
        rintro rfl
        rw [hi.inj stands, hclean] at hdirty
        cases hdirty
      exact hr.clean
        ⟨u, stays_goes hl stands goes hne hi fun v hn => hn.eq_of_dirty hdirty, hdirty⟩
    · rcases store_goes goes with h | hdirty
      · exact h
      · exact absurd ⟨t', moved_goes hl stands goes fun v hn => hn.eq_of_dirty hdirty, hdirty⟩
          hr.clean
  · intro g hnoted hne
    by_cases hdirty : t.isDirty = true
    · exact hlater g hnoted hdirty
    · rw [hsame (Bool.eq_false_iff.2 hdirty)]
      exact hne

/-! ### What a step makes of its task -/

theorem SearchFits.isValid {stage : SearchStage} (h : SearchFits acts count s r stage)
    (hs : stage ≠ .validate) : r.validate = .ok () := h.valid.resolve_left hs

theorem search_eq_execute {store : Store} {words : List String} {q : Query}
    (valid : r.validate = .ok ()) (resolve : store.resolve r.query = .ok words)
    (query : Store.queryOf r words = .ok q) : store.search r = store.execute q := by
  simp only [Store.search, valid, resolve, query, bind, Except.bind]

theorem fits_planned {g : UInt64} {words : List String} (called : .call (.search r) ∈ acts)
    (valid : r.validate = .ok ()) (noted : Noted count g)
    (resolve : Reliable s g → s.store.resolve r.query = .ok words) :
    SearchFits acts count s r (State.planned g r words) := by
  refine ⟨called, .inr valid, ?_⟩
  unfold State.planned
  split
  · trivial
  · next query => exact ⟨noted, fun hr => search_eq_execute valid (resolve hr) query⟩

theorem fits_goes (hg : s.generation = UInt64.ofNat count)
    (dates : ∀ c ∈ s.store.commits, c.date.IsStorable) {fault : Option Error}
    (goes : Goes s id fault t t' e) (h : t.Fits acts count s) : t'.Fits acts count s := by
  have hnoted : Noted count s.generation := ⟨count, Nat.le_refl count, hg⟩
  cases goes with
  | accept check =>
    show Calendar.Instant.IsStorable _
    rw [date_of_accept check]
    exact h
  | valid validate => exact ⟨h.called, .inr validate, trivial⟩
  | noteBlank blank =>
    refine fits_planned h.called (h.isValid (by simp)) hnoted fun _ => ?_
    rw [Store.resolve, if_pos blank]
  | note => exact ⟨h.called, .inr (h.isValid (by simp)), hnoted⟩
  | resolve resolve =>
    exact fits_planned h.called (h.isValid (by simp)) h.fits fun _ => resolve
  | execute execute =>
    obtain ⟨hdates, htotal⟩ := Store.page_of_execute execute
    refine ⟨h.called, .inr (h.isValid (by simp)), h.fits.1, ⟨fun c hc => dates c (hdates c hc), htotal⟩,
      fun hr => ?_⟩
    rw [h.fits.2 hr, execute]
  | executed | fill | write | written => exact ⟨h.called, .inr (h.isValid (by simp)), h.fits⟩
  | failLookup | miss | lead | follow | failLookupAgain | hitAgain | missAgain | failResolve
  | rejectResolve | failExecute | rejectExecute | failExecuted | skip | failWrite | failWritten
  | keep | reject | failDiscard | discard =>
    exact ⟨h.called, .inr (h.isValid (by simp)), trivial⟩
  | _ => trivial

/-! ### Removal -/

/-- What is pending stays so until the result is gone from the cache. -/
theorem pending_goes (hl : LockFits s) (stands : s.Stands id t) (goes : Goes s id none t t' e)
    (adv : Advances count s count' (e.apply (s.place id t') id))
    (tasks : ∀ u ∈ s.tasks, u.Fits acts count s) {u : Task} (hu : u ∈ s.tasks)
    (pending : Pending s r u) :
    (∃ u' ∈ (e.apply (s.place id t') id).tasks, Pending (e.apply (s.place id t') id) r u') ∨
      ∀ entry ∈ (e.apply (s.place id t') id).cache.entries, entry.key ≠ r.key := by
  have hlater := pending.later (tasks u hu) adv
  obtain ⟨i, hi⟩ := stands_of_mem hu
  by_cases hne : i = id
  · subst hne
    obtain rfl := hi.inj stands
    have hmoved : ∀ {v : Task}, t' = v → Pending (e.apply (s.place i t') i) r v →
        ∃ u' ∈ (e.apply (s.place i t') i).tasks, Pending (e.apply (s.place i t') i) r u' := by
      rintro v rfl hv
      exact ⟨t', moved_goes hl stands goes hv.fixed, hv⟩
    cases pending with
    | dirty hdirty => exact .inl ⟨.sweep, sweep_goes hl stands goes hdirty, .sweep⟩
    | sweep =>
      cases goes
      exact .inr fun entry hm => not_mem_deletePattern_search r hm
    | written outdated =>
      cases hlater with
      | dirty hdirty => cases hdirty
      | written later =>
        cases goes
        exact .inl (hmoved rfl (.recheck later))
    | recheck outdated =>
      cases goes with
      | keep current => exact absurd current.symm outdated
      | reject => exact .inl (hmoved rfl .discard)
    | discard =>
      cases goes
      exact .inr fun entry hm => not_mem_deletePattern_key r hm
  · exact .inl ⟨u, stays_goes hl stands goes hne hi pending.fixed, hlater⟩

theorem Settled.clean (h : Settled s r) : ¬ s.Dirty := by
  rintro ⟨t, ht, hdirty⟩
  exact h t ht (.dirty hdirty)

theorem entry_goes (hl : LockFits s) (stands : s.Stands id t) (goes : Goes s id none t t' e)
    (adv : Advances count s count' (e.apply (s.place id t') id))
    (tasks : ∀ u ∈ s.tasks, u.Fits acts count s) (alone : Alone acts r) {entry : CacheEntry}
    (hm : entry ∈ (e.apply (s.place id t') id).cache.entries) (hk : entry.key = r.key)
    (old : entry ∈ s.cache.entries → ∃ p, EntryFits s r entry p) :
    ∃ p, EntryFits (e.apply (s.place id t') id) r entry p := by
  rcases cache_goes goes hm with hold | ⟨r', g, p, rfl, rfl, hkey, hvalue⟩
  · obtain ⟨p, hp⟩ := old hold
    refine ⟨p, hp.value, hp.drawn.later adv, fun settled => ?_⟩
    -- What was pending before the step is so still, since the entry is there still.
    have hsettled : Settled s r := by
      intro u hu pending
      rcases pending_goes hl stands goes adv tasks hu pending with ⟨u', hu', hp'⟩ | hgone
      · exact settled u' hu' hp'
      · exact hgone entry hm hk
    rcases store_goes goes with hstore | hdirty
    · rw [hstore]
      exact hp.agrees hsettled
    · exact absurd ⟨t', moved_goes hl stands goes fun v hn => hn.eq_of_dirty hdirty, hdirty⟩
        settled.clean
  · have hread : SearchFits acts count s r' (.write g p) := tasks _ stands.mem
    obtain rfl := alone r' hread.called (hkey.symm.trans hk)
    have hlater : ReadUnder count' _ r' g p := ReadUnder.later hread.fits adv
    refine ⟨p, hvalue, hlater.drawn, fun settled => hlater.agrees ⟨?_, settled.clean⟩⟩
    -- The search that wrote an outdated page is pending itself: it has yet to compare again.
    by_contra outdated
    exact settled _ (moved_goes hl stands goes fun v hn => by cases hn; rfl) (.written outdated)

/-! ### Runs -/

theorem faithful_goes (h : Faithful acts count s) (stands : s.Stands id t)
    (goes : Goes s id none t t' e) (hlt : count + (if t.isDirty then 1 else 0) < 2 ^ 64)
    {acts' : List Act} (hacts : ∀ a ∈ acts, a ∈ acts') :
    Faithful acts' (count + if t.isDirty then 1 else 0) (e.apply (s.place id t') id) := by
  have adv := advances_goes h.lock h.generation hlt stands goes
  have hmoved := fits_goes h.generation h.dates goes (h.tasks t stands.mem)
  constructor
  · exact lockFits_goes h.lock stands goes
  · rw [generation_goes goes, h.generation, UInt64.ofNat_add]
    split <;> rfl
  · intro c hc
    rcases commits_goes goes with hsame | ⟨d, rfl, hadded⟩
    · rw [hsame] at hc
      exact h.dates c hc
    · rw [hadded] at hc
      rcases List.mem_append.1 hc with hc | hc
      · exact h.dates c hc
      · rw [List.mem_singleton.1 hc]
        exact h.tasks _ stands.mem
  · intro u' hu'
    obtain ⟨i, hi⟩ := stands_of_mem hu'
    rcases (nudges_goes h.lock stands goes).back i u' hi with rfl | ⟨u, hu, hn⟩
    · trivial
    · have hfits : u.Fits acts count s := by
        rcases (stands_place stands t' i u).1 hu with ⟨-, rfl⟩ | ⟨-, hold⟩
        · exact hmoved
        · exact h.tasks u hold.mem
      exact (hn.fits hfits).later adv hacts
  · intro r alone entry hm hk
    have hold : Alone acts r := fun r' hr' => alone r' (hacts _ hr')
    exact entry_goes h.lock stands goes adv h.tasks hold hm hk fun ho =>
      h.entries r hold entry ho hk

/-- What neither touches the store, the generation nor the cache, and only adds tasks. -/
theorem faithful_still (h : Faithful acts count s) {acts' : List Act}
    (hacts : ∀ a ∈ acts, a ∈ acts') (lock : LockFits s') (store : s'.store = s.store)
    (generation : s'.generation = s.generation) (cache : s'.cache = s.cache)
    (stay : ∀ u ∈ s.tasks, u ∈ s'.tasks)
    (come : ∀ u ∈ s'.tasks, u ∈ s.tasks ∨ u.Fits acts' count s') : Faithful acts' count s' := by
  have adv : Advances count s count s' := by
    constructor
    · exact Nat.le_refl count
    · rw [store]
    · rintro g - hr
      refine ⟨⟨hr.current.trans generation, ?_⟩, store⟩
      rintro ⟨u, hu, hdirty⟩
      exact hr.clean ⟨u, stay u hu, hdirty⟩
    · rintro g - hne
      rw [generation]
      exact hne
  constructor
  · exact lock
  · rw [generation, h.generation]
  · rw [store]
    exact h.dates
  · intro u hu
    rcases come u hu with hold | hnew
    · exact (h.tasks u hold).later adv hacts
    · exact hnew
  · intro r alone entry hm hk
    rw [cache] at hm
    obtain ⟨p, hp⟩ := h.entries r (fun r' hr' => alone r' (hacts _ hr')) entry hm hk
    refine ⟨p, hp.value, hp.drawn.later adv, fun settled => ?_⟩
    rw [store]
    refine hp.agrees fun u hu pending => settled u (stay u hu) ?_
    exact pending.later (h.tasks u hu) adv

theorem faithful_step (h : Faithful acts count s) {a : Act} (next : s.act a = some s')
    (calm : a.isCalm = true) (few : count + s.invalidations a < 2 ^ 64)
    (saves : ∀ c, a = .call (.save c) → c.date.IsStorable) :
    Faithful (acts ++ [a]) (count + s.invalidations a) s' := by
  have hacts : ∀ b ∈ acts, b ∈ acts ++ [a] := fun b hb => List.mem_append_left _ hb
  have hlast : a ∈ acts ++ [a] := List.mem_append_right _ List.mem_cons_self
  have hlock := lockFits_step h.lock (step_of_act next)
  cases step_of_act next with
  | call call =>
    refine faithful_still h hacts hlock rfl rfl rfl (fun u hu => List.mem_append_left _ hu) ?_
    intro u hu
    rcases List.mem_append.1 hu with hu | hu
    · exact .inl hu
    · rw [List.mem_singleton.1 hu]
      refine .inr ?_
      cases call with
      | save c => exact saves c rfl
      | search r => exact ⟨hlast, .inl rfl, trivial⟩
      | _ => trivial
  | @go id fault t t' e stands goes =>
    cases fault with
    | some e => cases calm
    | none =>
      have hcount : s.invalidations (.step id none) = if t.isDirty then 1 else 0 := by
        rw [State.invalidations, show s.tasks[id]? = some t from stands]
        rfl
      rw [hcount] at few ⊢
      exact faithful_goes h stands goes few hacts
  | drop => cases calm
  | wait duration =>
    exact faithful_still h hacts hlock rfl rfl rfl (fun u hu => hu) fun u hu => .inl hu

theorem faithful_start {store : Store} (dates : ∀ c ∈ store.commits, c.date.IsStorable) :
    Faithful [] 0 (fresh store) := by
  constructor
  · exact lockFits_run .nothing
  · rfl
  · exact dates
  · intro t ht
    cases ht
  · intro r alone entry hm
    cases hm

theorem faithful_run {store : Store} (run : Run (fresh store) acts count s)
    (calm : ∀ a ∈ acts, a.isCalm = true) (few : count < 2 ^ 64)
    (dates : ∀ c ∈ store.commits, c.date.IsStorable)
    (saves : SavesStorable acts) : Faithful acts count s := by
  induction run with
  | nothing => exact faithful_start dates
  | @act acts count s s' a run next ih =>
    have hacts : ∀ b ∈ acts, b ∈ acts ++ [a] := fun b hb => List.mem_append_left _ hb
    have hlast : a ∈ acts ++ [a] := List.mem_append_right _ List.mem_cons_self
    have h := ih (fun b hb => calm b (hacts b hb)) (by omega) fun c hc => saves c (hacts _ hc)
    refine faithful_step h next (calm a hlast) few ?_
    rintro c rfl
    exact saves c hlast

theorem State.Quiet.settled (h : s.Quiet) (r : SearchRequest) : Settled s r := by
  intro t ht pending
  have hover := h t ht
  cases pending with
  | dirty hdirty =>
    cases t with
    | ended | dropped => cases hdirty
    | _ => cases hover
  | _ => cases hover

theorem quiet_closeFlight (h : s.Quiet) (key : String) {change : Task → Task}
    (nudges : ∀ t, Nudged t (change t)) : (s.closeFlight key change).state.Quiet := by
  intro t ht
  obtain ⟨i, hi⟩ := stands_of_mem ht
  obtain ⟨u, hu, rfl⟩ := (stands_closeFlight _ _ _ i t).1 hi
  have hover := h u hu.mem
  split
  · have hnudged := nudges u
    cases u with
    | ended | dropped =>
      generalize change _ = u' at hnudged
      cases hnudged
      rfl
    | _ => cases hover
  · exact hover

/-- When all is quiet, every cached result is what the store answers. -/
theorem entries_fresh {store : Store} (run : Run (fresh store) acts count s)
    (calm : ∀ a ∈ acts, a.isCalm = true) (few : count < 2 ^ 64)
    (dates : ∀ c ∈ store.commits, c.date.IsStorable) (saves : SavesStorable acts)
    (room : s.store.commits.length < 2 ^ 64) (quiet : s.Quiet) (alone : Alone acts r)
    {entry : CacheEntry} (cached : entry ∈ s.cache.entries) (key : entry.key = r.key) :
    ∃ p, Page.decode entry.value = .ok p ∧ s.store.search r = .ok p := by
  have h := faithful_run run calm few dates saves
  obtain ⟨p, hp⟩ := h.entries r alone entry cached key
  refine ⟨p, ?_, hp.agrees (quiet.settled r)⟩
  rw [hp.value]
  exact decode_encode ⟨hp.drawn.dates, Nat.lt_of_le_of_lt hp.drawn.total room⟩

/-- A store with one commit whose words are not looked up yet. -/
def oneCommit : Contents :=
  ⟨[⟨Calendar.Instant.ofSeconds 1, "a1", "fix", "", "b", "r", "p", false, false⟩], .empty⟩

/-- A refresh and its sweep, and a search that was called before. -/
def refreshThenSearch : List Act :=
  [.call (.search .all), .call .refresh, .step 1 none, .step 1 none, .step 1 none, .step 1 none,
    .step 2 none] ++ List.replicate 12 (.step 0 none)

theorem refreshThenSearch_after :
    ∃ s, (fresh (.memory oneCommit)).after refreshThenSearch = some s ∧ s.Quiet ∧
      s.store.commits = oneCommit.commits ∧
      ∃ entry ∈ s.cache.entries, entry.key = SearchRequest.all.key := by
  refine ⟨_, rfl, ?_, rfl, _, List.mem_cons_self, rfl⟩
  exact quiet_closeFlight (List.all_eq_true.1 (by rfl)) _ (nudged_answerTask _)

theorem entries_fresh_search :
    ∃ count s entry p, Run (fresh (.memory oneCommit)) refreshThenSearch count s ∧ s.Quiet ∧
      entry ∈ s.cache.entries ∧ entry.key = SearchRequest.all.key ∧
      Page.decode entry.value = .ok p ∧ s.store.search .all = .ok p := by
  obtain ⟨s, hs, quiet, hstore, entry, cached, key⟩ := refreshThenSearch_after
  have hstart : Run (fresh (.memory oneCommit)) [] 0 (fresh (.memory oneCommit)) := .nothing
  obtain ⟨count, hle, run⟩ := hstart.after hs
  have calm : ∀ a ∈ refreshThenSearch, a.isCalm = true := by
    simp [refreshThenSearch, Act.isCalm]
  have few : count < 2 ^ 64 := Nat.lt_of_le_of_lt hle (by decide)
  have dates : ∀ c ∈ (Store.memory oneCommit).commits, c.date.IsStorable := by
    intro c hc
    obtain rfl := List.mem_singleton.1 hc
    exact ⟨rfl, by decide⟩
  have saves : SavesStorable refreshThenSearch := by
    intro c hc
    simp [refreshThenSearch] at hc
  have room : s.store.commits.length < 2 ^ 64 := by
    rw [hstore]
    decide
  have alone : Alone refreshThenSearch .all := by
    rintro r hr -
    simpa [refreshThenSearch] using hr
  obtain ⟨p, hdecode, hsearch⟩ :=
    entries_fresh run calm few dates saves room quiet alone cached key
  exact ⟨count, s, entry, p, run, quiet, cached, key, hdecode, hsearch⟩

end CommitSearch.Service
