import CommitSearch.Proofs.Service.Refreshes
import CommitSearch.Proofs.Service.Serving

/-!
# A call that is made while no other is in progress

Such a call waits for nobody, so the flights and the lock follow from its stage (`Lone`), and each of
its steps brings it nearer to its end. Until it can only succeed it leaves the store, the cache and the
generation as they are, so they are as before when it ends with an error; only a call that succeeds
leaves a sweep behind (`Finished`).
-/

namespace CommitSearch.Service

variable {store : Store} {before s s' : State} {acts : List Act} {count i id : Nat} {t t' : Task}
  {e : Effect} {fault : Option Error} {m : Move} {r : SearchRequest}

/-! ### Services at rest -/

/-- No result in the cache has come to its deadline. -/
def State.IsLive (s : State) : Prop := ∀ entry ∈ s.cache.entries, s.now < entry.deadline

/-- No call is in progress. Sweeps may be pending. -/
def State.IsResting (s : State) : Prop := ∀ t ∈ s.tasks, t.isOver = true ∨ t = .sweep

theorem not_search_of_resting (resting : s.IsResting) {stage : SearchStage} :
    ¬ s.Stands i (.search r stage) := by
  intro hs
  rcases resting _ hs.mem with hover | heq
  · cases hover
  · cases heq

theorem not_refresh_of_resting (resting : s.IsResting) {stage : RefreshStage} :
    ¬ s.Stands i (.refresh stage) := by
  intro hs
  rcases resting _ hs.mem with hover | heq
  · cases hover
  · cases heq

theorem isIdle_of_resting (run : Run (fresh store) acts count s) (resting : s.IsResting) :
    s.IsIdle := by
  constructor
  · refine List.eq_nil_iff_forall_not_mem.2 fun f hf => ?_
    have hflight : s.flights.has f.key = true := (s.flights.has_iff f.key).2 ⟨f, hf, rfl⟩
    obtain ⟨i, r, stage, hs, -⟩ := (flightFits_run run f.key).flight_iff.1 hflight
    exact not_search_of_resting resting hs
  · have hqueue : s.lock.queue = [] := by
      refine List.eq_nil_iff_forall_not_mem.2 fun i hi => ?_
      exact not_refresh_of_resting resting ((lockFits_run run).queued i hi)
    have hholder : s.lock.holder = none := by
      refine Option.eq_none_iff_forall_ne_some.2 fun i hi => ?_
      obtain ⟨t, hs, held⟩ := (holderFits_run run i).1 hi
      cases t with
      | refresh => exact not_refresh_of_resting resting hs
      | _ => cases held
    show (⟨s.lock.holder, s.lock.queue⟩ : Lock) = _
    rw [hqueue, hholder]

/-! ### The parts that a rejected call leaves as they are -/

/-- What is kept beyond the calls is the same: the commits with their snapshot, the results in the
cache, and the generation. -/
structure State.Intact (before s : State) : Prop where
  store : s.store = before.store
  cache : s.cache = before.cache
  generation : s.generation = before.generation

/-- A call that can only succeed from here on. -/
def Task.isGranted : Task → Bool
  | .save .invalidate | .refresh .invalidate | .search _ (.written _ _) | .search _ (.recheck _ _)
  | .search _ (.discard _) | .search _ (.land (.ok _)) | .ended (.ok _) => true
  | _ => false

theorem State.Intact.trans {s₁ s₂ s₃ : State} (h : s₁.Intact s₂) (g : s₂.Intact s₃) :
    s₁.Intact s₃ :=
  ⟨g.store.trans h.store, g.cache.trans h.cache, g.generation.trans h.generation⟩

theorem get_of_live (live : s.IsLive) (key : String) : (s.cache.get s.now key).2 = s.cache := by
  rw [MemoryCache.get_of_alive fun entry found => live entry (List.mem_of_find?_eq_some found)]

theorem granted_goes (goes : Goes s id none t t' e) (granted : t.isGranted = true) :
    t'.isGranted = true := by
  cases goes with
  | announce | finish | written | keep | reject | discard => rfl
  | @land _ _ outcome =>
    cases outcome with
    | ok p => rfl
    | error error => cases granted
  | _ => cases granted

/-- A step changes the parts only when from then on the call can only succeed. -/
theorem intact_goes (live : s.IsLive) (goes : Goes s id none t t' e) :
    t'.isGranted = true ∨ s.Intact (e.apply (s.place id t') id) := by
  cases goes with
  | announce | insert | hit | hitAgain | write | written | keep | reject | discard | swap | finish
  | sweep => exact .inl rfl
  | miss | missAgain => exact .inr ⟨rfl, get_of_live live _, rfl⟩
  | rejectRebuild => exact .inr ⟨store_unlock _, cache_unlock _, generation_unlock _⟩
  | _ => exact .inr ⟨rfl, rfl, rfl⟩

/-! ### Deadlines -/

@[simp] theorem now_unlock (s : State) : s.unlock.state.now = s.now := by
  unfold State.unlock
  split <;> rfl

theorem now_goes (goes : Goes s id fault t t' e) : (e.apply (s.place id t') id).now = s.now := by
  cases goes with
  | failRebuild | rejectRebuild | finish => exact now_unlock _
  | _ => rfl

theorem isLive_of_same (live : s.IsLive) (cache : s'.cache = s.cache) (now : s'.now = s.now) :
    s'.IsLive := by
  rw [State.IsLive, cache, now]
  exact live

theorem isLive_goes (live : s.IsLive) (goes : Goes s id fault t t' e) :
    (e.apply (s.place id t') id).IsLive := by
  cases goes with
  | hit | miss | hitAgain | missAgain => exact fun entry hm => live entry (MemoryCache.mem_get hm)
  | write =>
    intro entry hm
    rcases List.mem_cons.1 hm with rfl | hold
    · exact Nat.lt_add_of_pos_right (by decide)
    · exact live entry (List.mem_filter.1 hold).1
  | discard | sweep => exact fun entry hm => live entry (MemoryCache.mem_deletePattern.1 hm).1
  | failRebuild | rejectRebuild | finish =>
    exact isLive_of_same live (cache_unlock _) (now_unlock _)
  | _ => exact live

/-! ### The call in progress -/

/-- The flights while a call at this stage is the only one in progress. -/
def Task.flights : Task → Flights
  | .search r stage => if stage.leads then [⟨r.key, []⟩] else []
  | _ => []

/-- The lock while a call of this place and at this stage is the only one in progress. -/
def Task.lock (id : Nat) (t : Task) : Lock := ⟨if t.holdsLock then some id else none, []⟩

/-- The stages at which a call can be that waits for nobody. -/
def Task.isUnhindered : Task → Bool
  | .search _ .waiting | .search _ (.answered _) | .refresh .queued | .sweep | .dropped => false
  | _ => true

/-- A call that is in progress or has ended, all by itself since a state in which none was in
progress. -/
structure Lone (before s : State) (t : Task) : Prop where
  unhindered : t.isUnhindered = true
  tasks : s.tasks = before.tasks ++ [t]
  flights : s.flights = t.flights
  lock : s.lock = t.lock before.tasks.length
  live : s.IsLive
  now : s.now = before.now
  intact : t.isGranted = false → before.Intact s

/-- The end of such a call, with the tasks that can go on then. -/
inductive Finished (before s : State) : Except Error Answer → List Nat → Prop
  | plain {answer : Except Error Answer} (lone : Lone before s (.ended answer)) :
    Finished before s answer []
  | sweeps (tasks : s.tasks = before.tasks ++ [.ended (.ok .done), .sweep]) (live : s.IsLive) :
    Finished before s (.ok .done) [before.tasks.length + 1]

theorem lone_start (idle : before.IsIdle) (live : before.IsLive) (c : Call) :
    Lone before (before.start c.task).1 c.task := by
  have hflights : c.task.flights = [] := by cases c <;> rfl
  have hlock : c.task.lock before.tasks.length = ⟨none, []⟩ := by cases c <;> rfl
  refine ⟨by cases c <;> rfl, rfl, ?_, ?_, live, rfl, fun _ => ⟨rfl, rfl, rfl⟩⟩
  · exact idle.1.trans hflights.symm
  · exact idle.2.trans hlock.symm

theorem Lone.stands (h : Lone before s t) : s.Stands before.tasks.length t := by
  rw [State.Stands, h.tasks]
  exact List.getElem?_concat_length

theorem Lone.tasks_place (h : Lone before s t) (t' : Task) :
    (s.place before.tasks.length t').tasks = before.tasks ++ [t'] := by
  rw [State.place, h.tasks, List.set_append_right _ _ (Nat.le_refl _), Nat.sub_self]
  rfl

theorem lock_search (id : Nat) (stage stage' : SearchStage) :
    (Task.search r stage).lock id = (Task.search r stage').lock id := rfl

theorem flights_planned (r : SearchRequest) (g : UInt64) (words : List String) :
    (Task.search r (State.planned g r words)).flights = [⟨r.key, []⟩] := by
  unfold State.planned
  split <;> rfl

theorem isUnhindered_planned (r : SearchRequest) (g : UInt64) (words : List String) :
    (Task.search r (State.planned g r words)).isUnhindered = true := by
  unfold State.planned
  split <;> rfl

theorem finished_invalidate (tasks : s.tasks = before.tasks ++ [.ended (.ok .done)])
    (same : s'.tasks = s.invalidate.state.tasks) (live : s'.IsLive) :
    Finished before s' (.ok .done) s.invalidate.woken := by
  have hwoken : s.invalidate.woken = [before.tasks.length + 1] := by
    show [s.tasks.length] = _
    rw [tasks, List.length_append, List.length_singleton]
  rw [hwoken]
  refine .sweeps ?_ live
  rw [same]
  show s.tasks ++ [.sweep] = _
  rw [tasks, List.append_assoc]
  rfl

/-- A step of a lone call takes it on, or ends it and leaves a sweep behind. -/
theorem lone_goes (h : Lone before s t) (goes : Goes s before.tasks.length none t t' e) :
    Lone before (e.apply (s.place before.tasks.length t') before.tasks.length) t' ∧
        e.woken (s.place before.tasks.length t') = [] ∨
      Finished before (e.apply (s.place before.tasks.length t') before.tasks.length) (.ok .done)
        (e.woken (s.place before.tasks.length t')) := by
  have htasks := h.tasks_place t'
  have hlive := isLive_goes h.live goes
  have hnow := (now_goes goes).trans h.now
  have hintact : t'.isGranted = false →
      before.Intact (e.apply (s.place before.tasks.length t') before.tasks.length) := by
    intro rejected
    have hbefore : t.isGranted = false := by
      refine Bool.eq_false_iff.2 fun granted => ?_
      rw [granted_goes goes granted] at rejected
      cases rejected
    rcases intact_goes h.live goes with granted | hstep
    · rw [granted] at rejected
      cases rejected
    · exact (h.intact hbefore).trans hstep
  have hflights := h.flights
  have hlock := h.lock
  -- What is left to each case are the flights, the lock and who is woken: nobody waits for the call,
  -- so only a sweep is, and the steps that would wait for others are not taken.
  cases goes with
  | announce =>
    exact .inr (finished_invalidate htasks rfl hlive)
  | finish =>
    have hunlock := unlock_of_queue_nil
      (s := (s.place before.tasks.length (.ended (.ok .done))).invalidate.state) hlock
    rw [Effect.woken, hunlock, List.append_nil]
    refine .inr (finished_invalidate htasks ?_ hlive)
    rw [Effect.apply, hunlock]
  | follow taken =>
    rw [hflights] at taken
    cases taken
  | queue taken =>
    rw [hlock] at taken
    cases taken
  | receive | sweep => cases h.unhindered
  | lead free =>
    refine .inl ⟨⟨rfl, htasks, ?_, hlock, hlive, hnow, hintact⟩, rfl⟩
    show s.flights.begin _ = _
    rw [hflights]
    rfl
  | acquire free =>
    refine .inl ⟨⟨rfl, htasks, hflights, ?_, hlive, hnow, hintact⟩, rfl⟩
    show (⟨some _, s.lock.queue⟩ : Lock) = _
    rw [hlock]
    rfl
  | noteBlank | resolve =>
    refine .inl ⟨⟨isUnhindered_planned _ _ _, htasks, ?_, ?_, hlive, hnow, hintact⟩, rfl⟩
    · exact hflights.trans (flights_planned _ _ _).symm
    · exact hlock.trans (lock_search _ _ _)
  | @rejectRebuild error rebuild =>
    have hunlock := unlock_of_queue_nil
      (s := s.place before.tasks.length (.ended (.error error))) hlock
    rw [Effect.apply, hunlock] at hlive hnow hintact
    rw [Effect.apply, Effect.woken, hunlock]
    exact .inl ⟨⟨rfl, htasks, hflights, rfl, hlive, hnow, hintact⟩, rfl⟩
  | @land _ r outcome =>
    have hclose := closeFlight_of_unwaited
      (s := s.place before.tasks.length (.ended (outcome.map Answer.page))) hflights
      (State.answerTask outcome)
    rw [Effect.apply, hclose] at hlive hnow hintact
    have hwaiting : (Effect.land r.key outcome).woken (s.place before.tasks.length _) = [] :=
      congrArg Move.woken hclose
    rw [Effect.apply, hclose]
    exact .inl ⟨⟨rfl, htasks, rfl, hlock, hlive, hnow, hintact⟩, hwaiting⟩
  | _ => exact .inl ⟨⟨rfl, htasks, hflights, hlock, hlive, hnow, hintact⟩, rfl⟩

theorem Lone.nearer (h : Lone before s t) (goes : Goes s before.tasks.length none t t' e) :
    t'.remaining < t.remaining := by
  cases goes with
  | queue taken =>
    rw [h.lock] at taken
    cases taken
  | noteBlank | resolve =>
    simp only [Task.remaining]
    exact Nat.lt_of_le_of_lt (distance_planned _ _ _) (by simp [SearchStage.distance])
  | _ => simp [Task.remaining, SearchStage.distance]

theorem Lone.isBlocked (h : Lone before s t) : t.isBlocked = false := by
  refine Bool.eq_false_iff.2 fun blocked => ?_
  have hunhindered := h.unhindered
  unfold Task.isBlocked at blocked
  split at blocked
  · cases hunhindered
  · cases hunhindered
  · cases blocked

/-- Until its end a lone call has a step, which takes it nearer to the end or is its last. -/
theorem Lone.exists_move (h : Lone before s t) (going : t.isOver = false) :
    ∃ m, s.step before.tasks.length none = some m ∧
      ((∃ t', Lone before m.state t' ∧ m.woken = [] ∧ t'.remaining < t.remaining) ∨
        Finished before m.state (.ok .done) m.woken) := by
  obtain ⟨m, next⟩ := Option.isSome_iff_exists.1 (step_isSome h.stands going h.isBlocked)
  refine ⟨m, next, ?_⟩
  obtain ⟨u, t', e, stands, goes, rfl⟩ := move_of_step next
  obtain rfl := stands.inj h.stands
  rcases lone_goes h goes with ⟨lone, woken⟩ | finished
  · exact .inl ⟨t', lone, woken, h.nearer goes⟩
  · exact .inr finished

theorem Lone.exists_answer (h : Lone before s t) (ended : t.isOver = true) :
    ∃ answer, t = .ended answer := by
  cases t with
  | ended answer => exact ⟨answer, rfl⟩
  | dropped => cases h.unhindered
  | _ => cases ended

end CommitSearch.Service
