import CommitSearch.Proofs.Service.Provenance
import CommitSearch.Proofs.Service.Serving
import Mathlib.Data.List.Forall2

/-!
# The cache changes no answer

When calls come one after the other, what they return is what they would return without a cache. At
most one task is in progress then (`Situation`), and the entries that can be read are what the store
answers, except between a change of the store and the sweep that follows it (`EntriesFit`).
-/

namespace CommitSearch.Service

variable {store before : Store} {calls past : List (Call × Nat)} {steps k i id : Nat} {s s' : State}
  {t t' : Task} {e : Effect} {fault : Option Error} {c : Call} {r : SearchRequest}

/-! ### All tasks -/

def Answered (store : Store) (s : State) (calls : List (Call × Nat)) : Prop :=
  List.Forall₂ (fun entry a => s.Stands entry.2 (.ended a)) calls
    (answersOn store (calls.map Prod.fst))

/-- All tasks but one are over. -/
def State.RestOver (s : State) (id : Nat) : Prop := ∀ i t, i ≠ id → s.Stands i t → t.isOver = true

/-- At most one task is in progress: that of the last call, or the sweep that the last call left
behind. With it comes a bound on the steps until there is none. -/
inductive Situation (store : Store) (calls : List (Call × Nat)) (s : State) : Nat → Prop
  | quiet (quiet : s.Quiet) (idle : s.IsIdle) (answered : Answered store s calls)
      (stored : s.store = storeAfter store (calls.map Prod.fst)) : Situation store calls s 0
  | serving {past : List (Call × Nat)} {c : Call} {id : Nat} {t : Task}
      (split : calls = past ++ [(c, id)]) (stands : s.Stands id t) (rest : s.RestOver id)
      (answered : Answered store s past)
      (serving : Serving (storeAfter store (past.map Prod.fst)) s id c t) :
    Situation store calls s t.remaining
  | sweeping {id : Nat} (stands : s.Stands id .sweep) (rest : s.RestOver id) (idle : s.IsIdle)
      (answered : Answered store s calls)
      (stored : s.store = storeAfter store (calls.map Prod.fst)) : Situation store calls s 1

theorem Serving.going (h : Serving before s id c t) : t.isOver = false := by
  cases h <;> rfl

theorem Serving.free (h : Serving before s id c t) : t.isBlocked = false := by
  cases h with
  | @lead _ stage _ _ _ _ agrees =>
    cases stage with
    | waiting => exact agrees.elim
    | _ => rfl
  | _ => rfl

theorem Answered.later (h : Answered store s calls)
    (stay : ∀ i a, s.Stands i (.ended a) → s'.Stands i (.ended a)) : Answered store s' calls :=
  List.Forall₂.imp (fun (entry : Call × Nat) a => stay entry.2 a) h

theorem Answered.snoc (h : Answered store s past)
    (ended : s.Stands id (.ended (c.onStore (storeAfter store (past.map Prod.fst))).1)) :
    Answered store s (past ++ [(c, id)]) := by
  unfold Answered
  rw [List.map_append, List.map_singleton, answersOn_snoc]
  exact List.rel_append h (.cons ended .nil)

theorem stands_congr (h : s'.tasks = s.tasks) (i : Nat) (u : Task) :
    s'.Stands i u ↔ s.Stands i u := by
  rw [State.Stands, State.Stands, h]

theorem State.RestOver.eq_of_going (rest : s.RestOver id) (stands : s.Stands i t)
    (going : t.isOver = false) : i = id := by
  by_contra hne
  rw [rest i t hne stands] at going
  cases going

theorem State.RestOver.place (rest : s.RestOver id) (stands : s.Stands id t) (t' : Task) :
    (s.place id t').RestOver id := by
  intro i u hi h
  rcases (stands_place stands t' i u).1 h with ⟨he, -⟩ | ⟨-, hold⟩
  · exact absurd he hi
  · exact rest i u hi hold

theorem State.RestOver.quiet (rest : s.RestOver id) (stands : s.Stands id t)
    (finished : t'.isOver = true) : (s.place id t').Quiet := by
  intro u hu
  obtain ⟨i, hi⟩ := stands_of_mem hu
  rcases (stands_place stands t' i u).1 hi with ⟨-, he⟩ | ⟨hne, hold⟩
  · rw [he]
    exact finished
  · exact rest i u hne hold

theorem restOver_start (quiet : s.Quiet) (t : Task) : (s.start t).1.RestOver s.tasks.length := by
  intro i u hi hu
  rcases (stands_start s t i u).1 hu with hold | ⟨he, -⟩
  · exact quiet u hold.mem
  · exact absurd he hi

theorem situation_onward (split : calls = past ++ [(c, id)]) (stands : s.Stands id t)
    (rest : s.RestOver id) (answered : Answered store s' past)
    (h : Onward (storeAfter store (past.map Prod.fst)) s s' id c t) :
    ∃ k < t.remaining, Situation store calls s' k := by
  have hcalls : calls.map Prod.fst = past.map Prod.fst ++ [c] := by simp [split]
  have hafter := storeAfter_snoc store (past.map Prod.fst) c
  rw [← hcalls] at hafter
  have hplaced : ∀ u, (s.place id u).Stands id u :=
    fun u => (stands_place stands u id u).2 (.inl ⟨rfl, rfl⟩)
  cases h with
  | @serves t' tasks serving nearer =>
    have hstands := stands_congr tasks
    have hrest : s'.RestOver id :=
      fun i u hi hu => rest.place stands t' i u hi ((hstands i u).1 hu)
    exact ⟨_, nearer, .serving split ((hstands id t').2 (hplaced t')) hrest answered serving⟩
  | returns tasks idle stored nearer =>
    have hquiet : s'.Quiet := by
      rw [State.Quiet, tasks]
      exact rest.quiet stands rfl
    have hanswered := answered.snoc ((stands_congr tasks id _).2 (hplaced _))
    exact ⟨0, nearer, .quiet hquiet idle (split ▸ hanswered) (stored.trans hafter.symm)⟩
  | sweeps tasks idle stored nearer =>
    have hstands := fun i u => (stands_congr tasks i u).trans (stands_start _ _ i u)
    have hrest : s'.RestOver _ := fun i u hi hu =>
      restOver_start (rest.quiet stands rfl) .sweep i u hi ((stands_congr tasks i u).1 hu)
    have hanswered := answered.snoc ((hstands id _).2 (.inl (hplaced _)))
    exact ⟨1, nearer, .sweeping ((hstands _ _).2 (.inr ⟨rfl, rfl⟩)) hrest idle (split ▸ hanswered)
      (stored.trans hafter.symm)⟩

/-! ### Entries -/

/-- No task has yet to move the generation on or to sweep the cache. -/
def State.IsSwept (s : State) : Prop := ∀ t ∈ s.tasks, t.isDirty = false ∧ t ≠ .sweep

/-- Each page that can be read from the cache is for a request that was made, and the answer of the
store once the cache is swept. -/
def EntriesFit (calls : List (Call × Nat)) (s : State) : Prop :=
  ∀ entry ∈ s.cache.entries, ∀ p, Page.decode entry.value = .ok p →
    ∃ r, .search r ∈ calls.map Prod.fst ∧ entry.key = r.key ∧
      (s.IsSwept → s.store.search r = .ok p)

/-- Requests that were made share a key only if they are the same. -/
def Distinct (calls : List (Call × Nat)) : Prop :=
  ∀ r r', .search r ∈ calls.map Prod.fst → .search r' ∈ calls.map Prod.fst → r.key = r'.key → r = r'

theorem search_of_cached (h : EntriesFit calls s) (distinct : Distinct calls) (swept : s.IsSwept)
    (made : .search r ∈ calls.map Prod.fst) {p : Page} (hit : s.cached r = some p) :
    s.store.search r = .ok p := by
  obtain ⟨entry, hm, hk, hd⟩ := exists_entry_of_cached hit
  obtain ⟨r', made', hk', hr'⟩ := h entry hm p hd
  obtain rfl := distinct r r' made made' (hk.symm.trans hk')
  exact hr' swept

theorem clean_of_over (h : t.isOver = true) : t.isDirty = false ∧ t ≠ .sweep := by
  cases t with
  | ended | dropped => exact ⟨rfl, by simp⟩
  | save | search | refresh | list | sweep => cases h

theorem isSwept_of_quiet (h : s.Quiet) : s.IsSwept := fun t ht => clean_of_over (h t ht)

theorem State.RestOver.isSwept (rest : s.RestOver id) (stands : s.Stands id t)
    (clean : t.isDirty = false ∧ t ≠ .sweep) : s.IsSwept := by
  intro u hu
  obtain ⟨i, hi⟩ := stands_of_mem hu
  by_cases he : i = id
  · subst he
    rw [← stands.inj hi]
    exact clean
  · exact clean_of_over (rest i u he hi)

theorem entriesFit_goes (fits : EntriesFit calls s) (lock : LockFits s) (stands : s.Stands id t)
    (rest : s.RestOver id) (allowed : fault = none ∨ t.asksCache = true)
    (written : ∀ r g p, t = .search r (.write g p) →
      .search r ∈ calls.map Prod.fst ∧ p.IsStorable ∧ s.store.search r = .ok p)
    (goes : Goes s id fault t t' e) : EntriesFit calls (e.apply (s.place id t') id) := by
  intro entry hm p hd
  by_cases hsweep : t = .sweep
  · subst hsweep
    cases goes with
    | failSweep => simp [Task.asksCache] at allowed
    | sweep =>
      obtain ⟨r, -, hk, -⟩ := fits entry (MemoryCache.mem_deletePattern.1 hm).1 p hd
      exact absurd hk (not_mem_deletePattern_search r hm)
  -- When nothing has to be swept after the step, nothing had to before it.
  have hback : (e.apply (s.place id t') id).IsSwept →
      s.IsSwept ∧ (e.apply (s.place id t') id).store = s.store := by
    intro swept
    have hclean : t.isDirty = false := by
      rw [Bool.eq_false_iff]
      intro dirty
      exact (swept _ (sweep_goes lock stands goes dirty)).2 rfl
    refine ⟨rest.isSwept stands ⟨hclean, hsweep⟩, ?_⟩
    refine (store_goes goes).resolve_right fun dirty => ?_
    have hmoved := moved_goes lock stands goes fun v hn => hn.eq_of_dirty dirty
    rw [(swept _ hmoved).1] at dirty
    cases dirty
  rcases cache_goes goes hm with hold | ⟨r, g, q, ht, -, hk, hv⟩
  · obtain ⟨r, made, hk, hr⟩ := fits entry hold p hd
    refine ⟨r, made, hk, fun swept => ?_⟩
    obtain ⟨hswept, hstore⟩ := hback swept
    rw [hstore]
    exact hr hswept
  · obtain ⟨made, storable, hsearch⟩ := written r g q ht
    rw [hv, decode_encode storable] at hd
    refine ⟨r, made, hk, fun swept => ?_⟩
    rw [(hback swept).2, hsearch, Except.ok.inj hd]

/-! ### Runs -/

/-- What holds throughout a sequential run. -/
structure Sequenced (store : Store) (calls : List (Call × Nat)) (steps : Nat) (s : State) :
    Prop where
  situation : ∃ k, Situation store calls s k ∧ steps + k ≤ 14 * calls.length
  entries : EntriesFit calls s

theorem Serving.lockFits (h : Serving before s id c t) : LockFits s := by
  have hqueue : s.lock.queue = [] := by
    cases h with
    | accept idle | insert idle | announce idle | validate idle | lookup idle | join idle
    | request idle | list idle => rw [idle.2]
    | lead _ lock | rebuild _ lock | swap _ lock | finish _ lock => rw [lock]
  constructor <;> simp [hqueue]

theorem Serving.clean (h : Serving before s id (.search r) t) :
    t.isDirty = false ∧ t ≠ .sweep := by
  cases h <;> exact ⟨rfl, by simp⟩

theorem Serving.written {g : UInt64} {p : Page}
    (h : Serving before s id c (.search r (.write g p))) :
    c = .search r ∧ s.store = before ∧ s.store.search r = .ok p := by
  cases h with
  | lead flight lock same valid agrees => exact ⟨rfl, same, agrees.2⟩

theorem Situation.of_quiet (h : Situation store calls s k) (quiet : s.Quiet) :
    s.IsIdle ∧ Answered store s calls ∧ s.store = storeAfter store (calls.map Prod.fst) := by
  cases h with
  | quiet _ idle answered stored => exact ⟨idle, answered, stored⟩
  | serving split stands rest answered serving =>
    have hover := quiet _ stands.mem
    rw [serving.going] at hover
    cases hover
  | sweeping stands => cases quiet _ stands.mem

theorem Situation.lockFits (h : Situation store calls s k) : LockFits s := by
  cases h with
  | quiet _ idle | sweeping _ _ idle => constructor <;> simp [idle.2]
  | serving split stands rest answered serving => exact serving.lockFits

theorem sequenced_step (h : Sequenced store calls steps s) (distinct : Distinct calls)
    (storable : ∀ past, past <+: calls → (storeAfter store (past.map Prod.fst)).IsStorable)
    (allowed : fault = none ∨ ∃ t, s.Stands id t ∧ t.asksCache = true)
    (next : s.act (.step id fault) = some s') : Sequenced store calls (steps + 1) s' := by
  obtain ⟨⟨k, situation, bound⟩, fits⟩ := h
  have hlock := situation.lockFits
  have hstep := step_of_act next
  have hanswered : ∀ {past}, Answered store s past → Answered store s' past :=
    fun answered => answered.later fun i a ha => over_stays hlock hstep ha rfl
  cases hstep with
  | @go _ _ t t' e stands goes =>
    have hallowed : fault = none ∨ t.asksCache = true := by
      refine allowed.imp_right fun ⟨u, hu, ha⟩ => ?_
      rwa [stands.inj hu]
    have going := going_of_goes goes
    cases situation with
    | quiet quiet =>
      rw [quiet t stands.mem] at going
      cases going
    | @serving past c i u split hu rest answered serving =>
      obtain rfl := rest.eq_of_going stands going
      obtain rfl := hu.inj stands
      have made : c ∈ calls.map Prod.fst := by simp [split]
      have hcached : ∀ r p, c = .search r → s.cached r = some p → s.store.search r = .ok p := by
        intro r p hc hit
        subst hc
        exact search_of_cached fits distinct (rest.isSwept stands serving.clean) made hit
      have hwritten : ∀ r g p, u = .search r (.write g p) →
          .search r ∈ calls.map Prod.fst ∧ p.IsStorable ∧ s.store.search r = .ok p := by
        intro r g p hu
        subst hu
        obtain ⟨hc, same, hsearch⟩ := serving.written
        have hstore : s.store.IsStorable := same ▸ storable past ⟨_, split.symm⟩
        have hread := (s.store.searchAcross_self r).trans hsearch
        exact ⟨hc ▸ made, isStorable_of_searchAcross hstore hread, hsearch⟩
      -- What the step makes of the task, and apart from that what it leaves in the cache.
      have onward := serving_goes serving hcached hallowed goes
      obtain ⟨k', hless, hsituation⟩ :=
        situation_onward split stands rest (hanswered answered) onward
      exact ⟨⟨k', hsituation, by omega⟩,
        entriesFit_goes fits hlock stands rest hallowed hwritten goes⟩
    | @sweeping i hu rest idle answered stored =>
      obtain rfl := rest.eq_of_going stands going
      obtain rfl := hu.inj stands
      have hentries := entriesFit_goes fits hlock stands rest hallowed (by simp) goes
      cases goes with
      | failSweep => simp [Task.asksCache] at hallowed
      | sweep =>
        have hquiet : (s.place _ (.ended (.ok .done))).Quiet := rest.quiet stands rfl
        exact ⟨⟨0, .quiet hquiet idle (hanswered answered) stored, by omega⟩, hentries⟩

theorem Situation.spoilt (h : Situation store calls s k) (cache : MemoryCache) (now : Nat) :
    Situation store calls { s with cache, now } k := by
  cases h with
  | quiet quiet idle answered stored => exact .quiet quiet idle answered stored
  | @serving past c id t split stands rest answered serving =>
    refine .serving split stands rest answered ?_
    cases serving with
    | accept idle same => exact .accept idle same
    | insert idle same check => exact .insert idle same check
    | announce idle saved => exact .announce idle saved
    | validate idle same => exact .validate idle same
    | lookup idle same valid => exact .lookup idle same valid
    | join idle same valid => exact .join idle same valid
    | lead flight lock same valid agrees => exact .lead flight lock same valid agrees
    | request idle same => exact .request idle same
    | rebuild flights lock same => exact .rebuild flights lock same
    | swap flights lock same rebuilt => exact .swap flights lock same rebuilt
    | finish flights lock refreshed => exact .finish flights lock refreshed
    | list idle same => exact .list idle same
  | sweeping stands rest idle answered stored => exact .sweeping stands rest idle answered stored

theorem serving_call (c : Call) (idle : s.IsIdle) (same : s.store = before) :
    Serving before (s.start c.task).1 s.tasks.length c c.task := by
  cases c with
  | save c => exact .accept idle same
  | search r => exact .validate idle same
  | refresh => exact .request idle same
  | list key => exact .list idle same

theorem sequenced_call (h : Sequenced store calls steps s) (quiet : s.Quiet) (c : Call) :
    Sequenced store (calls ++ [(c, s.tasks.length)]) steps (s.start c.task).1 := by
  obtain ⟨⟨k, situation, bound⟩, fits⟩ := h
  obtain ⟨idle, answered, stored⟩ := situation.of_quiet quiet
  have hstands := stands_start s c.task
  have hremaining := remaining_task c
  have hanswered : Answered store (s.start c.task).1 calls :=
    answered.later fun i a ha => (hstands i _).2 (.inl ha)
  refine ⟨⟨c.task.remaining, .serving rfl ((hstands _ _).2 (.inr ⟨rfl, rfl⟩))
    (restOver_start quiet c.task) hanswered (serving_call c idle stored), ?_⟩, ?_⟩
  · rw [List.length_append, List.length_singleton]
    omega
  · intro entry hm p hd
    obtain ⟨r, made, hk, hr⟩ := fits entry hm p hd
    refine ⟨r, ?_, hk, fun _ => hr (isSwept_of_quiet quiet)⟩
    rw [List.map_append]
    exact List.mem_append_left _ made

theorem Distinct.within (h : Distinct calls) (order : past <+: calls) : Distinct past := by
  have hmade : ∀ {c}, c ∈ past.map Prod.fst → c ∈ calls.map Prod.fst :=
    fun hc => (order.map Prod.fst).subset hc
  exact fun r r' hr hr' => h r r' (hmade hr) (hmade hr')

theorem sequenced_run (run : Sequential store calls steps s) (distinct : Distinct calls)
    (storable : ∀ past, past <+: calls → (storeAfter store (past.map Prod.fst)).IsStorable) :
    Sequenced store calls steps s := by
  induction run with
  | start =>
    have hquiet : (fresh store).Quiet := by
      intro t ht
      cases ht
    refine ⟨⟨0, .quiet hquiet ⟨rfl, rfl⟩ .nil rfl, Nat.le_refl _⟩, ?_⟩
    intro entry hm
    cases hm
  | @call calls steps s c run quiet ih =>
    have order : calls <+: calls ++ [(c, s.tasks.length)] := List.prefix_append _ _
    exact sequenced_call (ih (distinct.within order) fun past hp => storable past (hp.trans order))
      quiet c
  | step run allowed next ih =>
    exact sequenced_step (ih distinct storable) distinct storable allowed next
  | @spoil calls steps s cache run spoilt ih =>
    obtain ⟨⟨k, situation, bound⟩, fits⟩ := ih distinct storable
    refine ⟨⟨k, situation.spoilt cache s.now, bound⟩, fun entry hm p hd => ?_⟩
    exact fits entry ((spoilt entry hm).resolve_right fun hnone => hnone p hd) p hd
  | @wait calls steps s duration run ih =>
    obtain ⟨⟨k, situation, bound⟩, fits⟩ := ih distinct storable
    exact ⟨⟨k, situation.spoilt s.cache (s.now + duration), bound⟩, fits⟩

/-! ### Answers -/

theorem Situation.exists_step (h : Situation store calls s k) (busy : ¬ s.Quiet) :
    ∃ id s', s.act (.step id none) = some s' := by
  have hmoves : ∀ {id}, (s.step id none).isSome = true →
      ∃ id s', s.act (.step id none) = some s' := by
    intro id hsome
    obtain ⟨m, hm⟩ := Option.isSome_iff_exists.1 hsome
    exact ⟨id, m.state, by rw [State.act, hm]; rfl⟩
  cases h with
  | quiet quiet => exact absurd quiet busy
  | @serving past c id t split stands rest answered serving =>
    exact hmoves (step_isSome stands serving.going serving.free)
  | sweeping stands => exact hmoves (step_isSome stands rfl rfl)

theorem Situation.agrees (h : Situation store calls s k) :
    List.Forall₂ (fun entry a => ∀ b, s.Stands entry.2 (.ended b) → b = a) calls
      (answersOn store (calls.map Prod.fst)) := by
  have hreturned : ∀ {past : List (Call × Nat)}, Answered store s past →
      List.Forall₂ (fun (entry : Call × Nat) a => ∀ b, s.Stands entry.2 (.ended b) → b = a) past
        (answersOn store (past.map Prod.fst)) := by
    intro past answered
    refine List.Forall₂.imp (fun (entry : Call × Nat) a ha b hb => ?_) answered
    cases hb.inj ha
    rfl
  cases h with
  | quiet quiet idle answered stored => exact hreturned answered
  | @serving past c id t split stands rest answered serving =>
    have hlast : ∀ b, ¬ s.Stands id (.ended b) := by
      intro b hb
      have hbusy := serving.going
      rw [stands.inj hb] at hbusy
      cases hbusy
    rw [split, List.map_append, List.map_singleton, answersOn_snoc]
    exact List.rel_append (hreturned answered) (.cons (fun b hb => absurd hb (hlast b)) .nil)
  | sweeping stands rest idle answered stored => exact hreturned answered

/-- When calls come one after the other, and requests that share a key are the same, what a call has
returned is what it returns on the store itself; when no task is in progress every call has returned
that, and the store is the one to which the calls lead. Until then a task can take a step, and all
take at most fourteen steps a call. -/
theorem answers_despite_cache (run : Sequential store calls steps s)
    (dates : ∀ c ∈ store.commits, c.date.IsStorable)
    (saves : ∀ c, .save c ∈ calls.map Prod.fst → c.date.IsStorable)
    (room : store.commits.length + calls.length < 2 ^ 64) (distinct : Distinct calls) :
    List.Forall₂ (fun entry a => ∀ b, s.Stands entry.2 (.ended b) → b = a) calls
      (answersOn store (calls.map Prod.fst)) ∧
    (s.Quiet →
      List.Forall₂ (fun entry a => s.Stands entry.2 (.ended a)) calls
        (answersOn store (calls.map Prod.fst)) ∧
      s.store = storeAfter store (calls.map Prod.fst)) ∧
    (¬ s.Quiet → ∃ id s', s.act (.step id none) = some s') ∧ steps ≤ 14 * calls.length := by
  have storable : ∀ past, past <+: calls →
      (storeAfter store (past.map Prod.fst)).IsStorable := by
    intro past order
    refine isStorable_storeAfter dates (fun c hc => saves c ?_) ?_
    · exact (order.map Prod.fst).subset hc
    · have hlength := order.length_le
      rw [List.length_map]
      omega
  obtain ⟨⟨k, situation, bound⟩, -⟩ := sequenced_run run distinct storable
  refine ⟨situation.agrees, fun quiet => ?_, situation.exists_step, by omega⟩
  obtain ⟨-, answered, stored⟩ := situation.of_quiet quiet
  exact ⟨answered, stored⟩

theorem Sequential.onward (run : Sequential store calls steps s) (ids : List Nat)
    (reached : s.after (ids.map fun id => .step id none) = some s') :
    Sequential store calls (steps + ids.length) s' := by
  induction ids generalizing steps s with
  | nil =>
    cases reached
    exact run
  | cons id rest ih =>
    obtain ⟨u, hu, hrest⟩ := Option.bind_eq_some_iff.1 reached
    rw [List.length_cons, Nat.add_comm rest.length, ← Nat.add_assoc]
    exact ih (run.step (.inl rfl) hu) hrest

/-- The service when a commit has been saved and the cache swept, with further tasks. -/
def afterSave (more : List Task) : State :=
  ⟨.memory (Contents.empty.insert laterCommit), .empty, 0, 1, [], ⟨none, []⟩,
    .ended (.ok .done) :: .ended (.ok .done) :: more⟩

theorem exists_search_afterSave :
    ∃ steps s, Sequential (.memory .empty) [(.save laterCommit, 0), (.search .all, 2)] steps s ∧
      s.Quiet := by
  have hstart : (fresh (.memory .empty)).Quiet := by
    intro t ht
    cases ht
  have hquiet : (afterSave []).Quiet := by
    intro t ht
    have hended : t = .ended (.ok .done) := by simpa [afterSave] using ht
    rw [hended]
    rfl
  have hsaved : Sequential (.memory .empty) [(.save laterCommit, 0)] 4 (afterSave []) :=
    (Sequential.start.call (.save laterCommit) hstart).onward [0, 0, 0, 1] rfl
  have hcalled : Sequential (.memory .empty) [(.save laterCommit, 0), (.search .all, 2)] 5
      (afterSave [.search .all .lookup]) := (hsaved.call (.search .all) hquiet).onward [2] rfl
  have hfails : (afterSave [.search .all .lookup]).act (.step 2 (some (.internal "get down"))) =
      some (afterSave [.search .all .join]) := rfl
  have hasks : ∃ t, (afterSave [.search .all .lookup]).Stands 2 t ∧ t.asksCache = true :=
    ⟨_, rfl, rfl⟩
  have hfailed := hcalled.step (.inr hasks) hfails
  refine ⟨_, _, hfailed.onward (List.replicate 10 2) rfl, ?_⟩
  exact quiet_closeFlight (List.all_eq_true.1 (by rfl)) _ (nudged_answerTask _)

theorem answers_despite_cache_saved :
    ∃ steps s, Sequential (.memory .empty) [(.save laterCommit, 0), (.search .all, 2)] steps s ∧
      s.Stands 0 (.ended (.ok .done)) ∧ s.Stands 2
        (.ended (.ok (.page ((Contents.empty.insert laterCommit).execute ⟨[], 20⟩)))) := by
  obtain ⟨steps, s, run, quiet⟩ := exists_search_afterSave
  have saves : ∀ c, .save c ∈ [Call.save laterCommit, .search .all] → c.date.IsStorable := by
    intro c hc
    obtain rfl : c = laterCommit := by simpa using hc
    exact laterCommit_storable
  have distinct : Distinct [(.save laterCommit, 0), (.search .all, 2)] := by
    intro r r' hr hr' _
    have hall : r = .all := by simpa using hr
    have hall' : r' = .all := by simpa using hr'
    rw [hall, hall']
  obtain ⟨hanswers, -⟩ := (answers_despite_cache run (by simp [Store.commits, Contents.empty]) saves
    (by decide) distinct).2.1 quiet
  obtain ⟨hsave, hsearch⟩ := List.forall₂_cons.1 hanswers
  exact ⟨steps, s, run, hsave, (List.forall₂_cons.1 hsearch).1⟩

end CommitSearch.Service
