import CommitSearch.Proofs.Cache.Entries
import CommitSearch.Proofs.Service.Tasks
import CommitSearch.Proofs.Store.Parts

/-!
# What steps change

Each part of the service is changed by few steps. Only a save or refresh changes the store, and then
it is dirty; only a dirty task moves the generation on, and it leaves a sweep behind; only a search
adds an entry to the cache. Giving a task up changes none of these.
-/

namespace CommitSearch.Service

variable {s : State} {id : Nat} {fault : Option Error} {t t' : Task} {e : Effect}

@[simp] theorem store_unlock (s : State) : s.unlock.state.store = s.store := by
  unfold State.unlock
  split <;> rfl

@[simp] theorem cache_unlock (s : State) : s.unlock.state.cache = s.cache := by
  unfold State.unlock
  split <;> rfl

@[simp] theorem generation_unlock (s : State) : s.unlock.state.generation = s.generation := by
  unfold State.unlock
  split <;> rfl

theorem store_goes (h : Goes s id fault t t' e) :
    (e.apply (s.place id t') id).store = s.store ∨ t'.isDirty = true := by
  cases h with
  | insert | swap => exact .inr rfl
  | failRebuild | rejectRebuild | finish => exact .inl (store_unlock _)
  | _ => exact .inl rfl

theorem commits_goes (h : Goes s id fault t t' e) :
    (e.apply (s.place id t') id).store.commits = s.store.commits ∨
      ∃ c, t = .save (.insert c) ∧
        (e.apply (s.place id t') id).store.commits = s.store.commits ++ [c] := by
  cases h with
  | insert insert => exact .inr ⟨_, rfl, Store.commits_insert insert⟩
  | swap => exact .inl (Store.commits_swap _ _)
  | failRebuild | rejectRebuild | finish => exact .inl (congrArg Store.commits (store_unlock _))
  | _ => exact .inl rfl

theorem generation_goes (h : Goes s id fault t t' e) :
    (e.apply (s.place id t') id).generation =
      s.generation + if t.isDirty then 1 else 0 := by
  cases h with
  | announce => rfl
  | finish => exact generation_unlock _
  | failRebuild | rejectRebuild => exact (generation_unlock _).trans (UInt64.add_zero _).symm
  | _ => exact (UInt64.add_zero _).symm

/-- A dirty task leaves a sweep behind. -/
theorem sweep_goes (hl : LockFits s) (stands : s.Stands id t) (h : Goes s id fault t t' e)
    (dirty : t.isDirty = true) : .sweep ∈ (e.apply (s.place id t') id).tasks := by
  have hinvalidate : .sweep ∈ (s.place id t').invalidate.state.tasks :=
    List.mem_append_right _ List.mem_cons_self
  cases h with
  | announce => exact hinvalidate
  | finish =>
    have hp := lockFits_invalidate (lockFits_place hl stands (by simp) (.ended (.ok .done)))
    obtain ⟨i, hi⟩ := stands_of_mem hinvalidate
    obtain ⟨u, hu, hn⟩ := (nudges_unlock hp).forth i _ hi
    cases hn
    exact hu.mem
  | _ => cases dirty

/-- A step that adds an entry is the write of a search. -/
theorem cache_goes (h : Goes s id fault t t' e) {entry : CacheEntry}
    (hm : entry ∈ (e.apply (s.place id t') id).cache.entries) :
    entry ∈ s.cache.entries ∨ ∃ r g p, t = .search r (.write g p) ∧
      t' = .search r (.written g p) ∧ entry.key = r.key ∧ entry.value = p.encode := by
  cases h with
  | hit | miss | hitAgain | missAgain => exact .inl (MemoryCache.mem_get hm)
  | write =>
    rcases MemoryCache.mem_set hm with ⟨hk, hv⟩ | ⟨-, hold⟩
    · exact .inr ⟨_, _, _, rfl, rfl, hk, hv⟩
    · exact .inl hold
  | discard | sweep => exact .inl (MemoryCache.mem_deletePattern.1 hm).1
  | failRebuild | rejectRebuild | finish =>
    rw [Effect.apply, cache_unlock] at hm
    exact .inl hm
  | _ => exact .inl hm

/-! ### Drops -/

theorem store_drop (h : GivesUp s id t e) : (e.apply (s.place id .dropped) id).store = s.store := by
  cases h with
  | rebuild | swap | invalidate => exact store_unlock _
  | _ => rfl

theorem generation_drop (h : GivesUp s id t e) :
    (e.apply (s.place id .dropped) id).generation = s.generation := by
  cases h with
  | rebuild | swap | invalidate => exact generation_unlock _
  | _ => rfl

theorem cache_drop (h : GivesUp s id t e) : (e.apply (s.place id .dropped) id).cache = s.cache := by
  cases h with
  | rebuild | swap | invalidate => exact cache_unlock _
  | _ => rfl

/-! ## Runs -/

/-- The generation counts its moves, in 64 bits. -/
theorem generation_run {store : Store} {acts : List Act} {count : Nat}
    (run : Run (fresh store) acts count s) : s.generation = UInt64.ofNat count := by
  induction run with
  | nothing => rfl
  | @act acts count s s' a run next ih =>
    cases step_of_act next with
    | call | wait => exact ih
    | @go id fault t t' e stands goes =>
      have hcount : s.invalidations (.step id fault) = if t.isDirty then 1 else 0 := by
        rw [State.invalidations, show s.tasks[id]? = some t from stands]
        rfl
      rw [generation_goes goes, ih, hcount, UInt64.ofNat_add]
      split <;> rfl
    | drop stands gives =>
      rw [generation_drop gives]
      exact ih

end CommitSearch.Service
