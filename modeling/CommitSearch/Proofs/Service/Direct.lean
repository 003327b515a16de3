import CommitSearch.Proofs.Service.Reads

/-!
# Calls on the store itself

What calls return that are made on a store one after the other, without a cache, and the store after
them. If the dates of its commits and of what is saved are whole seconds, its pages can be written and
read back.
-/

namespace CommitSearch.Service

/-- What a call returns that changes the store or fails, and the store after it. -/
def changed (store : Store) : Except Error Store → Except Error Answer × Store
  | .ok after => (.ok .done, after)
  | .error e => (.error e, store)

/-- What a call returns that is made on a store itself, and the store after it. -/
def Call.onStore (store : Store) : Call → Except Error Answer × Store
  | .save c => changed store (store.save c)
  | .search r => ((store.search r).map Answer.page, store)
  | .refresh => changed store store.refresh
  | .list none => (store.listFilters.map Answer.filters, store)
  | .list (some key) => ((store.listFilter key).map Answer.values, store)

def answersOn (store : Store) : List Call → List (Except Error Answer)
  | [] => []
  | c :: rest => (c.onStore store).1 :: answersOn (c.onStore store).2 rest

def storeAfter (store : Store) (calls : List Call) : Store :=
  calls.foldl (fun stored c => (c.onStore stored).2) store

variable {store : Store} {calls : List Call}

theorem answersOn_snoc (store : Store) (calls : List Call) (c : Call) :
    answersOn store (calls ++ [c]) =
      answersOn store calls ++ [(c.onStore (storeAfter store calls)).1] := by
  induction calls generalizing store with
  | nil => rfl
  | cons d rest ih =>
    simp only [List.cons_append, answersOn, ih]
    rfl

theorem storeAfter_snoc (store : Store) (calls : List Call) (c : Call) :
    storeAfter store (calls ++ [c]) = (c.onStore (storeAfter store calls)).2 := by
  simp [storeAfter]

/-! ### Single calls -/

theorem refresh_of_unbuilt {e : Error} (rebuilt : store.rebuilt = .error e) :
    store.refresh = .error e := by
  rw [Store.refresh_eq, rebuilt, Except.map]

theorem refresh_of_rebuilt {snapshot : Snapshot} (rebuilt : store.rebuilt = .ok snapshot) :
    store.refresh = .ok (store.swap snapshot) := by
  rw [Store.refresh_eq, rebuilt, Except.map]

theorem onStore_save {c : Commit} {after : Except Error Store} (save : store.save c = after) :
    (Call.save c).onStore store = changed store after := by
  rw [Call.onStore, save]

theorem onStore_refresh {after : Except Error Store} (refresh : store.refresh = after) :
    Call.refresh.onStore store = changed store after := by
  rw [Call.onStore, refresh]

/-! ### The store in the course of the calls -/

theorem commits_onStore (store : Store) (c : Call) :
    (c.onStore store).2.commits = store.commits ∨
      ∃ saved stored, c = .save saved ∧ Store.accept saved = .ok stored ∧
        (c.onStore store).2.commits = store.commits ++ [stored] := by
  cases c with
  | save d =>
    cases check : Store.accept d with
    | error e =>
      rw [onStore_save (Store.save_of_refused check)]
      exact .inl rfl
    | ok stored =>
      rw [onStore_save (Store.save_of_accepted check)]
      cases insert : store.insert stored with
      | error e => exact .inl rfl
      | ok saved => exact .inr ⟨d, stored, rfl, check, Store.commits_insert insert⟩
  | search r => exact .inl rfl
  | refresh =>
    rw [Call.onStore]
    cases refresh : store.refresh with
    | error e => exact .inl rfl
    | ok refreshed => exact .inl (Store.commits_refresh refresh)
  | list key => cases key <;> exact .inl rfl

theorem isStorable_storeAfter (dates : ∀ c ∈ store.commits, c.date.IsStorable)
    (saves : ∀ c, .save c ∈ calls → c.date.IsStorable)
    (room : store.commits.length + calls.length < 2 ^ 64) : (storeAfter store calls).IsStorable := by
  induction calls generalizing store with
  | nil => exact ⟨dates, Nat.lt_of_le_of_lt (Nat.le_add_right _ _) room⟩
  | cons c rest ih =>
    have hafter : storeAfter store (c :: rest) = storeAfter (c.onStore store).2 rest := rfl
    have hsaves : ∀ d, .save d ∈ rest → d.date.IsStorable :=
      fun d hd => saves d (List.mem_cons_of_mem _ hd)
    rw [List.length_cons] at room
    rw [hafter]
    rcases commits_onStore store c with hsame | ⟨saved, stored, rfl, check, hadded⟩
    · refine ih ?_ hsaves ?_
      · rw [hsame]
        exact dates
      · rw [hsame]
        omega
    · refine ih ?_ hsaves ?_
      · intro d hd
        rw [hadded] at hd
        rcases List.mem_append.1 hd with hd | hd
        · exact dates d hd
        · rw [List.mem_singleton.1 hd, date_of_accept check]
          exact saves saved List.mem_cons_self
      · rw [hadded, List.length_append, List.length_singleton]
        omega

end CommitSearch.Service
