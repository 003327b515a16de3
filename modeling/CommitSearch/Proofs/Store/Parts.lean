import CommitSearch.Proofs.Json.Reading
import CommitSearch.Proofs.Text.Ascending
import CommitSearch.Store

/-!
# The parts of a store

The commits of a store and its snapshot, and what the operations do to them. The values of a key in
the snapshot of some commits are their distinct attributes that are not empty, in ascending order. A
snapshot that was never built lists no values of any key either, but does not name the keys.
-/

namespace CommitSearch

open CommitSearch.Text

theorem Snapshot.mem_valuesOf {commits : List Commit} {key : FilterKey} {v : String} :
    v ∈ Snapshot.valuesOf commits key ↔ v ≠ "" ∧ ∃ c ∈ commits, key.valueOf c = v := by
  simp only [Snapshot.valuesOf, mem_distinct, List.mem_filter, List.mem_map, Bool.not_eq_true',
    String.isEmpty_eq_false_iff]
  exact and_comm

theorem Snapshot.ascending_valuesOf (commits : List Commit) (key : FilterKey) :
    (Snapshot.valuesOf commits key).Pairwise (· < ·) :=
  ascending_foldr_insertDistinct .nil _

namespace Store

variable {s t : Store}

/-! ### Accepted commits -/

/-- A commit that is accepted is stored in its form, in which it passes the check. -/
theorem form_of_accept {c d : Commit} (h : accept c = .ok d) :
    c.sanitize.check = .ok () ∧ c.sanitize = d := by
  obtain ⟨_, hcheck, h⟩ := ok_of_bind h
  exact ⟨hcheck, Except.ok.inj h⟩

theorem save_of_refused {c : Commit} {e : Error} (check : accept c = .error e) :
    s.save c = .error e := by
  simp only [save, check, bind, Except.bind]

theorem save_of_accepted {c d : Commit} (check : accept c = .ok d) : s.save c = s.insert d := by
  simp only [save, check, bind, Except.bind]

/-! ### Commits -/

def commits : Store → List Commit
  | .memory contents => contents.commits
  | .disconnected => []

theorem commits_insert {c : Commit} (h : s.insert c = .ok t) : t.commits = s.commits ++ [c] := by
  cases s with
  | memory contents => cases h; rfl
  | disconnected => cases h

theorem commits_refresh (h : s.refresh = .ok t) : t.commits = s.commits := by
  cases s with
  | memory contents => cases h; rfl
  | disconnected => cases h

@[simp] theorem commits_swap (s : Store) (snapshot : Snapshot) :
    (s.swap snapshot).commits = s.commits := by
  cases s <;> rfl

/-- A page holds commits of the store, and counts no more than there are. -/
theorem page_of_execute {q : Query} {p : Page} (h : s.execute q = .ok p) :
    (∀ c ∈ p.commits, c ∈ s.commits) ∧ p.total ≤ s.commits.length := by
  cases s with
  | memory contents =>
    cases h
    have hperm := List.mergeSort_perm (contents.commits.filter q.selects) Contents.newerFirst
    constructor
    · intro c hc
      exact (List.mem_filter.1 (hperm.mem_iff.1 (List.mem_of_mem_take hc))).1
    · exact Nat.le_trans (Nat.le_of_eq hperm.length_eq) (List.length_filter_le _ _)
  | disconnected => cases h

theorem validate_of_search {r : SearchRequest} {p : Page} (found : s.search r = .ok p) :
    r.validate = .ok () := by
  obtain ⟨_, valid, -⟩ := ok_of_bind found
  exact valid

theorem mem_of_search {r : SearchRequest} {p : Page} (found : s.search r = .ok p) :
    ∀ c ∈ p.commits, c ∈ s.commits := by
  obtain ⟨_, -, found⟩ := ok_of_bind found
  obtain ⟨_, -, found⟩ := ok_of_bind found
  obtain ⟨_, -, found⟩ := ok_of_bind found
  exact (page_of_execute found).1

/-! ### Snapshots -/

def snapshot : Store → Snapshot
  | .memory contents => contents.snapshot
  | .disconnected => .empty

theorem snapshot_insert {c : Commit} (h : s.insert c = .ok t) : t.snapshot = s.snapshot := by
  cases s with
  | memory contents => cases h; rfl
  | disconnected => cases h

theorem snapshot_swap (connected : s ≠ .disconnected) (snapshot : Snapshot) :
    (s.swap snapshot).snapshot = snapshot := by
  cases s with
  | memory contents => rfl
  | disconnected => exact absurd rfl connected

theorem listFilter_eq (connected : s ≠ .disconnected) (key : FilterKey) :
    s.listFilter key = .ok (valuesFor key s.snapshot.filters) := by
  cases s with
  | memory contents => rfl
  | disconnected => exact absurd rfl connected

theorem valuesFor_build (commits : List Commit) (key : FilterKey) :
    valuesFor key (Snapshot.build commits).filters = Snapshot.valuesOf commits key := by
  cases key <;> rfl

end Store

/-! ### Queries and their answers -/

/-- The query that a request stands for, where its words are looked up in the snapshot. -/
def Contents.queryFor (s : Contents) (r : SearchRequest) : Except Error Query := do
  r.validate
  let words ← (Store.memory s).resolve r.query
  Store.queryOf r words

/-- A search needs the commits only for a query that it has. -/
theorem search_eq_map_execute (s : Contents) (r : SearchRequest) :
    (Store.memory s).search r = (s.queryFor r).map s.execute := by
  unfold Store.search Contents.queryFor
  cases r.validate with
  | error e => rfl
  | ok =>
    cases (Store.memory s).resolve r.query with
    | error e => rfl
    | ok words =>
      simp only [bind, Except.bind]
      cases Store.queryOf r words <;> rfl

theorem Contents.total_execute (s : Contents) (q : Query) :
    (s.execute q).total = s.commits.countP q.selects := by
  simp [execute, selected, List.countP_eq_length_filter]

theorem map_total_search (s : Contents) (r : SearchRequest) :
    ((Store.memory s).search r).map Page.total =
      (s.queryFor r).map fun q => s.commits.countP q.selects := by
  rw [search_eq_map_execute]
  cases s.queryFor r with
  | error e => rfl
  | ok q => exact congrArg Except.ok (s.total_execute q)

end CommitSearch
