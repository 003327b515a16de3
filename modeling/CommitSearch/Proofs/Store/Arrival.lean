import CommitSearch.Proofs.Store.Ingestion
import CommitSearch.Proofs.Store.Saving
import Mathlib.Data.List.Nodup

/-!
# The order of arrival

Stored commits are kept in the order in which they came, and this order shows only in one place: a
search gives commits of one date in it. What is looked up and counted depends on which commits there
are. Main statement: after the same commits were saved in two orders and the index was built, the
stores list the same filter values and every request gets the same total or error from both; if no
two of the commits have one date, it gets the same answer.
-/

namespace CommitSearch

open CommitSearch.Calendar CommitSearch.Text

/-! ### Saved commits -/

namespace Contents

/-- The commits that a store takes of those that are to be saved, as it stores them. -/
def accepted (cs : List Commit) : List Commit := cs.filterMap fun c => (Store.accept c).toOption

theorem accepted_of_ok {c d : Commit} (h : Store.accept c = .ok d) (rest : List Commit) :
    accepted (c :: rest) = d :: accepted rest :=
  List.filterMap_cons_some (by rw [h]; rfl)

theorem accepted_of_error {c : Commit} {e : Error} (h : Store.accept c = .error e)
    (rest : List Commit) : accepted (c :: rest) = accepted rest :=
  List.filterMap_cons_none (by rw [h]; rfl)

theorem commits_savedAll_eq (s : Contents) (cs : List Commit) :
    (s.savedAll cs).commits = s.commits ++ accepted cs := by
  induction cs generalizing s with
  | nil => exact (List.append_nil _).symm
  | cons c rest ih =>
    rw [savedAll_cons, ih]
    cases h : Store.accept c with
    | error e =>
      rw [saved_of_error (Store.save_of_refused h), accepted_of_error h]
    | ok d =>
      rw [saved_of_ok (Store.save_of_accepted h), accepted_of_ok h, insert, List.append_assoc,
        List.singleton_append]

/-- A store takes the dates as they come. -/
theorem dates_accepted (cs : List Commit) :
    ((accepted cs).map Commit.date).Sublist (cs.map Commit.date) := by
  induction cs with
  | nil => exact .slnil
  | cons c rest ih =>
    rw [List.map_cons]
    cases h : Store.accept c with
    | error e =>
      rw [accepted_of_error h]
      exact ih.cons _
    | ok d =>
      rw [accepted_of_ok h, List.map_cons, date_of_accept h]
      exact ih.cons_cons _

end Contents

/-! ### Snapshots -/

theorem distinct_congr {l l' : List String} (h : ∀ t, t ∈ l ↔ t ∈ l') : distinct l = distinct l' := by
  refine ascending_ext (ascending_foldr_insertDistinct .nil l)
    (ascending_foldr_insertDistinct .nil l') fun t => ?_
  exact (mem_distinct t l).trans ((h t).trans (mem_distinct t l').symm)

/-- A snapshot says which commits there are, not in which order they came. -/
theorem Snapshot.build_perm {cs ds : List Commit} (perm : cs.Perm ds) :
    Snapshot.build cs = Snapshot.build ds := by
  have hwords : distinct (cs.flatMap Commit.words) = distinct (ds.flatMap Commit.words) :=
    distinct_congr fun t => (perm.flatMap_right _).mem_iff
  have hvalues : ∀ key, valuesOf cs key = valuesOf ds key := fun key =>
    distinct_congr fun t => ((perm.map _).filter _).mem_iff
  rw [build, build, hwords]
  simp only [hvalues]

/-! ### Searches -/

/-- Items of different dates have one order. -/
theorem newestFirst_perm_eq {α : Type} {date : α → Instant} {l l' : List α} (perm : l.Perm l')
    (nodup : (l.map date).Nodup) : newestFirst date l = newestFirst date l' := by
  have hperm : (newestFirst date l).Perm (newestFirst date l') :=
    (newestFirst_perm l).trans (perm.trans (newestFirst_perm l').symm)
  refine hperm.eq_of_pairwise ?_ (newestFirst_sorted l).descending (newestFirst_sorted l').descending
  intro a b ha hb hab hba
  exact List.inj_on_of_nodup_map nodup ((newestFirst_perm l).mem_iff.1 ha)
    (perm.mem_iff.2 ((newestFirst_perm l').mem_iff.1 hb)) (Instant.eq_of_not_before hab hba)

/-- The same commits, perhaps in another order, with the same snapshot. -/
structure Contents.Rearranged (s t : Contents) : Prop where
  commits : s.commits.Perm t.commits
  snapshot : s.snapshot = t.snapshot

namespace Contents.Rearranged

variable {s t : Contents}

theorem refresh_savedAll {cs ds : List Commit} (perm : cs.Perm ds) :
    (empty.savedAll cs).refresh.Rearranged (empty.savedAll ds).refresh := by
  have hcommits : (empty.savedAll cs).commits.Perm (empty.savedAll ds).commits := by
    rw [commits_savedAll_eq, commits_savedAll_eq]
    exact (perm.filterMap _).append_left _
  exact ⟨hcommits, Snapshot.build_perm hcommits⟩

theorem execute_eq (h : s.Rearranged t) (nodup : (s.commits.map Commit.date).Nodup) (q : Query) :
    s.execute q = t.execute q := by
  have hselected : s.selected q = t.selected q :=
    newestFirst_perm_eq (h.commits.filter _) (nodup.sublist (List.filter_sublist.map _))
  rw [execute, execute, hselected]

theorem queryFor_eq (h : s.Rearranged t) (r : SearchRequest) : s.queryFor r = t.queryFor r := by
  simp only [queryFor, Store.resolve, Store.similar, h.snapshot]

theorem search_total_eq (h : s.Rearranged t) (r : SearchRequest) :
    ((Store.memory s).search r).map Page.total = ((Store.memory t).search r).map Page.total := by
  rw [map_total_search, map_total_search, h.queryFor_eq]
  exact congrArg (fun count => (t.queryFor r).map count) (funext fun q => h.commits.countP_eq _)

theorem search_eq (h : s.Rearranged t) (nodup : (s.commits.map Commit.date).Nodup)
    (r : SearchRequest) : (Store.memory s).search r = (Store.memory t).search r := by
  rw [search_eq_map_execute, search_eq_map_execute, h.queryFor_eq]
  cases t.queryFor r with
  | error e => rfl
  | ok q => exact congrArg Except.ok (h.execute_eq nodup q)

end Contents.Rearranged

/-- Two stores to which the same commits were saved in two orders before a refresh: they have the same
filter values, every request gets the same total or error from them and, unless two of the commits
have one date, the same page. Commits that a store refuses are among those that are saved. -/
theorem arrival_order_irrelevant {cs ds : List Commit} (perm : cs.Perm ds) :
    let s := Store.memory (Contents.empty.savedAll cs).refresh
    let t := Store.memory (Contents.empty.savedAll ds).refresh
    s.listFilters = t.listFilters ∧
      (∀ r, (s.search r).map Page.total = (t.search r).map Page.total) ∧
      ((cs.map Commit.date).Nodup → ∀ r, s.search r = t.search r) := by
  intro s t
  have h := Contents.Rearranged.refresh_savedAll perm
  refine ⟨?_, h.search_total_eq, fun nodup => h.search_eq ?_⟩
  · exact congrArg (fun snapshot => Except.ok snapshot.filters) h.snapshot
  · have hcommits : (Contents.empty.savedAll cs).refresh.commits = Contents.accepted cs :=
      Contents.commits_savedAll_eq .empty cs
    rw [hcommits]
    exact nodup.sublist (Contents.dates_accepted cs)

/-- A commit of the day after. -/
def nextDayCommit : Commit := { capitalCommit with date := .ofSeconds 86400, hash := "B2" }

/-- The commits are stored in the two orders, and no request can tell which. -/
theorem arrival_order_irrelevant_two :
    let s := (Contents.empty.savedAll [capitalCommit, nextDayCommit]).refresh
    let t := (Contents.empty.savedAll [nextDayCommit, capitalCommit]).refresh
    s.commits.map Commit.hash = ["a1", "b2"] ∧ t.commits.map Commit.hash = ["b2", "a1"] ∧
      (Store.memory s).listFilters = (Store.memory t).listFilters ∧
      ∀ r, (Store.memory s).search r = (Store.memory t).search r := by
  have perm : [capitalCommit, nextDayCommit].Perm [nextDayCommit, capitalCommit] := .swap ..
  obtain ⟨hfilters, -, hsearch⟩ := arrival_order_irrelevant perm
  exact ⟨by decide +kernel, by decide +kernel, hfilters, hsearch (by decide)⟩

end CommitSearch
