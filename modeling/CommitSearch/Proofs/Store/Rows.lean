import CommitSearch.Proofs.Store.Search

/-!
# Rows of a page

The commits of a page are found at places of the store. A row is a commit with its place, so that
two commits that look alike are told apart. The rows of a page are the newest of the wanted ones: a
wanted row that is left out is not newer than the last row on the page.
-/

namespace CommitSearch

open CommitSearch.Calendar CommitSearch.Text

/-- A stored commit and its place in the store. -/
abbrev Row := Commit × Nat

def Row.date (row : Row) : Instant := row.1.date

/-- The commits of a store with their places. -/
def Contents.rows (s : Contents) : List Row := s.commits.zipIdx

def Contents.wantedRows (s : Contents) (r : SearchRequest) (upper lower : Option Instant) :
    List Row :=
  newestFirst Row.date (s.rows.filter fun row => Wanted s.snapshot r upper lower row.1)

def Contents.pageRows (s : Contents) (r : SearchRequest) (upper lower : Option Instant) :
    List Row :=
  (s.wantedRows r upper lower).take (max 1 (min r.pageSize 100))

variable {s : Contents} {r : SearchRequest} {upper lower : Option Instant}

theorem mem_rows {row : Row} : row ∈ s.rows ↔ s.commits[row.2]? = some row.1 := by
  obtain ⟨c, n⟩ := row
  exact List.mem_zipIdx_iff_getElem?

theorem wantedRows_perm : (s.wantedRows r upper lower).Perm
    (s.rows.filter fun row => Wanted s.snapshot r upper lower row.1) :=
  newestFirst_perm _

theorem mem_wantedRows {row : Row} : row ∈ s.wantedRows r upper lower ↔
    s.commits[row.2]? = some row.1 ∧ Wanted s.snapshot r upper lower row.1 := by
  rw [wantedRows_perm.mem_iff, List.mem_filter, mem_rows, decide_eq_true_iff]

theorem wantedRows_places_nodup : ((s.wantedRows r upper lower).map Prod.snd).Nodup := by
  rw [(wantedRows_perm.map Prod.snd).nodup_iff]
  refine List.Nodup.sublist (List.filter_sublist.map _) ?_
  rw [Contents.rows, List.zipIdx_map_snd]
  exact List.nodup_range'

theorem wantedRows_sorted : (s.wantedRows r upper lower).Pairwise fun a b =>
    a.date.before b.date = false :=
  (newestFirst_sorted _).descending

theorem wantedRows_commits : NewestFirst Commit.date
    (s.commits.filter (Wanted s.snapshot r upper lower))
    ((s.wantedRows r upper lower).map Prod.fst) := by
  have hstored : s.commits.filter (Wanted s.snapshot r upper lower) =
      (s.rows.filter fun row => Wanted s.snapshot r upper lower row.1).map Prod.fst := by
    have hmap : s.rows.map Prod.fst = s.commits := List.zipIdx_map_fst 0 s.commits
    conv => lhs; rw [← hmap]
    rw [List.filter_map]
    rfl
  rw [hstored, ← newestFirst_iff, newestFirst_map]
  rfl

theorem pageRows_of_cursor (last : String) :
    s.pageRows { r with last := last } upper lower = s.pageRows r upper lower := by
  simp only [Contents.pageRows, Contents.wantedRows, wanted_of_cursor]

/-- The page of a request consists of its rows, and its total counts the wanted commits. -/
theorem search_pageRows (hf : r.filters.Built) {cursor before : Option Instant}
    (last : CursorOf r.last cursor) (hbefore : DayOf r.before before) (after : DayOf r.after lower)
    (known : isBlankText r.query = true ∨ ∃ w, s.snapshot.Resolves r.query w) :
    (Store.memory s).search r = .ok
      { commits := (s.pageRows r (cursor <|> before) lower).map Prod.fst
        total := (s.commits.filter (Wanted s.snapshot r (cursor <|> before) lower)).length } := by
  rw [search_page hf last hbefore after known wantedRows_commits, Contents.pageRows, List.map_take]

/-! ### The cut -/

theorem mem_of_mem_pageRows {row : Row} (h : row ∈ s.pageRows r upper lower) :
    s.commits[row.2]? = some row.1 ∧ Wanted s.snapshot r upper lower row.1 :=
  mem_wantedRows.1 (List.mem_of_mem_take h)

theorem pageRows_places_nodup : ((s.pageRows r upper lower).map Prod.snd).Nodup :=
  wantedRows_places_nodup.sublist ((List.take_sublist _ _).map _)

theorem pageRows_sorted : (s.pageRows r upper lower).Pairwise fun a b =>
    a.date.before b.date = false :=
  wantedRows_sorted.sublist (List.take_sublist _ _)

theorem not_wanted_of_pageRows_nil (h : s.pageRows r upper lower = []) {row : Row}
    (hrow : s.commits[row.2]? = some row.1) : ¬ Wanted s.snapshot r upper lower row.1 := by
  intro hw
  have hne := List.ne_nil_of_mem (mem_wantedRows.2 ⟨hrow, hw⟩)
  rcases List.take_eq_nil_iff.1 h with h | h
  · omega
  · exact hne h

/-- The last row on a page is not newer than any other row there. -/
theorem not_before_last {row last : Row} (hrow : row ∈ s.pageRows r upper lower)
    (hlast : last ∈ (s.pageRows r upper lower).getLast?) : row.date.before last.date = false := by
  obtain ⟨init, hinit⟩ := List.getLast?_eq_some_iff.1 hlast
  have hsorted : (s.pageRows r upper lower).Pairwise fun a b => a.date.before b.date = false :=
    pageRows_sorted
  rw [hinit] at hrow hsorted
  rcases List.mem_append.1 hrow with h | h
  · exact (List.pairwise_append.1 hsorted).2.2 row h last (by simp)
  · rw [List.mem_singleton.1 h]
    exact Instant.before_irrefl _

/-- A wanted row of another date than the last row is on the page or older than all of it. -/
theorem mem_pageRows_or_before {row last : Row} (hrow : s.commits[row.2]? = some row.1)
    (hw : Wanted s.snapshot r upper lower row.1)
    (hlast : last ∈ (s.pageRows r upper lower).getLast?) (hne : row.date ≠ last.date) :
    row ∈ s.pageRows r upper lower ∨ row.date.before last.date = true := by
  have hmem := mem_wantedRows.2 ⟨hrow, hw⟩
  have hsorted : (s.wantedRows r upper lower).Pairwise fun a b => a.date.before b.date = false :=
    wantedRows_sorted
  rw [← List.take_append_drop (max 1 (min r.pageSize 100)) (s.wantedRows r upper lower)]
    at hmem hsorted
  rcases List.mem_append.1 hmem with h | h
  · exact .inl h
  · have hle := (List.pairwise_append.1 hsorted).2.2 last (List.mem_of_getLast? hlast) row h
    rcases Instant.before_total last.date row.date with hb | hb | hb
    · rw [hle] at hb
      cases hb
    · exact absurd hb.symm hne
    · exact .inr hb

end CommitSearch
