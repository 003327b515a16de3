import CommitSearch.Proofs.Calendar.Cursor
import CommitSearch.Proofs.Store.Parts
import CommitSearch.Proofs.Store.Search

/-!
# Saving while others read

Commits are only ever added at the end: what is stored stays at its place, and the known words stay
as they are until the next refresh. Dates that a cursor carries in full lie in a bounded range.
-/

namespace CommitSearch

open CommitSearch.Calendar CommitSearch.Text

/-- A date that a cursor carries in full: a whole second of the years 0 to 9999. -/
structure Calendar.Instant.IsPlain (i : Instant) : Prop where
  whole : i.isWhole = true
  year_nonneg : 0 ≤ i.year
  year_le : i.year ≤ 9999

/-- One store comes from another by saving commits of plain dates. A commit that is refused changes
nothing. -/
inductive Saved (s : Contents) : Contents → Prop
  | nothing : Saved s s
  | commit {t u : Contents} {c : Commit} (before : Saved s t) (plain : c.date.IsPlain)
      (stored : (Store.memory t).save c = .ok (.memory u)) : Saved s u

/-- The contents of a store when the pages of a walk are read, where commits of plain dates are
saved only. -/
structure Ingestion (contents : Nat → Contents) : Prop where
  plain : ∀ c ∈ (contents 0).commits, c.date.IsPlain
  saved : ∀ i, Saved (contents i) (contents (i + 1))

/-! ### Dates -/

theorem Calendar.Instant.before_of_not_before {a b c : Instant} (h : a.before b = true)
    (g : c.before b = false) : a.before c = true := by
  rcases Instant.before_total c b with hcb | rfl | hbc
  · rw [g] at hcb
    cases hcb
  · exact h
  · exact Instant.before_trans h hbc

/-- No date of the year 0 or a later one lies further back. -/
def earliestSecond : Int := -100000000000

/-- No date of the year 9999 or an earlier one lies further ahead. -/
def latestSecond : Int := 300000000000

theorem Calendar.Instant.IsPlain.bounds {i : Instant} (h : i.IsPlain) :
    earliestSecond ≤ i.seconds ∧ i.seconds ≤ latestSecond := by
  obtain ⟨era, year, d, hm, he⟩ := exists_marchDay (dayOfSecond i.seconds)
  have h0 := h.year_nonneg
  have h1 := h.year_le
  have hn := hm.number_eq
  have hy0 := hm.year_nonneg
  have hy1 := hm.year_lt
  have hd0 := hm.day_nonneg
  have hd1 := hm.day_lt
  rw [Instant.year, he] at h0 h1
  simp only at h0 h1
  unfold dayOfSecond yearStart at hn
  unfold earliestSecond latestSecond
  split at h0 <;> omega

theorem Calendar.Instant.IsPlain.seconds_lt {a b : Instant} (ha : a.IsPlain) (hb : b.IsPlain)
    (h : a.before b = true) : a.seconds < b.seconds := by
  have ha := ha.whole
  have hb := hb.whole
  simp only [Instant.isWhole, beq_iff_eq, Instant.before, Bool.or_eq_true, Bool.and_eq_true,
    decide_eq_true_eq] at ha hb h
  omega

theorem cursorOf_cursor {i : Instant} (h : i.IsPlain) : CursorOf i.cursor (some i) := by
  have hread := readCursor_cursor_of_whole h.year_nonneg h.year_le h.whole
  refine .present ?_ hread
  intro he
  rw [he] at hread
  cases hread

/-! ### Saving -/

theorem Commit.date_sanitize (c : Commit) : c.sanitize.date = c.date := by
  simp only [Commit.sanitize]

theorem date_of_accept {c d : Commit} (h : Store.accept c = .ok d) : d.date = c.date := by
  rw [← (Store.form_of_accept h).2, Commit.date_sanitize]

theorem save_eq {s t : Contents} {c : Commit} (h : (Store.memory s).save c = .ok (.memory t)) :
    t = s.insert c.sanitize := by
  obtain ⟨d, haccept, hinsert⟩ := ok_of_bind h
  rw [(Store.form_of_accept haccept).2]
  cases hinsert
  rfl

theorem Saved.snapshot_eq {s t : Contents} (h : Saved s t) : t.snapshot = s.snapshot := by
  induction h with
  | nothing => rfl
  | commit before plain stored ih => rw [save_eq stored]; exact ih

theorem Saved.commits_eq {s t : Contents} (h : Saved s t) :
    ∃ added, t.commits = s.commits ++ added ∧ ∀ c ∈ added, c.date.IsPlain := by
  induction h with
  | nothing => exact ⟨[], by simp, by simp⟩
  | @commit t u c before plain stored ih =>
    obtain ⟨added, he, hp⟩ := ih
    refine ⟨added ++ [c.sanitize], ?_, ?_⟩
    · rw [save_eq stored, Contents.insert, he, List.append_assoc]
    · intro d hd
      rcases List.mem_append.1 hd with hd | hd
      · exact hp d hd
      · rw [List.mem_singleton.1 hd, Commit.date_sanitize]
        exact plain

namespace Ingestion

variable {contents : Nat → Contents}

theorem snapshot_eq (h : Ingestion contents) (i : Nat) :
    (contents i).snapshot = (contents 0).snapshot := by
  induction i with
  | zero => rfl
  | succ i ih => rw [(h.saved i).snapshot_eq, ih]

theorem plain_at (h : Ingestion contents) (i : Nat) :
    ∀ c ∈ (contents i).commits, c.date.IsPlain := by
  induction i with
  | zero => exact h.plain
  | succ i ih =>
    obtain ⟨added, he, hp⟩ := (h.saved i).commits_eq
    intro c hc
    rw [he] at hc
    rcases List.mem_append.1 hc with hc | hc
    · exact ih c hc
    · exact hp c hc

/-- A commit stays at its place. -/
theorem stays (h : Ingestion contents) {i j : Nat} (hij : i ≤ j) {n : Nat} {c : Commit}
    (hc : (contents i).commits[n]? = some c) : (contents j).commits[n]? = some c := by
  induction hij with
  | refl => exact hc
  | @step j hij ih =>
    obtain ⟨added, he, -⟩ := (h.saved j).commits_eq
    obtain ⟨hlt, -⟩ := List.getElem?_eq_some_iff.1 ih
    rw [he, List.getElem?_append_left hlt]
    exact ih

end Ingestion

end CommitSearch
