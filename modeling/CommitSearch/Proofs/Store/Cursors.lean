import CommitSearch.Proofs.Commit.Dates
import CommitSearch.Proofs.Store.Ingestion
import CommitSearch.Proofs.Store.Parts

/-!
# Cursors of pages

A date comes into a store from JSON, goes out as the cursor of a page, and comes back with the next
request. The three have different ranges: a date can be of any year of the calendar, and a cursor of
a year before 0 or after 9999 is written with a sign, which is not read. Main statement: the cursor of
a page is accepted just when the date of its last commit lies in the years 0 to 9999, and then it is
that date.
-/

namespace CommitSearch

open CommitSearch.Calendar

/-- Contents to which only commits that were read from JSON were saved. -/
inductive Posted : Contents → Prop
  | empty : Posted .empty
  | save {s t : Contents} {text : String} {c : Commit} (before : Posted s)
      (read : Commit.decode text = .ok c) (stored : (Store.memory s).save c = .ok (.memory t)) :
    Posted t
  | refresh {s : Contents} (before : Posted s) : Posted s.refresh

variable {s : Contents} {r : SearchRequest} {p : Page} {c : Commit} {cursor : String}

theorem Posted.dates (h : Posted s) : ∀ c ∈ s.commits, c.date.IsStorable := by
  induction h with
  | empty => exact nofun
  | save before read stored ih =>
    rw [save_eq stored]
    intro d hd
    rcases List.mem_append.1 hd with hd | hd
    · exact ih d hd
    · rw [List.mem_singleton.1 hd, Commit.date_sanitize]
      exact isStorable_of_decode read
  | refresh before ih => exact ih

theorem cursor_ne_empty (i : Instant) : i.cursor.isEmpty = false := by
  have hlength := length_cursorChars i
  refine Bool.eq_false_iff.2 fun hempty => ?_
  rw [String.isEmpty_iff, Instant.cursor, String.ofList_eq_empty_iff] at hempty
  rw [hempty] at hlength
  exact absurd hlength (by decide)

/-- The request for the page that follows. -/
def SearchRequest.next (r : SearchRequest) (cursor : String) : SearchRequest :=
  { r with last := cursor }

theorem upperBound_next (r : SearchRequest) (i : Instant) :
    (r.next i.cursor).upperBound = (readCursor i.cursor).map some := by
  rw [SearchRequest.upperBound, SearchRequest.next, cursor_ne_empty]
  rfl

theorem validate_next (valid : r.validate = .ok ()) {i : Instant} :
    (r.next i.cursor).validate = (readCursor i.cursor).map fun _ => () := by
  obtain ⟨_, -, valid⟩ := ok_of_bind valid
  obtain ⟨before, hbefore, valid⟩ := ok_of_bind valid
  obtain ⟨after, hafter, -⟩ := ok_of_bind valid
  have hbefore : readBound (r.next i.cursor).before = .ok before := hbefore
  have hafter : (r.next i.cursor).lowerBound = .ok after := hafter
  rw [SearchRequest.validate, upperBound_next, hbefore, hafter]
  cases readCursor i.cursor <;> rfl

/-- The cursor of a page is accepted just when its last commit is of the years 0 to 9999. -/
theorem cursor_accepted_iff (posted : Posted s) (found : (Store.memory s).search r = .ok p)
    (nonempty : p.commits ≠ []) :
    ∃ c cursor, p.commits.getLast? = some c ∧ p.cursor = some cursor ∧
      ((r.next cursor).validate = .ok () ↔
        -62167219200 ≤ c.date.seconds ∧ c.date.seconds ≤ 253402300799) ∧
      ((r.next cursor).validate = .ok () → (r.next cursor).upperBound = .ok (some c.date)) ∧
      ((r.next cursor).validate ≠ .ok () →
        (r.next cursor).validate = .error (.refused (.unreadableCursor cursor .invalid))) := by
  have hlast : p.commits.getLast? = some (p.commits.getLast nonempty) :=
    List.getLast?_eq_some_getLast nonempty
  generalize p.commits.getLast nonempty = c at hlast
  have hdate := posted.dates c (Store.mem_of_search found c (List.mem_of_getLast? hlast))
  have hcursor : p.cursor = some c.date.cursor := by rw [Page.cursor, hlast]; rfl
  refine ⟨c, c.date.cursor, hlast, hcursor, ?_⟩
  rw [validate_next (Store.validate_of_search found), upperBound_next, ← Instant.year_iff]
  by_cases hyear : 0 ≤ c.date.year ∧ c.date.year ≤ 9999
  · have hread : readCursor c.date.cursor = .ok c.date := by
      rw [readCursor, readCursor_cursor_of_whole hyear.1 hyear.2 hdate.whole]
    rw [hread]
    exact ⟨⟨fun _ => hyear, fun _ => rfl⟩, fun _ => rfl, fun h => absurd rfl h⟩
  · have hread : readCursor c.date.cursor =
        .error (.refused (.unreadableCursor c.date.cursor .invalid)) := by
      rw [readCursor, readCursor_cursor_signed hyear]
    rw [hread]
    refine ⟨⟨fun accepted => ?_, fun h => absurd h hyear⟩, fun accepted => ?_, fun _ => rfl⟩ <;>
      cases accepted

/-- A commit of a given second. -/
def commitAt (seconds : Int) : Commit :=
  ⟨.ofSeconds seconds, "a1", "fix", "", "b", "r", "p", false, false⟩

theorem posted_commitAt {seconds : Int} (legal : Instant.isLegalSecond seconds = true)
    (stored : (Store.memory .empty).save (commitAt seconds) =
      .ok (.memory ⟨[commitAt seconds], .empty⟩)) : Posted ⟨[commitAt seconds], .empty⟩ :=
  .save .empty (decode_encode_commit ⟨rfl, legal⟩) stored

theorem search_commitAt (seconds : Int) :
    (Store.memory ⟨[commitAt seconds], .empty⟩).search .all = .ok ⟨[commitAt seconds], 1⟩ := by
  have hselected : Contents.selected ⟨[commitAt seconds], .empty⟩ ⟨[], 20⟩ = [commitAt seconds] :=
    List.mergeSort_singleton _
  have hpage : Contents.execute ⟨[commitAt seconds], .empty⟩ ⟨[], 20⟩ = ⟨[commitAt seconds], 1⟩ := by
    rw [Contents.execute, hselected]
    rfl
  rw [← hpage]
  rfl

/-- The first second of the year 0. -/
theorem cursor_accepted_year_zero :
    ∃ p, Posted ⟨[commitAt (-62167219200)], .empty⟩ ∧
      (Store.memory ⟨[commitAt (-62167219200)], .empty⟩).search .all = .ok p ∧
      p.cursor = some "0000-01-01T00:00:00Z" ∧
      (SearchRequest.all.next "0000-01-01T00:00:00Z").upperBound =
        .ok (some (.ofSeconds (-62167219200))) := by
  have posted : Posted ⟨[commitAt (-62167219200)], .empty⟩ := posted_commitAt (by decide) rfl
  have found := search_commitAt (-62167219200)
  obtain ⟨c, cursor, hlast, hcursor, haccepted, hdate, -⟩ :=
    cursor_accepted_iff posted found (by simp)
  cases hlast
  have htext : Page.cursor ⟨[commitAt (-62167219200)], 1⟩ = some "0000-01-01T00:00:00Z" := by
    decide
  obtain rfl := Option.some.inj (hcursor.symm.trans htext)
  exact ⟨_, posted, found, htext, hdate (haccepted.2 (by decide))⟩

/-- The first second of the year 10000. -/
theorem cursor_refused_year_tenthousand :
    ∃ p, Posted ⟨[commitAt 253402300800], .empty⟩ ∧
      (Store.memory ⟨[commitAt 253402300800], .empty⟩).search .all = .ok p ∧ p.commits ≠ [] ∧
      p.cursor = some "+10000-01-01T00:00:00Z" ∧
      (SearchRequest.all.next "+10000-01-01T00:00:00Z").validate =
        .error (.refused (.unreadableCursor "+10000-01-01T00:00:00Z" .invalid)) := by
  refine ⟨⟨[commitAt 253402300800], 1⟩, posted_commitAt (by decide) rfl,
    search_commitAt _, by simp, ?_, ?_⟩
  · decide
  · decide

end CommitSearch
