import CommitSearch.Proofs.Store.Ingestion
import CommitSearch.Proofs.Store.Rows
import Mathlib.Data.List.Nodup
import Mathlib.Data.Nat.Find

/-!
# Walks through pages

A client that walks through the pages of a request asks for each with the cursor of the one before,
while further commits are saved between two of its requests. A cursor is the date of the last row of
a page, and the rows of the next page are older. Since dates are whole seconds of a bounded range
the walk ends; on its way it meets every wanted commit once, but for those that share the date of a
last row.
-/

namespace CommitSearch

open CommitSearch.Calendar CommitSearch.Text

/-- The pages of a request up to the first that is empty. -/
structure Walk (contents : Nat → Contents) (r : SearchRequest) (count : Nat) (page : Nat → Page) :
    Prop where
  first : (Store.memory (contents 0)).search r = .ok (page 0)
  next : ∀ i < count, ∃ cursor, (page i).cursor = some cursor ∧
    (Store.memory (contents (i + 1))).search { r with last := cursor } = .ok (page (i + 1))
  ends : (page count).commits = []

/-- What the commits of a page are older than: the last one of the page before, or the upper day. -/
def pageBound (before : Option Instant) (page : Nat → Page) : Nat → Option Instant
  | 0 => before
  | i + 1 => (page i).commits.getLast?.map Commit.date

/-- What a walk shows: `places` are the places in the store of the commits on its pages. -/
structure Covers (contents : Nat → Contents) (r : SearchRequest) (before after : Option Instant)
    (count : Nat) (page : Nat → Page) (places : Nat → List Nat) : Prop where
  descending : ∀ i ≤ count, (page i).commits.Pairwise fun a b => a.date.before b.date = false
  older : ∀ i j, i < j → j ≤ count → ∀ a ∈ (page i).commits, ∀ b ∈ (page j).commits,
    b.date.before a.date = true
  stored : ∀ i ≤ count,
    (places i).map (fun n => (contents i).commits[n]?) = (page i).commits.map some
  once : ((List.range (count + 1)).flatMap places).Nodup
  complete : ∀ n c, (contents 0).commits[n]? = some c →
    Wanted (contents 0).snapshot r before after c →
    (∀ i ≤ count, ∀ last ∈ (page i).commits.getLast?, c.date ≠ last.date) →
    ((List.range (count + 1)).flatMap places).count n = 1
  cursors : ∀ i < count, ∀ cursor ∈ (page i).cursor,
    CursorOf cursor (pageBound before page (i + 1))
  totals : ∀ i ≤ count, (page i).total = ((contents i).commits.filter
    (Wanted (contents i).snapshot r (pageBound before page i) after)).length

/-! ### The rows of a walk -/

section Rows

variable (contents : Nat → Contents) (r : SearchRequest) (before after : Option Instant)

/-- The bound of a page, by the rows of the page before. It stays as it is behind an empty page. -/
def walkBound : Nat → Option Instant
  | 0 => before
  | i + 1 =>
    match ((contents i).pageRows r (walkBound i) after).getLast? with
    | some last => some last.date
    | none => walkBound i

def walkRows (i : Nat) : List Row := (contents i).pageRows r (walkBound contents r before after i) after

def walkPage (i : Nat) : Page where
  commits := (walkRows contents r before after i).map Prod.fst
  total := ((contents i).commits.filter
    (Wanted (contents i).snapshot r (walkBound contents r before after i) after)).length

end Rows

section

variable {contents : Nat → Contents} {r : SearchRequest} {before after : Option Instant}

theorem walkBound_succ {i : Nat} {last : Row}
    (h : last ∈ (walkRows contents r before after i).getLast?) :
    walkBound contents r before after (i + 1) = some last.date := by
  have h : (walkRows contents r before after i).getLast? = some last := h
  rw [walkBound, ← walkRows, h]

theorem walkBound_of_nil {i : Nat} (h : walkRows contents r before after i = []) :
    walkBound contents r before after (i + 1) = walkBound contents r before after i := by
  rw [walkBound, ← walkRows, h]
  rfl

theorem exists_last {rows : List Row} (h : rows ≠ []) : ∃ last, last ∈ rows.getLast? :=
  ⟨_, List.getLast?_eq_getLast_of_ne_nil h⟩

theorem walkRows_wanted {i : Nat} {row : Row} (h : row ∈ walkRows contents r before after i) :
    (contents i).commits[row.2]? = some row.1 ∧
      Wanted (contents i).snapshot r (walkBound contents r before after i) after row.1 :=
  mem_of_mem_pageRows h

/-- Behind a page, no bound is newer than its last row. -/
theorem walkBound_after {i j : Nat} (hij : i < j) {last : Row}
    (h : last ∈ (walkRows contents r before after i).getLast?) :
    ∃ u ∈ walkBound contents r before after j, last.date.before u = false := by
  induction hij with
  | refl => exact ⟨last.date, walkBound_succ h, Instant.before_irrefl _⟩
  | @step j hij ih =>
    obtain ⟨u, hu, hle⟩ := ih
    by_cases hne : walkRows contents r before after j = []
    · exact ⟨u, by rw [walkBound_of_nil hne]; exact hu, hle⟩
    · obtain ⟨next, hnext⟩ := exists_last hne
      refine ⟨next.date, walkBound_succ hnext, ?_⟩
      have hold := (walkRows_wanted (List.mem_of_getLast? hnext)).2.older u hu
      rw [Bool.eq_false_iff]
      intro hb
      rw [Instant.before_trans hb hold] at hle
      cases hle

/-- Rows of later pages are older than rows of earlier ones. -/
theorem walkRows_older {i j : Nat} (hij : i < j) {a b : Row}
    (ha : a ∈ walkRows contents r before after i) (hb : b ∈ walkRows contents r before after j) :
    b.date.before a.date = true := by
  obtain ⟨last, hlast⟩ := exists_last (List.ne_nil_of_mem ha)
  obtain ⟨u, hu, hle⟩ := walkBound_after hij hlast
  have hbu := (walkRows_wanted hb).2.older u hu
  have hbl := Instant.before_of_not_before hbu hle
  exact Instant.before_of_not_before hbl (not_before_last ha hlast)

theorem walkRows_plain (h : Ingestion contents) {i : Nat} {row : Row}
    (hrow : row ∈ walkRows contents r before after i) : row.date.IsPlain :=
  h.plain_at i _ (List.mem_of_getElem? (walkRows_wanted hrow).1)

/-- A walk comes to an empty page, since every page that is not empty lies at least one second
further back. -/
theorem exists_empty_page (h : Ingestion contents) :
    ∃ count, walkRows contents r before after count = [] := by
  by_contra hall
  have hsome : ∀ i, ∃ row, row ∈ walkRows contents r before after i := by
    intro i
    refine List.exists_mem_of_ne_nil _ fun he => hall ⟨i, he⟩
  have hback : ∀ i : Nat, ∃ row ∈ walkRows contents r before after i,
      row.date.seconds ≤ latestSecond - i := by
    intro i
    induction i with
    | zero =>
      obtain ⟨row, hrow⟩ := hsome 0
      exact ⟨row, hrow, by simpa using (walkRows_plain h hrow).bounds.2⟩
    | succ i ih =>
      obtain ⟨row, hrow, hle⟩ := ih
      obtain ⟨next, hnext⟩ := hsome (i + 1)
      have hlt := (walkRows_plain h hnext).seconds_lt (walkRows_plain h hrow)
        (walkRows_older (Nat.lt_succ_self i) hrow hnext)
      exact ⟨next, hnext, by omega⟩
  obtain ⟨row, hrow, hle⟩ := hback 500000000000
  have hge := (walkRows_plain h hrow).bounds.1
  unfold earliestSecond at hge
  unfold latestSecond at hle
  omega

/-- A wanted commit that was stored from the beginning is on a page, or it is wanted still, unless it
has the date of a last row. -/
theorem walkRows_complete (h : Ingestion contents) {row : Row}
    (hrow : (contents 0).commits[row.2]? = some row.1)
    (hw : Wanted (contents 0).snapshot r before after row.1) {count : Nat}
    (hne : ∀ i < count, ∀ last ∈ (walkRows contents r before after i).getLast?,
      row.date ≠ last.date) :
    (∃ i < count, row ∈ walkRows contents r before after i) ∨
      Wanted (contents 0).snapshot r (walkBound contents r before after count) after row.1 := by
  induction count with
  | zero => exact .inr hw
  | succ count ih =>
    rcases ih fun i hi => hne i (by omega) with ⟨i, hi, hmem⟩ | hstill
    · exact .inl ⟨i, by omega, hmem⟩
    · by_cases hnil : walkRows contents r before after count = []
      · rw [walkBound_of_nil hnil]
        exact .inr hstill
      · obtain ⟨last, hlast⟩ := exists_last hnil
        have hthere := h.stays (Nat.zero_le count) hrow
        rw [← h.snapshot_eq count] at hstill
        rcases mem_pageRows_or_before hthere hstill hlast (hne count (by omega) last hlast) with
          hmem | hold
        · exact .inl ⟨count, by omega, hmem⟩
        · rw [walkBound_succ hlast]
          rw [h.snapshot_eq count] at hstill
          refine .inr ⟨hstill.word, hstill.value, ?_, hstill.newer⟩
          rintro b ⟨⟩
          exact hold

/-! ### The pages of a walk -/

theorem walkPage_cursor (i : Nat) : (walkPage contents r before after i).cursor =
    (walkRows contents r before after i).getLast?.map fun last => last.date.cursor := by
  rw [Page.cursor, walkPage, List.getLast?_map, Option.map_map]
  rfl

theorem walkBound_eq (i : Nat) (hne : ∀ j < i, walkRows contents r before after j ≠ []) :
    walkBound contents r before after i = pageBound before (walkPage contents r before after) i := by
  cases i with
  | zero => rfl
  | succ i =>
    obtain ⟨last, hlast⟩ := exists_last (hne i (Nat.lt_succ_self i))
    have heq : (walkRows contents r before after i).getLast? = some last := hlast
    rw [walkBound_succ hlast, pageBound, walkPage, List.getLast?_map, heq]
    rfl

section

variable (h : Ingestion contents) (hf : r.filters.Built) (hb : DayOf r.before before)
  (ha : DayOf r.after after)
  (known : isBlankText r.query = true ∨ ∃ w, (contents 0).snapshot.Resolves r.query w)

include hf hb ha known

theorem search_first (hlast : r.last = "") :
    (Store.memory (contents 0)).search r = .ok (walkPage contents r before after 0) := by
  have hcursor : CursorOf r.last none := by
    rw [hlast]
    exact .absent
  exact search_pageRows hf hcursor hb ha known

include h

theorem search_next {i : Nat} {last : Row}
    (hlast : last ∈ (walkRows contents r before after i).getLast?) :
    (Store.memory (contents (i + 1))).search { r with last := last.date.cursor } =
      .ok (walkPage contents r before after (i + 1)) := by
  have hplain := walkRows_plain h (List.mem_of_getLast? hlast)
  rw [← h.snapshot_eq (i + 1)] at known
  have hsearch := search_pageRows (r := { r with last := last.date.cursor }) hf
    (cursorOf_cursor hplain) hb ha known
  simp only [pageRows_of_cursor, wanted_of_cursor] at hsearch
  rw [hsearch, walkPage, walkRows, walkBound_succ hlast]
  rfl

theorem exists_walk (hlast : r.last = "") :
    ∃ count, Walk contents r count (walkPage contents r before after) := by
  have hempty : ∃ count, walkRows contents r before after count = [] := exists_empty_page h
  refine ⟨Nat.find hempty, ⟨search_first hf hb ha known hlast, ?_, ?_⟩⟩
  · intro i hi
    obtain ⟨last, hrow⟩ := exists_last (Nat.find_min hempty hi)
    have heq : (walkRows contents r before after i).getLast? = some last := hrow
    refine ⟨last.date.cursor, ?_, search_next h hf hb ha known hrow⟩
    rw [walkPage_cursor, heq]
    rfl
  · rw [walkPage, Nat.find_spec hempty]
    rfl

theorem Walk.page_eq (hlast : r.last = "") {count : Nat} {page : Nat → Page}
    (hw : Walk contents r count page) {i : Nat} (hi : i ≤ count) :
    page i = walkPage contents r before after i := by
  induction i with
  | zero =>
    have hfirst := hw.first
    rw [search_first hf hb ha known hlast] at hfirst
    exact (Except.ok.inj hfirst).symm
  | succ i ih =>
    obtain ⟨cursor, hc, hnext⟩ := hw.next i hi
    rw [ih (by omega), walkPage_cursor] at hc
    obtain ⟨last, hrow, rfl⟩ := Option.map_eq_some_iff.1 hc
    rw [search_next h hf hb ha known hrow] at hnext
    exact (Except.ok.inj hnext).symm

end

theorem covers_walkPage (h : Ingestion contents) {count : Nat}
    (hne : ∀ i < count, walkRows contents r before after i ≠ [])
    (hnil : walkRows contents r before after count = []) :
    Covers contents r before after count (walkPage contents r before after)
      (fun i => (walkRows contents r before after i).map Prod.snd) := by
  have hfound : ∀ i, ∀ c ∈ (walkPage contents r before after i).commits,
      ∃ n, (c, n) ∈ walkRows contents r before after i := by
    intro i c hc
    obtain ⟨⟨c', n⟩, hrow, rfl⟩ := List.mem_map.1 hc
    exact ⟨n, hrow⟩
  have honce : ((List.range (count + 1)).flatMap fun i =>
      (walkRows contents r before after i).map Prod.snd).Nodup := by
    refine List.nodup_flatMap.2 ⟨fun i _ => pageRows_places_nodup, ?_⟩
    refine List.pairwise_lt_range.imp fun {i j} hij => ?_
    intro n hi hj
    obtain ⟨⟨a, n'⟩, ha, rfl⟩ := List.mem_map.1 hi
    obtain ⟨⟨b, m⟩, hb, hm⟩ := List.mem_map.1 hj
    obtain rfl : m = n' := hm
    -- Two rows of one place are the same commit, which cannot be older than itself.
    have hsame := h.stays (Nat.le_of_lt hij) (walkRows_wanted ha).1
    rw [(walkRows_wanted hb).1] at hsame
    obtain rfl : b = a := Option.some.inj hsame
    have hold := walkRows_older hij ha hb
    rw [Row.date, Instant.before_irrefl] at hold
    cases hold
  refine ⟨?_, ?_, ?_, honce, ?_, ?_, ?_⟩
  · intro i _
    exact List.pairwise_map.2 pageRows_sorted
  · intro i j hij _ a ha b hb
    obtain ⟨n, ha⟩ := hfound i a ha
    obtain ⟨m, hb⟩ := hfound j b hb
    exact walkRows_older hij ha hb
  · intro i _
    simp only [walkPage, List.map_map]
    exact List.map_congr_left fun row hrow => (walkRows_wanted hrow).1
  · intro n c hc hw hdates
    refine List.count_eq_one_of_mem honce ?_
    have hdates : ∀ i < count, ∀ last ∈ (walkRows contents r before after i).getLast?,
        Row.date (c, n) ≠ last.date := by
      intro i hi last hlast
      refine hdates i (Nat.le_of_lt hi) last.1 ?_
      have heq : (walkRows contents r before after i).getLast? = some last := hlast
      rw [walkPage, List.getLast?_map, heq]
      rfl
    rcases walkRows_complete h hc hw hdates with ⟨i, hi, hrow⟩ | hstill
    · exact List.mem_flatMap.2 ⟨i, List.mem_range.2 (by omega), List.mem_map.2 ⟨_, hrow, rfl⟩⟩
    · rw [← h.snapshot_eq count] at hstill
      exact absurd hstill
        (not_wanted_of_pageRows_nil hnil (h.stays (Nat.zero_le count) hc))
  · intro i hi cursor hcursor
    obtain ⟨last, hlast⟩ := exists_last (hne i hi)
    have heq : (walkRows contents r before after i).getLast? = some last := hlast
    rw [walkPage_cursor, heq] at hcursor
    obtain rfl : last.date.cursor = cursor := Option.some.inj hcursor
    rw [← walkBound_eq (i + 1) fun j hj => hne j (by omega), walkBound_succ hlast]
    exact cursorOf_cursor (walkRows_plain h (List.mem_of_getLast? hlast))
  · intro i hi
    rw [← walkBound_eq i fun j hj => hne j (by omega)]
    rfl

theorem Covers.of_eq {count : Nat} {page page' : Nat → Page} {places : Nat → List Nat}
    (h : Covers contents r before after count page places)
    (he : ∀ i ≤ count, page' i = page i) :
    Covers contents r before after count page' places := by
  have hbound : ∀ i ≤ count, pageBound before page' i = pageBound before page i := by
    intro i hi
    cases i with
    | zero => rfl
    | succ i => rw [pageBound, pageBound, he i (by omega)]
  refine ⟨?_, ?_, ?_, h.once, ?_, ?_, ?_⟩
  · intro i hi
    rw [he i hi]
    exact h.descending i hi
  · intro i j hij hj
    rw [he i (by omega), he j hj]
    exact h.older i j hij hj
  · intro i hi
    rw [he i hi]
    exact h.stored i hi
  · intro n c hc hw hdates
    refine h.complete n c hc hw fun i hi => ?_
    rw [← he i hi]
    exact hdates i hi
  · intro i hi
    rw [he i (by omega), hbound (i + 1) hi]
    exact h.cursors i hi
  · intro i hi
    rw [he i hi, hbound i hi]
    exact h.totals i hi

theorem dayOf_of_validate (hr : r.validate = .ok ()) (hlast : r.last = "") :
    (∃ before, DayOf r.before before) ∧ ∃ after, DayOf r.after after := by
  rw [SearchRequest.validate, SearchRequest.upperBound, hlast, SearchRequest.lowerBound] at hr
  constructor
  · rcases DayOf.exists_or_fault r.before with h | ⟨given, fault, hfault⟩
    · exact h
    · rw [readBound_of_fault given hfault] at hr
      cases hr
  · rcases DayOf.exists_or_fault r.after with h | ⟨given, fault, hfault⟩
    · exact h
    · rw [readBound_of_fault given hfault] at hr
      cases hb : readBound r.before <;> rw [hb] at hr <;> cases hr

end

/-- A walk through the pages of a request whose texts can be read and whose words are known comes to
its end, whatever is saved on the way. On its way dates descend, no stored commit is met twice, and
every wanted commit that was there from the beginning is met, unless it shares the date of the last
row of a page. -/
theorem walk_covers {contents : Nat → Contents} {r : SearchRequest} (hr : r.validate = .ok ())
    (hlast : r.last = "") (hf : r.filters.Built)
    (hfound : ∀ what, (Store.memory (contents 0)).search r ≠ .error (.notFound what))
    (h : Ingestion contents) :
    ∃ before after, DayOf r.before before ∧ DayOf r.after after ∧
      (∃ count page, Walk contents r count page) ∧
      ∀ count page, Walk contents r count page →
        ∃ places, Covers contents r before after count page places := by
  obtain ⟨⟨before, hb⟩, after, ha⟩ := dayOf_of_validate hr hlast
  have known : isBlankText r.query = true ∨ ∃ w, (contents 0).snapshot.Resolves r.query w := by
    by_contra hnot
    push Not at hnot
    have hcursor : CursorOf r.last none := by
      rw [hlast]
      exact .absent
    exact hfound _ (search_unknown hcursor hb ha (Bool.eq_false_iff.2 hnot.1) hnot.2)
  refine ⟨before, after, hb, ha, ?_, ?_⟩
  · obtain ⟨count, hw⟩ := exists_walk h hf hb ha known hlast
    exact ⟨count, _, hw⟩
  · intro count page hw
    have hpage := fun i (hi : i ≤ count) => hw.page_eq h hf hb ha known hlast hi
    have hne : ∀ i < count, walkRows contents r before after i ≠ [] := by
      intro i hi hnil
      obtain ⟨cursor, hc, -⟩ := hw.next i hi
      rw [hpage i (Nat.le_of_lt hi), walkPage_cursor, hnil] at hc
      cases hc
    have hnil : walkRows contents r before after count = [] := by
      have hends := hw.ends
      rw [hpage count (Nat.le_refl count), walkPage] at hends
      exact List.map_eq_nil_iff.1 hends
    exact ⟨_, (covers_walkPage h hne hnil).of_eq hpage⟩

/-- A walk of one commit a page, during which a commit of an older date is saved. -/
theorem walk_covers_back_dated :
    let commit := fun seconds =>
      Commit.mk (.ofSeconds seconds) "a1" "fix" "" "Typo" "hub" "api" false false
    let contents := fun i => if i = 0 then Contents.mk [commit 120] .empty
      else ⟨[commit 120, commit 60], .empty⟩
    let r := { SearchRequest.all with pageSize := 1 }
    Ingestion contents ∧ ∃ before after count page places,
      Walk contents r count page ∧ Covers contents r before after count page places := by
  intro commit contents r
  have hplain : ∀ seconds, (seconds = 60 ∨ seconds = 120) → (commit seconds).date.IsPlain := by
    rintro seconds (rfl | rfl) <;> exact ⟨by decide, by decide, by decide⟩
  have h : Ingestion contents := by
    refine ⟨?_, fun i => ?_⟩
    · intro c hc
      rw [List.mem_singleton.1 hc]
      exact hplain 120 (.inr rfl)
    · cases i with
      | zero => exact .commit .nothing (hplain 60 (.inl rfl)) (by decide +kernel)
      | succ i => exact .nothing
  have hf : r.filters.Built := .empty
  have hfirst := search_pageRows (s := contents 0) hf (.absent : CursorOf r.last none) .absent
    .absent (.inl rfl)
  have hvalid : r.validate = .ok () := rfl
  have hfound : ∀ what, (Store.memory (contents 0)).search r ≠ .error (.notFound what) := by
    intro what
    rw [hfirst]
    simp
  obtain ⟨before, after, -, -, ⟨count, page, hw⟩, hall⟩ := walk_covers hvalid rfl hf hfound h
  obtain ⟨places, hc⟩ := hall count page hw
  exact ⟨h, before, after, count, page, places, hw, hc⟩

end CommitSearch
