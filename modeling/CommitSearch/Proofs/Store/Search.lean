import CommitSearch.Proofs.Store.Order
import CommitSearch.Proofs.Store.Parts
import CommitSearch.Proofs.Text.NormalForm

/-!
# What a search answers

`Answers` says, without queries and predicates, which answer a request has to get: the first text
that cannot be read is refused, a text without a known word is not found, and everything else gets
the wanted commits, newest first, cut to one page. There is exactly one such answer, and it is the
one of `Store.search`.
-/

namespace CommitSearch

open CommitSearch.Calendar CommitSearch.Text

/-! ### Filters -/

/-- Filters to which values came by insertion only. -/
inductive Filters.Built : Filters → Prop
  | empty : Built .empty
  | insert {f : Filters} (built : Built f) (key : FilterKey) (values : List String) :
      Built (f.insert key values)

theorem mem_normalizeValues {v : String} {values : List String} :
    v ∈ normalizeValues values ↔ (∃ u ∈ values, normalize u = v) ∧ v ≠ "" := by
  simp [normalizeValues]

theorem mem_foldr_insertDistinct {v : String} {added values : List String} :
    v ∈ added.foldr insertDistinct values ↔ v ∈ added ∨ v ∈ values := by
  induction added with
  | nil => simp
  | cons u rest ih => rw [List.foldr_cons, mem_insertDistinct, ih, List.mem_cons, or_assoc]

theorem Filters.Built.normal {f : Filters} (h : f.Built) {key : FilterKey} {v : String}
    (hv : v ∈ f.values key) : normalize v = v ∧ v ≠ "" := by
  induction h with
  | empty => cases key <;> cases hv
  | insert built key' values ih =>
    rw [values_insert] at hv
    split at hv
    · next hk =>
      rcases mem_foldr_insertDistinct.1 hv with hv | hv
      · obtain ⟨⟨u, -, rfl⟩, hne⟩ := mem_normalizeValues.1 hv
        exact ⟨normalize_normalize u, hne⟩
      · exact ih (hk ▸ hv)
    · exact ih hv

theorem Filters.Built.normalizeValues_eq {f : Filters} (h : f.Built) (key : FilterKey) :
    normalizeValues (f.values key) = f.values key := by
  have hmap : (f.values key).map normalize = f.values key := by
    refine (List.map_congr_left fun v hv => ?_).trans (List.map_id _)
    exact (h.normal hv).1
  rw [normalizeValues, hmap, List.filter_eq_self]
  intro v hv
  simpa using (h.normal hv).2

theorem filterPredicates_of_built {f : Filters} (h : f.Built) :
    Query.filterPredicates f = f.toList.map fun entry => .anyOf entry.1 entry.2 := by
  rw [Query.filterPredicates, ← List.filterMap_eq_map]
  refine List.filterMap_congr fun entry he => ?_
  obtain ⟨hm, hne⟩ := List.mem_filter.1 he
  obtain ⟨key, -, rfl⟩ := List.mem_map.1 hm
  simp only [h.normalizeValues_eq] at *
  simpa using hne

/-! ### The words of a query -/

/-- A known word that is similar enough to the text of a query. -/
def Snapshot.Resolves (s : Snapshot) (query word : String) : Prop :=
  word ∈ s.words ∧ isMatch (similarity word (fold (trim query))) = true

instance (s : Snapshot) (query word : String) : Decidable (s.Resolves query word) :=
  inferInstanceAs (Decidable (_ ∧ _))

theorem resolve_of_blank {s : Contents} {query : String} (h : isBlankText query = true) :
    (Store.memory s).resolve query = .ok [] := by
  simp [Store.resolve, trim_isEmpty, h]

theorem resolve_of_text {s : Contents} {query : String} (h : isBlankText query = false) :
    (Store.memory s).resolve query = .ok (distinct (s.snapshot.similar (trim query))) := by
  simp [Store.resolve, trim_isEmpty, h, Store.similar, Except.map]

theorem mem_similar {s : Snapshot} {query word : String} :
    word ∈ distinct (s.similar (trim query)) ↔ s.Resolves query word := by
  rw [mem_distinct, Snapshot.similar, List.mem_filter]
  rfl

/-! ### Bounds -/

/-- The bound for which the text of a cursor stands: none if it is empty. -/
inductive CursorOf : String → Option Instant → Prop
  | absent : CursorOf "" none
  | present {text : String} {i : Instant} (given : text ≠ "") (read : Instant.readCursor text = .ok i) :
      CursorOf text (some i)

/-- The bound for which the text of a day stands: none if it is empty. -/
inductive DayOf : String → Option Instant → Prop
  | absent : DayOf "" none
  | present {text : String} {d : Day} (given : text ≠ "") (read : Day.read text = .ok d) :
      DayOf text (some d.start)

theorem isEmpty_of_given {text : String} (h : text ≠ "") : text.isEmpty = false := by
  simpa [Bool.eq_false_iff] using h

theorem DayOf.readBound_eq {text : String} {b : Option Instant} (h : DayOf text b) :
    readBound text = .ok b := by
  cases h with
  | absent => rfl
  | present given read => rw [readBound, isEmpty_of_given given, read]; rfl

theorem readBound_of_fault {text : String} {fault : DateFault} (given : text ≠ "")
    (h : Day.read text = .error fault) :
    readBound text = .error (.refused (.unreadableDay text fault)) := by
  rw [readBound, isEmpty_of_given given, h]
  rfl

theorem CursorOf.cursor_cases {r : SearchRequest} {b : Option Instant} (h : CursorOf r.last b) :
    (r.last.isEmpty = true ∧ b = none) ∨ (r.last.isEmpty = false ∧ r.upperBound = .ok b) := by
  generalize hl : r.last = text at h
  cases h with
  | absent => exact .inl ⟨rfl, rfl⟩
  | present given read =>
    refine .inr ⟨isEmpty_of_given given, ?_⟩
    simp [SearchRequest.upperBound, hl, readCursor, isEmpty_of_given given, read, Except.map]

theorem CursorOf.upperBound_eq {r : SearchRequest} {c b : Option Instant} (h : CursorOf r.last c)
    (hb : DayOf r.before b) : r.upperBound = .ok (c <|> b) := by
  cases c with
  | none =>
    rcases h.cursor_cases with ⟨hl, -⟩ | ⟨hl, hu⟩
    · rw [SearchRequest.upperBound, hl]
      exact hb.readBound_eq
    · rw [SearchRequest.upperBound, hl] at hu
      simp only [Bool.false_eq_true, if_false] at hu
      cases hr : readCursor r.last <;> simp [hr, Except.map] at hu
  | some i =>
    rcases h.cursor_cases with ⟨-, hn⟩ | ⟨-, hu⟩
    · cases hn
    · exact hu

theorem CursorOf.exists_or_fault (text : String) :
    (∃ b, CursorOf text b) ∨ text ≠ "" ∧ ∃ fault, Instant.readCursor text = .error fault := by
  by_cases given : text = ""
  · exact .inl ⟨none, given ▸ .absent⟩
  · cases h : Instant.readCursor text with
    | ok i => exact .inl ⟨some i, .present given h⟩
    | error fault => exact .inr ⟨given, fault, rfl⟩

theorem DayOf.exists_or_fault (text : String) :
    (∃ b, DayOf text b) ∨ text ≠ "" ∧ ∃ fault, Day.read text = .error fault := by
  by_cases given : text = ""
  · exact .inl ⟨none, given ▸ .absent⟩
  · cases h : Day.read text with
    | ok d => exact .inl ⟨some d.start, .present given h⟩
    | error fault => exact .inr ⟨given, fault, rfl⟩

/-! ### Wanted commits -/

/-- A commit for which a request asks, between two bounds: it has a known word of the query, unless
the query is blank, and an accepted value of every key that has any. -/
structure Wanted (s : Snapshot) (r : SearchRequest) (upper lower : Option Instant) (c : Commit) :
    Prop where
  word : isBlankText r.query = true ∨ ∃ w ∈ c.words, s.Resolves r.query w
  value : ∀ key ∈ FilterKey.all,
    r.filters.values key ≠ [] → key.valueOf c ∈ r.filters.values key
  older : ∀ b ∈ upper, c.date.before b = true
  newer : ∀ b ∈ lower, b.before c.date = true

instance (s : Snapshot) (r : SearchRequest) (upper lower : Option Instant) :
    DecidablePred (Wanted s r upper lower) := fun c =>
  decidable_of_iff
    ((isBlankText r.query = true ∨ ∃ w ∈ c.words, s.Resolves r.query w) ∧
      (∀ key ∈ FilterKey.all, r.filters.values key ≠ [] →
        key.valueOf c ∈ r.filters.values key) ∧
      (∀ b ∈ upper, c.date.before b = true) ∧ ∀ b ∈ lower, b.before c.date = true)
    ⟨fun ⟨word, value, older, newer⟩ => ⟨word, value, older, newer⟩,
      fun ⟨word, value, older, newer⟩ => ⟨word, value, older, newer⟩⟩

theorem wanted_of_cursor {s : Snapshot} {r : SearchRequest} {upper lower : Option Instant}
    {c : Commit} (last : String) :
    Wanted s { r with last := last } upper lower c ↔ Wanted s r upper lower c :=
  ⟨fun ⟨word, value, older, newer⟩ => ⟨word, value, older, newer⟩,
    fun ⟨word, value, older, newer⟩ => ⟨word, value, older, newer⟩⟩

/-- The words of a request are what a query takes for them: none for a blank text, and for any other
the known words, of which there is one. -/
structure WordsFor (s : Snapshot) (query : String) (words : List String) : Prop where
  blank : isBlankText query = true → words = []
  known : isBlankText query = false → words ≠ [] ∧ ∀ w, w ∈ words ↔ s.Resolves query w

theorem wordPredicates_hold {s : Snapshot} {query : String} {words : List String}
    (h : WordsFor s query words) (c : Commit) :
    (Query.wordPredicates words).all (Predicate.holds c) = true ↔
      isBlankText query = true ∨ ∃ w ∈ c.words, s.Resolves query w := by
  cases hb : isBlankText query with
  | true => simp [Query.wordPredicates, h.blank hb]
  | false =>
    obtain ⟨hne, hw⟩ := h.known hb
    simp [Query.wordPredicates, hne, Predicate.holds, hw]

theorem filterPredicates_hold {f : Filters} (h : f.Built) (c : Commit) :
    (Query.filterPredicates f).all (Predicate.holds c) = true ↔
      ∀ key ∈ FilterKey.all, f.values key ≠ [] → key.valueOf c ∈ f.values key := by
  simp [filterPredicates_of_built h, Filters.toList, Predicate.holds, or_iff_not_imp_left]

theorem bound_holds (b : Option Instant) (p : Instant → Predicate) (c : Commit) :
    (b.map p).toList.all (Predicate.holds c) = true ↔ ∀ i ∈ b, (p i).holds c = true := by
  cases b <;> simp

theorem selects_build {s : Snapshot} {r : SearchRequest} (hf : r.filters.Built)
    {words : List String} (hw : WordsFor s r.query words) (cursor before after : Option Instant)
    (c : Commit) :
    (Query.build r.pageSize cursor words r.filters before after).selects c =
      decide (Wanted s r (cursor <|> before) after c) := by
  rw [Bool.eq_iff_iff, decide_eq_true_iff, Query.selects, Query.build, List.all_append,
    List.all_append, List.all_append, Bool.and_eq_true, Bool.and_eq_true, Bool.and_eq_true,
    wordPredicates_hold hw, filterPredicates_hold hf, bound_holds, bound_holds]
  constructor
  · rintro ⟨⟨⟨word, value⟩, older⟩, newer⟩
    exact ⟨word, value, older, newer⟩
  · rintro ⟨word, value, older, newer⟩
    exact ⟨⟨⟨word, value⟩, older⟩, newer⟩

/-! ### The answer -/

/-- The answer that a request has to get. -/
inductive Answers (s : Contents) (r : SearchRequest) : Except Error Page → Prop
  | unreadableCursor {fault : DateFault} (given : r.last ≠ "")
      (last : Instant.readCursor r.last = .error fault) :
      Answers s r (.error (.refused (.unreadableCursor r.last fault)))
  | unreadableBefore {cursor : Option Instant} {fault : DateFault} (last : CursorOf r.last cursor)
      (given : r.before ≠ "") (before : Day.read r.before = .error fault) :
      Answers s r (.error (.refused (.unreadableDay r.before fault)))
  | unreadableAfter {cursor upper : Option Instant} {fault : DateFault}
      (last : CursorOf r.last cursor) (before : DayOf r.before upper)
      (given : r.after ≠ "") (after : Day.read r.after = .error fault) :
      Answers s r (.error (.refused (.unreadableDay r.after fault)))
  | unknown {cursor upper lower : Option Instant} (last : CursorOf r.last cursor)
      (before : DayOf r.before upper) (after : DayOf r.after lower)
      (text : isBlankText r.query = false) (none : ∀ w, ¬ s.snapshot.Resolves r.query w) :
      Answers s r (.error (.notFound .knownWords))
  | page {cursor upper lower : Option Instant} {sorted : List Commit}
      (last : CursorOf r.last cursor) (before : DayOf r.before upper) (after : DayOf r.after lower)
      (known : isBlankText r.query = true ∨ ∃ w, s.snapshot.Resolves r.query w)
      (order : NewestFirst Commit.date
        (s.commits.filter (Wanted s.snapshot r (cursor <|> upper) lower)) sorted) :
      Answers s r (.ok
        { commits := sorted.take (max 1 (min r.pageSize 100))
          total := (s.commits.filter (Wanted s.snapshot r (cursor <|> upper) lower)).length })

theorem search_of_read {s : Contents} {r : SearchRequest} {cursor upper lower : Option Instant}
    (last : CursorOf r.last cursor) (before : DayOf r.before upper) (after : DayOf r.after lower) :
    (Store.memory s).search r = ((Store.memory s).resolve r.query).bind fun words =>
      if !isBlankText r.query && words.isEmpty then .error (.notFound .knownWords)
      else .ok (s.execute (Query.build r.pageSize cursor words r.filters upper lower)) := by
  have hv : r.validate = .ok () := by
    rw [SearchRequest.validate, last.upperBound_eq before, SearchRequest.lowerBound,
      before.readBound_eq, after.readBound_eq]
    rfl
  have hq : ∀ words, Query.ofRequest r words =
      .ok (Query.build r.pageSize cursor words r.filters upper lower) := by
    intro words
    rw [Query.ofRequest, before.readBound_eq, SearchRequest.lowerBound, after.readBound_eq]
    rcases last.cursor_cases with ⟨hl, rfl⟩ | ⟨hl, hu⟩
    · rw [hl]
      rfl
    · rw [hl, hu]
      rfl
  simp only [Store.search, hv, Store.queryOf, trim_isEmpty, hq, bind, Except.bind]
  cases (Store.memory s).resolve r.query with
  | error e => rfl
  | ok words =>
    dsimp only
    cases !isBlankText r.query && words.isEmpty <;> rfl

theorem Contents.mem_selected {s : Contents} {q : Query} {c : Commit} :
    c ∈ s.selected q ↔ c ∈ s.commits ∧ q.selects c = true := by
  rw [selected, List.mem_mergeSort, List.mem_filter]

/-- A request without bounds selects what it asks for, once its query is resolved. -/
theorem search_of_words {s : Contents} {r : SearchRequest} (hf : r.filters.Built)
    {words : List String} (resolved : (Store.memory s).resolve r.query = .ok words)
    (hw : WordsFor s.snapshot r.query words) (last : r.last = "") (before : r.before = "")
    (after : r.after = "") :
    ∃ q, Store.queryOf r words = .ok q ∧ (Store.memory s).search r = .ok (s.execute q) ∧
      ∀ c, c ∈ s.selected q ↔ c ∈ s.commits ∧ Wanted s.snapshot r none none c := by
  have hlast : CursorOf r.last none := last ▸ .absent
  have hbefore : DayOf r.before none := before ▸ .absent
  have hafter : DayOf r.after none := after ▸ .absent
  have htext : (!isBlankText r.query && words.isEmpty) = false := by
    cases hb : isBlankText r.query with
    | true => rfl
    | false => simpa using (hw.known hb).1
  refine ⟨Query.build r.pageSize none words r.filters none none, ?_, ?_, fun c => ?_⟩
  · simp [Store.queryOf, trim_isEmpty, htext, Query.ofRequest, readBound, SearchRequest.lowerBound,
      last, before, after, bind, Except.bind, pure, Except.pure]
  · rw [search_of_read hlast hbefore hafter, resolved, Except.bind, htext]
    rfl
  · have hselects := selects_build hf hw none none none c
    rw [Contents.mem_selected, hselects, decide_eq_true_iff]
    rfl

theorem search_unknown {s : Contents} {r : SearchRequest} {cursor upper lower : Option Instant}
    (last : CursorOf r.last cursor) (before : DayOf r.before upper) (after : DayOf r.after lower)
    (text : isBlankText r.query = false) (none : ∀ w, ¬ s.snapshot.Resolves r.query w) :
    (Store.memory s).search r = .error (.notFound .knownWords) := by
  have hw : distinct (s.snapshot.similar (trim r.query)) = [] :=
    List.eq_nil_iff_forall_not_mem.2 fun w hw => none w (mem_similar.1 hw)
  rw [search_of_read last before after, resolve_of_text text, text, hw]
  rfl

theorem search_page {s : Contents} {r : SearchRequest} (hf : r.filters.Built)
    {cursor upper lower : Option Instant} {sorted : List Commit}
    (last : CursorOf r.last cursor) (before : DayOf r.before upper) (after : DayOf r.after lower)
    (known : isBlankText r.query = true ∨ ∃ w, s.snapshot.Resolves r.query w)
    (order : NewestFirst Commit.date
      (s.commits.filter (Wanted s.snapshot r (cursor <|> upper) lower)) sorted) :
    (Store.memory s).search r = .ok
      { commits := sorted.take (max 1 (min r.pageSize 100))
        total := (s.commits.filter (Wanted s.snapshot r (cursor <|> upper) lower)).length } := by
  have hwords : ∃ words, (Store.memory s).resolve r.query = .ok words ∧
      (!isBlankText r.query && words.isEmpty) = false ∧ WordsFor s.snapshot r.query words := by
    cases hb : isBlankText r.query with
    | true =>
      exact ⟨[], resolve_of_blank hb, rfl, ⟨fun _ => rfl, fun h => absurd (hb.symm.trans h) (by simp)⟩⟩
    | false =>
      obtain ⟨w, hw⟩ := known.resolve_left (by simp [hb])
      have hne : distinct (s.snapshot.similar (trim r.query)) ≠ [] :=
        List.ne_nil_of_mem (mem_similar.2 hw)
      exact ⟨_, resolve_of_text hb, by simpa using hne,
        ⟨fun h => absurd (hb.symm.trans h) (by simp), fun _ => ⟨hne, fun w => mem_similar⟩⟩⟩
  obtain ⟨words, hres, htext, hw⟩ := hwords
  have hsel : s.selected (Query.build r.pageSize cursor words r.filters upper lower) = sorted := by
    rw [Contents.selected_eq, List.filter_congr fun c _ => selects_build hf hw cursor upper lower c]
    exact newestFirst_iff.2 order
  have hlen := order.length_eq
  rw [search_of_read last before after, hres, ← hlen]
  simp only [Except.bind, htext, Bool.false_eq_true, if_false, Contents.execute, hsel]
  rfl

theorem Answers.search_eq {s : Contents} {r : SearchRequest} (hf : r.filters.Built)
    {answer : Except Error Page} (h : Answers s r answer) :
    (Store.memory s).search r = answer := by
  cases h with
  | unreadableCursor given last =>
    simp [Store.search, SearchRequest.validate, SearchRequest.upperBound, isEmpty_of_given given,
      readCursor, last, bind, Except.bind, Except.map]
  | unreadableBefore last given before =>
    have hb := readBound_of_fault given before
    rw [Store.search, SearchRequest.validate, hb, SearchRequest.upperBound]
    cases hl : r.last.isEmpty with
    | true => simp [hb, bind, Except.bind]
    | false =>
      rcases last.cursor_cases with ⟨hl', -⟩ | ⟨-, hc⟩
      · cases hl.symm.trans hl'
      · rw [SearchRequest.upperBound, hl] at hc
        simp only [Bool.false_eq_true, if_false] at hc
        simp [hc, bind, Except.bind]
  | unreadableAfter last before given after =>
    rw [Store.search, SearchRequest.validate, last.upperBound_eq before, before.readBound_eq,
      SearchRequest.lowerBound, readBound_of_fault given after]
    rfl
  | unknown last before after text none => exact search_unknown last before after text none
  | page last before after known order => exact search_page hf last before after known order

theorem Answers.exists (s : Contents) (r : SearchRequest) : ∃ answer, Answers s r answer := by
  rcases CursorOf.exists_or_fault r.last with ⟨cursor, last⟩ | ⟨given, fault, hlast⟩
  · rcases DayOf.exists_or_fault r.before with ⟨upper, before⟩ | ⟨given, fault, hbefore⟩
    · rcases DayOf.exists_or_fault r.after with ⟨lower, after⟩ | ⟨given, fault, hafter⟩
      · by_cases known : isBlankText r.query = true ∨ ∃ w, s.snapshot.Resolves r.query w
        · exact ⟨_, .page last before after known (newestFirst_sorted _)⟩
        · have text : isBlankText r.query = false := Bool.eq_false_iff.2 fun h => known (.inl h)
          exact ⟨_, .unknown last before after text fun w hw => known (.inr ⟨w, hw⟩)⟩
      · exact ⟨_, .unreadableAfter last before given hafter⟩
    · exact ⟨_, .unreadableBefore last given hbefore⟩
  · exact ⟨_, .unreadableCursor given hlast⟩

/-- A search in memory gives the answer that the request has to get, and no other. -/
theorem search_eq_iff_answers {s : Contents} {r : SearchRequest} (hf : r.filters.Built)
    (answer : Except Error Page) :
    (Store.memory s).search r = answer ↔ Answers s r answer := by
  constructor
  · rintro rfl
    obtain ⟨answer, h⟩ := Answers.exists s r
    rwa [h.search_eq hf]
  · exact Answers.search_eq hf

/-- A commit of a day in August 2020, or of the last one before it for zero. -/
def augustCommit (day : Int) (type content : String) : Commit :=
  ⟨.ofSeconds (1596153600 + 86400 * day), "a1", type, "", content, "github.com", "acme/api", false,
    false⟩

/-- Five commits, of which all but one have the word for coffee. -/
def augustContents : Contents :=
  Contents.refresh ⟨[augustCommit 0 "feat" "Caf\u00e9", augustCommit 2 "feat" "CAF\u00c9",
    augustCommit 3 "fix" "Cafe", augustCommit 3 "feat" "Tea", augustCommit 4 "feat" "Caf\u00e9"], .empty⟩

/-- A search with a slip and an accent of its own: one commit is too early, one has another type, one
has other words, and of the two that are left the newer one fills the page. -/
theorem search_eq_iff_answers_mistyped :
    let r := { SearchRequest.all with
      query := " caff\u00e8\n", filters := Filters.empty.insert .type [" Feat"]
      after := "2020-08-01", pageSize := 1 }
    r.filters.Built ∧
      Answers augustContents r (.ok ⟨[augustCommit 4 "feat" "Caf\u00e9"], 2⟩) := by
  intro r
  have hf : r.filters.Built := .insert .empty .type [" Feat"]
  refine ⟨hf, (search_eq_iff_answers hf _).1 ?_⟩
  let q := Query.build 1 none ["cafe"] r.filters none (some (.ofSeconds 1596240000))
  have hquery : augustContents.queryFor r = .ok q := by decide +kernel
  let older := augustCommit 2 "feat" "CAF\u00c9"
  let newer := augustCommit 4 "feat" "Caf\u00e9"
  have hfilter : augustContents.commits.filter q.selects = [older, newer] := by decide +kernel
  have order : NewestFirst Commit.date [older, newer] [newer, older] := by
    refine ⟨List.pairwise_pair.2 (by decide), fun d => ?_⟩
    by_cases hd : older.date = d
    · have hnewer : newer.date ≠ d := by
        rw [← hd]
        decide
      simp [hd, hnewer]
    · simp [List.filter_cons, hd]
  rw [search_eq_map_execute, hquery, Except.map, Contents.execute, Contents.selected_eq, hfilter,
    newestFirst_iff.2 order]
  rfl

end CommitSearch
