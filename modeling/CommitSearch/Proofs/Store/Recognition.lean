import CommitSearch.Proofs.Store.Recall

/-!
# Known words are found

The words that a text resolves to are looked up in the snapshot of the last refresh, the commits that
are selected by them are those stored now. Since commits are only ever added, every word of the
snapshot is still a word of a stored commit. Main statement: a search for a text alone either knows
no word of it and says so, or finds a commit; the empty word, under which a word of marks alone is
known, is never among the words of a text.
-/

namespace CommitSearch

open CommitSearch.Number CommitSearch.Text

/-- The contents of a store after saves and refreshes in any order. A save that is refused counts as
well. -/
inductive Contents.Reached : Contents → Prop
  | empty : Reached .empty
  | save {s : Contents} (before : Reached s) (c : Commit) : Reached (s.saved c)
  | refresh {s : Contents} (before : Reached s) : Reached s.refresh

variable {s : Contents} {text w : String}

/-- Every known word is a word of a stored commit. -/
theorem Contents.Reached.exists_commit (h : s.Reached) (known : w ∈ s.snapshot.words) :
    ∃ c ∈ s.commits, w ∈ c.words := by
  induction h with
  | empty => cases known
  | @save s before c ih =>
    rw [Contents.snapshot_saved] at known
    obtain ⟨d, stored, hword⟩ := ih known
    exact ⟨d, (s.commits_saved c).subset stored, hword⟩
  | refresh before ih => exact List.mem_flatMap.1 ((mem_distinct _ _).1 known)

/-! ### Texts without trigrams -/

theorem overlap_nil (b : List String) : overlap [] b = ⟨0, binary32.leastExponent⟩ := by
  have hcommon : commonCount [] b = 0 := rfl
  rw [overlap, hcommon]
  split
  · exact BinaryFormat.ofNat_zero binary32
  · exact BinaryFormat.div_ofNat_zero binary32 _

theorem not_isMatch_empty (text : String) : isMatch (similarity "" text) = false := by
  have htrigrams : trigrams "" = [] := rfl
  rw [similarity, htrigrams, overlap_nil, isMatch, BinaryValue.lt_zero]

theorem Snapshot.Resolves.ne_empty {snapshot : Snapshot} (h : snapshot.Resolves text w) :
    w ≠ "" := by
  rintro rfl
  have hmatch := h.2
  rw [not_isMatch_empty] at hmatch
  cases hmatch

/-! ### The words of a text -/

/-- What a text resolves to: ascending words, each of which the snapshot has and matches with it. -/
theorem exists_resolved (s : Contents) (text : String) :
    ∃ words, (Store.memory s).resolve text = .ok words ∧ words.Pairwise (· < ·) ∧
      ∀ w, w ∈ words ↔ isBlankText text = false ∧ s.snapshot.Resolves text w := by
  cases ink : isBlankText text with
  | true => exact ⟨[], resolve_of_blank ink, .nil, by simp⟩
  | false =>
    refine ⟨_, resolve_of_text ink, ascending_foldr_insertDistinct .nil _, fun w => ?_⟩
    rw [mem_similar]
    simp

/-- A page counts a commit that is selected. -/
theorem total_pos_of_selected {q : Query} {c : Commit} (h : c ∈ s.selected q) :
    1 ≤ (s.execute q).total :=
  List.length_pos_of_mem h

/-- The words of a text are ascending words of stored commits, none of them empty. A search for the
text alone is an error when there are none, and otherwise finds something. -/
theorem recognized_text_found (reached : s.Reached) (text : String) :
    ∃ words, (Store.memory s).resolve text = .ok words ∧ words.Pairwise (· < ·) ∧
      (∀ w ∈ words, w ≠ "" ∧ ∃ c ∈ s.commits, w ∈ c.words) ∧
      (isBlankText text = false → ∀ size,
        words = [] ∧ (Store.memory s).search
          { SearchRequest.all with query := text, pageSize := size } =
            .error (.notFound .knownWords) ∨
        ∃ p, (Store.memory s).search
          { SearchRequest.all with query := text, pageSize := size } = .ok p ∧ 1 ≤ p.total) := by
  obtain ⟨words, hresolve, hascending, hwords⟩ := exists_resolved s text
  refine ⟨words, hresolve, hascending, fun w hw => ?_, fun ink size => ?_⟩
  · have hresolves := ((hwords w).1 hw).2
    exact ⟨hresolves.ne_empty, reached.exists_commit hresolves.1⟩
  · cases words with
    | nil =>
      have hnone : ∀ w, ¬ s.snapshot.Resolves text w := fun w hw => by
        simpa using (hwords w).2 ⟨ink, hw⟩
      exact .inl ⟨rfl, search_unknown .absent .absent .absent ink hnone⟩
    | cons w more =>
      have hresolves := ((hwords w).1 List.mem_cons_self).2
      obtain ⟨c, stored, hword⟩ := reached.exists_commit hresolves.1
      obtain ⟨_, q, -, -, hsearch, hselected⟩ := search_of_resolves ink hresolves size
      exact .inr ⟨_, hsearch, total_pos_of_selected ((hselected c).2 ⟨stored, w, hword, hresolves⟩)⟩

/-- A commit whose content begins with a mark that stands alone. -/
def markedCommit : Commit :=
  ⟨.ofSeconds 1, "a1", "feat", "", "\u0345 Add license", "r", "p", false, false⟩

/-- The mark makes the empty word a known one; a misspelt word finds the commit all the same. -/
theorem recognized_text_found_license :
    let s := (Contents.empty.saved markedCommit).refresh.saved capitalCommit
    s.Reached ∧ "" ∈ s.snapshot.words ∧ (Store.memory s).resolve "licence" = .ok ["license"] ∧
      (∃ c ∈ s.commits, "license" ∈ c.words) ∧
      ∃ p, (Store.memory s).search { SearchRequest.all with query := "licence", pageSize := 1 } =
        .ok p ∧ 1 ≤ p.total := by
  intro s
  have reached : s.Reached := .save (.refresh (.save .empty markedCommit)) capitalCommit
  have hwords : distinct (s.snapshot.similar (trim "licence")) = ["license"] := by decide +kernel
  have ink : isBlankText "licence" = false := by decide +kernel
  have hresolve : (Store.memory s).resolve "licence" = .ok ["license"] := by
    rw [resolve_of_text ink, hwords]
  obtain ⟨words, hresolve', -, hall, hsearch⟩ := recognized_text_found reached "licence"
  obtain rfl := Except.ok.inj (hresolve.symm.trans hresolve')
  refine ⟨reached, by decide +kernel, hresolve, (hall "license" List.mem_cons_self).2, ?_⟩
  exact (hsearch ink 1).resolve_left (by simp)

end CommitSearch
