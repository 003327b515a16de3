import CommitSearch.Proofs.Store.Saving
import CommitSearch.Proofs.Store.Search
import CommitSearch.Proofs.Text.Words
import CommitSearch.Proofs.Trigram.Similarity

/-!
# Known words find their commits

A word is known from a refresh on under its fold, and whoever asks for the word asks for the same
fold: an alphanumeric run has no blanks to lose, and a fold that is not empty has trigrams, all of
them common with itself. Main statement: a search for any word of a stored commit that a refresh has
seen, with no other conditions, succeeds and selects the commit, however many are saved since.
-/

namespace CommitSearch

open CommitSearch.Calendar CommitSearch.Number CommitSearch.Text

/-! ### Similarity of a text to itself -/

theorem windows_ne_nil (a b c : Char) (rest : List Char) : windows (a :: b :: c :: rest) ≠ [] := by
  simp [windows]

theorem wordTrigrams_ne_nil (word : List Char) : wordTrigrams word ≠ [] := by
  rw [wordTrigrams, Ne, List.map_eq_nil_iff]
  cases lowerChars word with
  | nil => exact windows_ne_nil _ _ _ _
  | cons c rest => exact windows_ne_nil _ _ _ _

theorem trigrams_ne_nil {s : String} {c : Char} (hc : c ∈ s.toList)
    (h : isAlphanumeric c = true) : trigrams s ≠ [] := by
  obtain ⟨word, more, hwords⟩ := List.exists_cons_of_ne_nil (wordsOf_ne_nil hc h)
  obtain ⟨t, ht⟩ := List.exists_mem_of_ne_nil _ (wordTrigrams_ne_nil word)
  have hmem : t ∈ trigrams s := by
    rw [trigrams, mem_distinct, hwords]
    exact List.mem_flatMap.2 ⟨word, List.mem_cons_self, ht⟩
  exact List.ne_nil_of_mem hmem

theorem isMatch_self {s : String} {c : Char} (hc : c ∈ s.toList) (h : isAlphanumeric c = true) :
    isMatch (similarity s s) = true := by
  have some : 0 < (trigramSet s ∪ trigramSet s).card := by
    rw [Finset.union_self, card_trigramSet]
    exact List.length_pos_of_ne_nil (trigrams_ne_nil hc h)
  refine isMatch_of_half some ?_
  rw [Finset.union_self, Finset.inter_self]
  omega

/-! ### Words of a commit -/

/-- A word that a refresh has seen is what its text resolves to, among others. -/
theorem resolves_of_isRun {commits : List Commit} {c : Commit} (stored : c ∈ commits)
    {text run : String} (place : text ∈ [c.hash, c.type, c.component, c.content])
    (maximal : IsRun run.toList text.toList) (folded : fold run ≠ "") :
    fold run ∈ c.words ∧ (Snapshot.build commits).Resolves run (fold run) := by
  have hword : fold run ∈ c.words :=
    List.mem_flatMap.2 ⟨text, place, List.mem_map.2
      ⟨run.toList, mem_wordsOf_of_isRun maximal, rfl⟩⟩
  have hknown : fold run ∈ (Snapshot.build commits).words :=
    (mem_distinct _ _).2 (List.mem_flatMap.2 ⟨c, stored, hword⟩)
  obtain ⟨-, -, -, -, hletters, -, -⟩ := maximal
  have hne : foldChars run.toList ≠ [] := fun h => folded (by rw [fold, h])
  obtain ⟨d, hd, halpha⟩ := exists_alphanumeric_foldChars hletters hne
  refine ⟨hword, hknown, ?_⟩
  rw [trim_of_alphanumeric hletters]
  exact isMatch_self (by rwa [fold, String.toList_ofList]) halpha

/-- A search for a text alone, when the text has a known word: it selects the commits that have a
known word of the text. -/
theorem search_of_resolves {s : Contents} {text word : String} (ink : isBlankText text = false)
    (known : s.snapshot.Resolves text word) (size : Nat) :
    ∃ words q,
      (Store.memory s).resolve text = .ok words ∧
      Store.queryOf { SearchRequest.all with query := text, pageSize := size } words = .ok q ∧
      (Store.memory s).search { SearchRequest.all with query := text, pageSize := size } =
        .ok (s.execute q) ∧
      ∀ c, c ∈ s.selected q ↔ c ∈ s.commits ∧ ∃ w ∈ c.words, s.snapshot.Resolves text w := by
  let r := { SearchRequest.all with query := text, pageSize := size }
  have hwords : WordsFor s.snapshot text (distinct (s.snapshot.similar (trim text))) :=
    ⟨fun blank => absurd (blank.symm.trans ink) (by simp),
      fun _ => ⟨List.ne_nil_of_mem (mem_similar.2 known), fun w => mem_similar⟩⟩
  obtain ⟨q, hquery, hsearch, hselected⟩ :=
    search_of_words (r := r) .empty (resolve_of_text ink) hwords rfl rfl rfl
  refine ⟨_, q, resolve_of_text ink, hquery, hsearch, fun c => ?_⟩
  rw [hselected]
  refine and_congr_right fun _ => ⟨fun wanted => ?_, fun hw => ?_⟩
  · exact wanted.word.resolve_left (by simp [r, ink])
  · exact ⟨.inr hw, fun key _ hvalues => absurd (by cases key <;> rfl) hvalues, nofun, nofun⟩

/-- Whatever was stored before a refresh and is saved after it: a search for a word of a commit that
was stored at the refresh succeeds and selects the commit. -/
theorem word_finds_commit {s : Contents} {c : Commit} (stored : c ∈ s.commits) {text run : String}
    (place : text ∈ [c.hash, c.type, c.component, c.content])
    (maximal : IsRun run.toList text.toList) (folded : fold run ≠ "")
    (more : List Commit) (size : Nat) :
    ∃ words q,
      (Store.memory (s.refresh.savedAll more)).resolve run = .ok words ∧
      Store.queryOf { SearchRequest.all with query := run, pageSize := size } words = .ok q ∧
      (Store.memory (s.refresh.savedAll more)).search
        { SearchRequest.all with query := run, pageSize := size } =
          .ok ((s.refresh.savedAll more).execute q) ∧
      c ∈ (s.refresh.savedAll more).selected q := by
  obtain ⟨hword, hresolves⟩ := resolves_of_isRun stored place maximal folded
  have hsnapshot : (s.refresh.savedAll more).snapshot = .build s.commits :=
    s.refresh.snapshot_savedAll more
  rw [← hsnapshot] at hresolves
  have hkept : c ∈ (s.refresh.savedAll more).commits :=
    (s.refresh.commits_savedAll more).subset stored
  have ink : isBlankText run = false := by
    obtain ⟨-, -, -, hne, hletters, -⟩ := maximal
    obtain ⟨x, hx⟩ := List.exists_mem_of_ne_nil _ hne
    exact hasInk_iff.1 ⟨x, hx, not_blank_of_alphanumeric (hletters x hx)⟩
  obtain ⟨words, q, hres, hquery, hsearch, hselected⟩ := search_of_resolves ink hresolves size
  exact ⟨words, q, hres, hquery, hsearch, (hselected c).2 ⟨hkept, _, hword, hresolves⟩⟩

/-- A commit whose content ends with a Greek word in capitals. -/
def greekCommit : Commit :=
  ⟨.ofSeconds 1, "a1", "feat", "", "Caf\u00e9 \u039f\u0394\u039f\u03a3", "r", "p", false, false⟩

/-- The capital sigma at the end of the word is final on both sides. -/
theorem word_finds_commit_greek :
    let s := (Contents.empty.savedAll [greekCommit]).refresh.savedAll [capitalCommit]
    ∃ words q,
      (Store.memory s).resolve "\u039f\u0394\u039f\u03a3" = .ok words ∧
      Store.queryOf { SearchRequest.all with query := "\u039f\u0394\u039f\u03a3", pageSize := 1 }
        words = .ok q ∧
      (Store.memory s).search
        { SearchRequest.all with query := "\u039f\u0394\u039f\u03a3", pageSize := 1 } =
          .ok (s.execute q) ∧
      greekCommit ∈ s.selected q := by
  have stored : greekCommit ∈ (Contents.empty.savedAll [greekCommit]).commits := by decide +kernel
  have hletters : "\u039f\u0394\u039f\u03a3".toList.all isAlphanumeric = true := by decide +kernel
  have hbefore : "Caf\u00e9 ".toList.getLast? = some ' ' := by decide +kernel
  have hapart : ∀ c ∈ "Caf\u00e9 ".toList.getLast?, isAlphanumeric c = false := by
    intro c hc
    rw [hbefore] at hc
    cases hc
    decide +kernel
  have maximal : IsRun "\u039f\u0394\u039f\u03a3".toList greekCommit.content.toList :=
    ⟨"Caf\u00e9 ".toList, [], by decide +kernel, by decide +kernel, List.all_eq_true.1 hletters,
      hapart, nofun⟩
  exact word_finds_commit stored (by simp) maximal (by decide +kernel) [capitalCommit] 1

end CommitSearch
