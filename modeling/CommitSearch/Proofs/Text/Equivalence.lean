import CommitSearch.Proofs.Text.Stretches
import CommitSearch.Proofs.Text.Words
import CommitSearch.Store
import Mathlib.Algebra.Order.BigOperators.Group.List
import Mathlib.Algebra.Order.Ring.Nat

/-!
# Canonically equivalent texts

An accent can be written as a part of its letter or as a mark behind it. A search looks at the fold of
its whole text, which does not depend on that. A document is cut into words first, and most marks are
not alphanumeric, so they cut words that the letters in one piece do not. Main statement: the words
that a text would have if marks did not cut are the same for equivalent texts, and a text has them
exactly if no mark stands inside of a word.
-/

namespace CommitSearch.Text

/-! ### The words of a stretch -/

theorem not_separator_of_mem_fields {p : Char → Bool} {cs w : List Char} (hw : w ∈ fields p cs) :
    ∀ c ∈ w, p c = false := by
  induction cs generalizing w with
  | nil =>
    rw [List.mem_singleton.1 hw]
    exact List.forall_mem_nil _
  | cons d rest ih =>
    obtain ⟨field, more, hfields⟩ := List.exists_cons_of_ne_nil (fields_ne_nil p rest)
    rw [hfields] at ih
    cases hd : p d with
    | true =>
      rw [fields_cons_separator hd, hfields] at hw
      rcases List.mem_cons.1 hw with rfl | hw
      · exact List.forall_mem_nil _
      · exact ih hw
    | false =>
      rw [fields_cons_of_not hd, hfields] at hw
      rcases List.mem_cons.1 hw with rfl | hw
      · intro c hc
        rcases List.mem_cons.1 hc with rfl | hc
        · exact hd
        · exact ih List.mem_cons_self c hc
      · exact ih (List.mem_cons_of_mem _ hw)

/-- No word reaches over a boundary. -/
theorem wordsOf_eq_flatMap (cs : List Char) : wordsOf cs = (stretches cs).flatMap wordsOf := by
  -- A stretch that has begun grows until a boundary ends it.
  have key : ∀ front, (∀ c ∈ front, isBoundary c = false) →
      wordsOf (front ++ cs) = (stretches (front ++ cs)).flatMap wordsOf := by
    induction cs with
    | nil =>
      intro front hfront
      rw [List.append_nil, stretches, fields_of_none hfront]
      simp
    | cons c rest ih =>
      intro front hfront
      cases hc : isBoundary c with
      | true =>
        rw [wordsOf_append_separator (not_alphanumeric_of_boundary hc), stretches,
          fields_append_separator _ _ _ _ hc, fields_of_none hfront, ← stretches]
        simpa using ih [] (List.forall_mem_nil _)
      | false =>
        have hgrown : ∀ d ∈ front ++ [c], isBoundary d = false :=
          List.forall_mem_append.2 ⟨hfront, by simpa using hc⟩
        simpa using ih (front ++ [c]) hgrown
  exact key [] (List.forall_mem_nil _)

theorem bases_of_letters {run : List Char} (h : ∀ c ∈ run, isAlphanumeric c = true) :
    bases run = (wordsOf run).flatMap bases := by
  by_cases hne : run = []
  · rw [hne]
    rfl
  · rw [wordsOf_of_letters hne h, List.flatMap_singleton]

/-- The characters of a stretch besides marks are those of its words. -/
theorem bases_eq_flatMap {w : List Char} (hw : ∀ c ∈ w, isBoundary c = false) :
    bases w = (wordsOf w).flatMap bases := by
  -- A word that has begun grows until another character ends it.
  have key : ∀ run, (∀ c ∈ run, isAlphanumeric c = true) →
      bases (run ++ w) = (wordsOf (run ++ w)).flatMap bases := by
    induction w with
    | nil =>
      intro run hrun
      rw [List.append_nil, bases_of_letters hrun]
    | cons c rest ih =>
      intro run hrun
      have ih := ih fun d hd => hw d (List.mem_cons_of_mem _ hd)
      cases hc : isAlphanumeric c with
      | true =>
        have hgrown : ∀ d ∈ run ++ [c], isAlphanumeric d = true :=
          List.forall_mem_append.2 ⟨hrun, by simpa using hc⟩
        simpa using ih (run ++ [c]) hgrown
      | false =>
        rw [wordsOf_append_separator hc, List.flatMap_append, ← bases_of_letters hrun,
          bases_append, bases_cons, bases_eq_nil (hw c List.mem_cons_self) hc]
        simpa using ih [] (List.forall_mem_nil _)
  exact key [] (List.forall_mem_nil _)

theorem wordsOf_eq_nil_iff {cs : List Char} :
    wordsOf cs = [] ↔ cs.any isAlphanumeric = false := by
  constructor
  · intro h
    rw [List.any_eq_false]
    intro c hc halpha
    exact wordsOf_ne_nil hc halpha h
  · intro h
    induction cs with
    | nil => rfl
    | cons c rest ih =>
      rw [List.any_cons, Bool.or_eq_false_iff] at h
      rw [wordsOf_cons_separator h.1, ih h.2]

/-! ### Texts without cut words -/

/-- The word that a stretch would have if marks did not cut it, if it has an alphanumeric character. -/
def wordOf (w : List Char) : List String :=
  if w.any isAlphanumeric then [String.ofList (foldChars w)] else []

/-- The words that a text would have if marks did not cut them. -/
def wholeWords (s : String) : List String := (stretches s.toList).flatMap wordOf

/-- Whether marks cut no word of a text: no stretch has more than one. -/
def IsWhole (s : String) : Prop := ∀ w ∈ stretches s.toList, (wordsOf w).length ≤ 1

instance (s : String) : Decidable (IsWhole s) :=
  inferInstanceAs (Decidable (∀ w ∈ stretches s.toList, (wordsOf w).length ≤ 1))

theorem tokenize_eq_flatMap (s : String) :
    tokenize s = (stretches s.toList).flatMap fun w =>
      (wordsOf w).map fun run => String.ofList (foldChars run) := by
  rw [tokenize, wordsOf_eq_flatMap, List.map_flatMap]

theorem length_wordOf_le (w : List Char) : (wordOf w).length ≤ (wordsOf w).length := by
  rw [wordOf]
  split
  · next h =>
    rw [List.length_singleton, Nat.one_le_iff_ne_zero, Ne, List.length_eq_zero_iff,
      wordsOf_eq_nil_iff, h]
    simp
  · exact Nat.zero_le _

theorem words_of_stretch {w : List Char} (hw : ∀ c ∈ w, isBoundary c = false)
    (h : (wordsOf w).length ≤ 1) :
    (wordsOf w).map (fun run => String.ofList (foldChars run)) = wordOf w := by
  have hbases := bases_eq_flatMap hw
  have hnil : wordsOf w = [] ↔ w.any isAlphanumeric = false := wordsOf_eq_nil_iff
  match hwords : wordsOf w, h with
  | [], _ =>
    rw [wordOf, hnil.1 hwords]
    rfl
  | [run], _ =>
    have hany : w.any isAlphanumeric = true := by
      rw [← Bool.not_eq_false, ← hnil, hwords]
      exact List.cons_ne_nil _ _
    rw [hwords, List.flatMap_singleton] at hbases
    rw [wordOf, hany, foldChars_eq w, hbases, ← foldChars_eq]
    rfl

theorem tokenize_of_isWhole {s : String} (h : IsWhole s) : tokenize s = wholeWords s := by
  rw [tokenize_eq_flatMap, wholeWords]
  exact List.flatMap_congr fun w hw => words_of_stretch (not_separator_of_mem_fields hw) (h w hw)

/-- A mark that cuts a word makes the words more. -/
theorem isWhole_of_length {s : String} (h : (tokenize s).length = (wholeWords s).length) :
    IsWhole s := by
  intro w hw
  by_contra hcut
  have hmore : ((stretches s.toList).map fun w => (wordOf w).length).sum <
      ((stretches s.toList).map fun w => (wordsOf w).length).sum := by
    refine List.sum_lt_sum _ _ (fun w _ => length_wordOf_le w) ⟨w, hw, ?_⟩
    rw [wordOf]
    split <;> simp only [List.length_singleton, List.length_nil] <;> omega
  rw [tokenize_eq_flatMap, wholeWords, List.length_flatMap, List.length_flatMap] at h
  simp only [List.length_map] at h
  omega

theorem tokenize_eq_wholeWords_iff (s : String) : tokenize s = wholeWords s ↔ IsWhole s :=
  ⟨fun h => isWhole_of_length (congrArg List.length h), tokenize_of_isWhole⟩

/-! ### Equivalent texts -/

/-- Whether two texts have the same canonical decomposition. -/
def Equivalent (s t : String) : Prop := decompose s.toList = decompose t.toList

instance (s t : String) : Decidable (Equivalent s t) :=
  inferInstanceAs (Decidable (decompose s.toList = decompose t.toList))

variable {s t : String}

theorem Equivalent.fold_eq (same : Equivalent s t) : fold s = fold t := by
  rw [fold, fold, foldChars, foldChars, same]

/-- The words of uncut stretches are read off the outline of the decomposition. -/
theorem wholeWords_eq (s : String) :
    wholeWords s = (outline (decompose s.toList)).flatMap fun seen =>
      if seen.1 then [String.ofList (lowerChars seen.2)] else [] := by
  rw [outline_decompose, List.flatMap_map, wholeWords]
  refine List.flatMap_congr fun w _ => ?_
  rw [wordOf, foldChars_eq]

theorem Equivalent.wholeWords_eq (same : Equivalent s t) : wholeWords s = wholeWords t := by
  rw [Text.wholeWords_eq, Text.wholeWords_eq, same]

theorem Equivalent.tokenize_eq_iff (same : Equivalent s t) (whole : IsWhole t) :
    tokenize s = tokenize t ↔ IsWhole s := by
  rw [tokenize_of_isWhole whole, ← same.wholeWords_eq, tokenize_eq_wholeWords_iff]

end CommitSearch.Text

namespace CommitSearch

open CommitSearch.Text

/-- The ways to write a text into a commit under which the commit is found by its words. -/
def Commit.wordPlaces : List (Commit → String → Commit) :=
  [fun c s => { c with hash := s }, fun c s => { c with type := s },
    fun c s => { c with component := s }, fun c s => { c with content := s }]

theorem Commit.words_put_iff {put : Commit → String → Commit} (place : put ∈ Commit.wordPlaces)
    (c : Commit) (s t : String) : (put c s).words = (put c t).words ↔ tokenize s = tokenize t := by
  simp only [Commit.wordPlaces, List.mem_cons, List.not_mem_nil, or_false] at place
  rcases place with rfl | rfl | rfl | rfl <;> simp [Commit.words]

/-- Of two equivalent texts, a search for either resolves to the same words. The words that they would
have if marks did not cut them are the same, and a text has these exactly if marks cut no word of it.
So if they cut none of the one text, a document has the same words with the other in its place exactly
if they cut none of the other. -/
theorem words_of_equivalent {s t : String} (same : Equivalent s t) :
    (∀ snapshot : Snapshot, snapshot.similar s = snapshot.similar t) ∧
      wholeWords s = wholeWords t ∧
      (tokenize s = wholeWords s ↔ IsWhole s) ∧
      (IsWhole t → (tokenize s = tokenize t ↔ IsWhole s) ∧
        ∀ put ∈ Commit.wordPlaces, ∀ c : Commit,
          (put c s).words = (put c t).words ↔ IsWhole s) := by
  refine ⟨fun snapshot => ?_, same.wholeWords_eq, tokenize_eq_wholeWords_iff s, fun whole => ⟨?_, ?_⟩⟩
  · simp only [Snapshot.similar, same.fold_eq]
  · exact same.tokenize_eq_iff whole
  · intro put place c
    rw [Commit.words_put_iff place, same.tokenize_eq_iff whole]

/-- An accent behind the last letter of a word cuts nothing, nor do the letters of a syllable. -/
theorem words_of_equivalent_cafe :
    Equivalent "Cafe\u0301 \u1112\u1161\u11ab" "Caf\u00e9 \ud55c" ∧
      IsWhole "Cafe\u0301 \u1112\u1161\u11ab" ∧ IsWhole "Caf\u00e9 \ud55c" ∧
      tokenize "Cafe\u0301 \u1112\u1161\u11ab" = tokenize "Caf\u00e9 \ud55c" := by
  have same : Equivalent "Cafe\u0301 \u1112\u1161\u11ab" "Caf\u00e9 \ud55c" := by decide +kernel
  have whole : IsWhole "Caf\u00e9 \ud55c" := by decide +kernel
  have uncut : IsWhole "Cafe\u0301 \u1112\u1161\u11ab" := by decide +kernel
  exact ⟨same, uncut, whole, ((words_of_equivalent same).2.2.2 whole).1.2 uncut⟩

/-- An accent that is written as a mark inside of a word cuts it, and a commit with such a word is
known under its pieces. Not even the same text resolves to them. -/
theorem accent_cuts_word :
    Equivalent "\u00e9t\u00e9" "e\u0301te\u0301" ∧
      tokenize "\u00e9t\u00e9" = ["ete"] ∧ tokenize "e\u0301te\u0301" = ["e", "te"] ∧
      (Snapshot.build
        [⟨.ofSeconds 1, "a1", "feat", "", "e\u0301te\u0301", "r", "p", false, false⟩]).similar
          "e\u0301te\u0301" = [] := by
  decide +kernel

end CommitSearch
