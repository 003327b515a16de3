import CommitSearch.Proofs.Store.Vocabulary
import CommitSearch.Proofs.Trigram.Composition

/-!
# Typing errors

A character that is typed wrong touches the three windows that hold it and leaves the others as they
are, those before it and those behind it. Main statement: a known word with at least eight trigrams
is found by what differs from it in one character.
-/

namespace CommitSearch

open CommitSearch.Text

/-- The number of places at which two texts differ, as far as both reach. -/
def differences (w w' : List Char) : Nat := (w.zip w').countP fun p => p.1 != p.2

theorem eq_of_differences {w w' : List Char} (length : w.length = w'.length)
    (none : differences w w' = 0) : w = w' := by
  induction w generalizing w' with
  | nil => exact (List.length_eq_zero_iff.1 length.symm).symm
  | cons a w ih =>
    cases w' with
    | nil => cases length
    | cons b w' =>
      rw [differences, List.zip_cons_cons, List.countP_cons] at none
      have hab : a = b := by
        by_contra hne
        simp [hne] at none
      rw [hab, ih (Nat.succ.inj length) (by rw [differences]; omega)]

/-- Two texts of one length that differ once are the same before that place and behind it. -/
theorem split_of_differences {w w' : List Char} (length : w.length = w'.length)
    (once : differences w w' = 1) :
    ∃ front a b back, w = front ++ a :: back ∧ w' = front ++ b :: back := by
  induction w generalizing w' with
  | nil => cases once
  | cons a w ih =>
    cases w' with
    | nil => cases length
    | cons b w' =>
      have hlength := Nat.succ.inj length
      rw [differences, List.zip_cons_cons, List.countP_cons] at once
      by_cases hab : a = b
      · subst hab
        obtain ⟨front, c, d, back, rfl, rfl⟩ := ih hlength (by simpa [differences] using once)
        exact ⟨a :: front, c, d, back, rfl, rfl⟩
      · have hrest : differences w w' = 0 := by simpa [differences, hab] using once
        exact ⟨[], a, b, w, rfl, by rw [eq_of_differences hlength hrest]; rfl⟩

/-! ### Windows -/

/-- At most three windows hold the character behind two others. -/
theorem windows_touched (p q a : Char) (back : List Char) :
    ∃ touched, windows (p :: q :: a :: back) = touched ++ windows back ∧ touched.length ≤ 3 := by
  match back with
  | [] => exact ⟨[[p, q, a]], rfl, by simp⟩
  | [x] => exact ⟨[[p, q, a], [q, a, x]], rfl, by simp⟩
  | x :: y :: back => exact ⟨[[p, q, a], [q, a, x], [a, x, y]], rfl, by simp⟩

/-- The windows over two texts that differ in one character are the same before it and behind it. -/
theorem windows_change (p q : Char) (front : List Char) (a b : Char) (back : List Char) :
    ∃ before touched touched' after,
      windows (p :: q :: (front ++ a :: back)) = before ++ (touched ++ after) ∧
      windows (p :: q :: (front ++ b :: back)) = before ++ (touched' ++ after) ∧
      touched.length ≤ 3 ∧ touched'.length ≤ 3 := by
  induction front generalizing p q with
  | nil =>
    obtain ⟨touched, htouched, hlength⟩ := windows_touched p q a back
    obtain ⟨touched', htouched', hlength'⟩ := windows_touched p q b back
    exact ⟨[], touched, touched', windows back, htouched, htouched', hlength, hlength'⟩
  | cons c front ih =>
    obtain ⟨before, touched, touched', after, hwindows, hwindows', hlength, hlength'⟩ := ih q c
    refine ⟨[p, q, c] :: before, touched, touched', after, ?_, ?_, hlength, hlength'⟩
    · rw [List.cons_append, windows, hwindows]
      rfl
    · rw [List.cons_append, windows, hwindows']
      rfl

/-! ### Trigrams of words -/

theorem card_sdiff_change {α : Type*} [DecidableEq α] (before touched touched' after : List α) :
    ((before ++ (touched ++ after)).toFinset \ (before ++ (touched' ++ after)).toFinset).card ≤
      touched.length := by
  refine le_trans (Finset.card_le_card fun t ht => ?_) touched.toFinset_card_le
  simp only [Finset.mem_sdiff, List.mem_toFinset, List.mem_append, not_or] at ht ⊢
  tauto

/-- Words that differ in one character have all trigrams in common but three on either side. -/
theorem card_sdiff_trigramSet {w w' : String}
    (letters : ∀ c ∈ w.toList, isAlphanumeric c = true)
    (letters' : ∀ c ∈ w'.toList, isAlphanumeric c = true)
    (lowered : lowerChars w.toList = w.toList) (lowered' : lowerChars w'.toList = w'.toList)
    (length : w.toList.length = w'.toList.length) (once : differences w.toList w'.toList = 1) :
    (trigramSet w \ trigramSet w').card ≤ 3 ∧ (trigramSet w' \ trigramSet w).card ≤ 3 := by
  obtain ⟨front, a, b, back, hw, hw'⟩ := split_of_differences length once
  rw [trigramSet_of_word (by simp [hw]) letters, trigramSet_of_word (by simp [hw']) letters',
    wordTrigrams, wordTrigrams, lowered, lowered', hw, hw']
  rw [List.append_assoc, List.cons_append, List.append_assoc, List.cons_append]
  obtain ⟨before, touched, touched', after, hwindows, hwindows', hlength, hlength'⟩ :=
    windows_change ' ' ' ' front a b (back ++ [' '])
  rw [hwindows, hwindows']
  simp only [List.map_append]
  refine ⟨(card_sdiff_change _ _ _ _).trans ?_, (card_sdiff_change _ _ _ _).trans ?_⟩
  · rwa [List.length_map]
  · rwa [List.length_map]

/-- Texts match if at most three trigrams of either are not common and one has eight. -/
theorem isMatch_of_card_sdiff {a b : String} (many : 8 ≤ (trigramSet a).card)
    (left : (trigramSet a \ trigramSet b).card ≤ 3)
    (right : (trigramSet b \ trigramSet a).card ≤ 3) : isMatch (similarity a b) = true := by
  have hinter := Finset.card_inter_add_card_sdiff (trigramSet a) (trigramSet b)
  have hunion : (trigramSet a ∪ trigramSet b).card =
      (trigramSet a).card + (trigramSet b \ trigramSet a).card := by
    rw [← Finset.union_sdiff_self_eq_union, Finset.card_union_of_disjoint Finset.disjoint_sdiff]
  by_cases few : (trigramSet a ∪ trigramSet b).card < 2 ^ 23
  · rw [isMatch_similarity_iff few]
    omega
  · exact isMatch_of_half (by omega) (by omega)

/-! ### Known words -/

theorem lowerChars_of_fold {text : String} (folded : fold text = text) :
    lowerChars text.toList = text.toList := by
  rw [← folded, fold, String.toList_ofList, foldChars, lowerChars_lowerChars]

/-- A known word of alphanumeric characters that has at least eight trigrams is similar to every text
of such characters that is its own fold, is as long as the word and differs from it once. -/
theorem Snapshot.typo_tolerated {commits : List Commit} {word typed : String}
    (known : word ∈ (Snapshot.build commits).words)
    (letters : ∀ c ∈ word.toList, isAlphanumeric c = true) (many : 8 ≤ (trigramSet word).card)
    (typedLetters : ∀ c ∈ typed.toList, isAlphanumeric c = true) (folded : fold typed = typed)
    (length : word.toList.length = typed.toList.length)
    (once : differences word.toList typed.toList = 1) :
    word ∈ (Snapshot.build commits).similar typed := by
  obtain ⟨hleft, hright⟩ := card_sdiff_trigramSet letters typedLetters
    (lowerChars_of_fold (fold_of_known known)) (lowerChars_of_fold folded) length once
  rw [Snapshot.similar, List.mem_filter, folded]
  exact ⟨known, isMatch_of_card_sdiff many hleft hright⟩

/-- The word has eight trigrams just so. -/
theorem Snapshot.typo_tolerated_license :
    let commits : List Commit :=
      [⟨.ofSeconds 1, "a1", "feat", "", "Add a License", "r", "p", false, false⟩]
    "license" ∈ (Snapshot.build commits).words ∧
      (∀ c ∈ "license".toList, isAlphanumeric c = true) ∧ (trigramSet "license").card = 8 ∧
      (∀ c ∈ "licence".toList, isAlphanumeric c = true) ∧ fold "licence" = "licence" ∧
      "license".toList.length = "licence".toList.length ∧
      differences "license".toList "licence".toList = 1 ∧
      "license" ∈ (Snapshot.build commits).similar "licence" := by
  intro commits
  have known : "license" ∈ (Snapshot.build commits).words := by decide +kernel
  have letters : "license".toList.all isAlphanumeric = true := by decide +kernel
  have many : (trigramSet "license").card = 8 := by decide +kernel
  have typedLetters : "licence".toList.all isAlphanumeric = true := by decide +kernel
  have folded : fold "licence" = "licence" := by decide +kernel
  have length : "license".toList.length = "licence".toList.length := by decide +kernel
  have once : differences "license".toList "licence".toList = 1 := by decide +kernel
  rw [List.all_eq_true] at letters typedLetters
  exact ⟨known, letters, many, typedLetters, folded, length, once,
    Snapshot.typo_tolerated known letters many.ge typedLetters folded length once⟩

end CommitSearch
