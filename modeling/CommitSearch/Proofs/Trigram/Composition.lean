import CommitSearch.Proofs.Text.Words
import CommitSearch.Proofs.Trigram.Similarity

/-!
# Trigrams word by word

Lower-casing looks at the neighbours of a letter and may lengthen a word, so it matters that a text
is cut into its words first. What a word adds to the trigrams of a text then depends on the word
alone. Main statement: two texts that a separator joins have the trigrams of both, texts with the
same words are compared alike, and the trigrams of a word are the windows over its lower-case form
with the blanks around it.
-/

namespace CommitSearch

open CommitSearch.Text

/-- The three characters of a text from a place on. -/
def windowAt (text : List Char) (i : Nat) : String := String.ofList ((text.drop i).take 3)

/-- The lower-case form of a word with two blanks in front and one behind. -/
def paddedLower (word : String) : List Char := ' ' :: ' ' :: ((lower word).toList ++ [' '])

/-! ### Windows -/

/-- There is one window for every place but the last two. -/
theorem windows_eq_map (cs : List Char) :
    (windows cs).map String.ofList = (List.range (cs.length - 2)).map (windowAt cs) := by
  fun_induction windows cs with
  | case1 a b c rest ih =>
    have hlength : (a :: b :: c :: rest).length - 2 = (b :: c :: rest).length - 2 + 1 := by simp
    rw [List.map_cons, ih, hlength, List.range_succ_eq_map, List.map_cons, List.map_map]
    rfl
  | case2 cs hshort =>
    have hnone : cs.length - 2 = 0 := by
      match cs with
      | [] | [_] | [_, _] => rfl
      | a :: b :: c :: rest => exact absurd rfl (hshort a b c rest)
    rw [hnone]
    rfl

theorem wordTrigrams_eq_map (word : String) :
    wordTrigrams word.toList =
      (List.range ((lower word).length + 1)).map (windowAt (paddedLower word)) := by
  have hlength : (paddedLower word).length - 2 = (lower word).length + 1 := by
    simp [paddedLower, String.length_toList]
  rw [← hlength, ← windows_eq_map, paddedLower, lower, String.toList_ofList, wordTrigrams]

/-! ### Words -/

/-- A separator has no trigrams and ends the word before it. -/
theorem trigramSet_append_separator {s : Char} (hs : isAlphanumeric s = false) (a b : String) :
    trigramSet (a ++ String.singleton s ++ b) = trigramSet a ∪ trigramSet b := by
  have hwords : wordsOf (a ++ String.singleton s ++ b).toList =
      wordsOf a.toList ++ wordsOf b.toList := by
    rw [String.toList_append, String.toList_append, String.toList_singleton, List.append_assoc,
      List.singleton_append, wordsOf_append_separator hs]
  ext t
  simp only [Finset.mem_union, mem_trigramSet, hwords, List.mem_append, or_and_right, exists_or]

/-- The trigrams of a text depend on nothing but its words. -/
theorem trigrams_congr {a b : String} (same : ∀ run, IsRun run a.toList ↔ IsRun run b.toList) :
    trigrams a = trigrams b := by
  refine ascending_ext (ascending_foldr_insertDistinct .nil _)
    (ascending_foldr_insertDistinct .nil _) fun t => ?_
  simp only [trigrams, mem_distinct, List.mem_flatMap, mem_wordsOf_iff, same]

/-- A word is its own and only word. -/
theorem trigramSet_of_word {w : String} (hne : w.toList ≠ [])
    (letters : ∀ c ∈ w.toList, isAlphanumeric c = true) :
    trigramSet w = (wordTrigrams w.toList).toFinset := by
  ext t
  simp [mem_trigramSet, wordsOf_of_letters hne letters]

theorem trigramSet_eq_image {w : String} (some : w ≠ "")
    (letters : ∀ c ∈ w.toList, isAlphanumeric c = true) :
    trigramSet w =
      (Finset.range ((lower w).length + 1)).image (windowAt (paddedLower w)) := by
  have hne : w.toList ≠ [] := fun h => some (String.toList_eq_nil_iff.1 h)
  ext t
  simp [trigramSet_of_word hne letters, wordTrigrams_eq_map]

/-- A text that is joined of two by a character that belongs to no word has the trigrams of both, and
no others, even where the two meet. Texts that have the same words, however often, in whichever order
and with whatever between them, have the same trigrams and the same similarity to every text. A word
by itself has the windows of three characters over its lower-case form between two blanks and one,
one window more than the form has characters. -/
theorem trigrams_word_by_word :
    (∀ (a b : String) (s : Char), isAlphanumeric s = false →
      trigramSet (a ++ String.singleton s ++ b) = trigramSet a ∪ trigramSet b) ∧
    (∀ a b : String, (∀ run, IsRun run a.toList ↔ IsRun run b.toList) →
      trigrams a = trigrams b ∧
        ∀ c, similarity a c = similarity b c ∧ similarity c a = similarity c b) ∧
    ∀ w : String, w ≠ "" → (∀ c ∈ w.toList, isAlphanumeric c = true) →
      trigramSet w = (Finset.range ((lower w).length + 1)).image (windowAt (paddedLower w)) ∧
        (trigramSet w).Nonempty := by
  refine ⟨fun a b s hs => trigramSet_append_separator hs a b, fun a b same => ?_,
    fun w some letters => ?_⟩
  · have hsame := trigrams_congr same
    refine ⟨hsame, fun c => ⟨?_, ?_⟩⟩
    · rw [similarity, similarity, hsame]
    · rw [similarity, similarity, hsame]
  · have himage := trigramSet_eq_image some letters
    refine ⟨himage, ?_⟩
    rw [himage, Finset.image_nonempty]
    exact ⟨0, Finset.mem_range.2 (Nat.succ_pos _)⟩

/-- A sigma is final before the separator and not behind it. The dotted capital I becomes two
characters in lower case, so that the word of two characters has four windows. -/
theorem trigrams_word_by_word_sigma :
    let a := "\u0391\u03a3"
    let b := "\u0130x"
    let text := "\u0391\u03a3-\u0130x"
    let shuffled := "\u0130x, \u0391\u03a3; \u0130x."
    isAlphanumeric '-' = false ∧ trigramSet text = trigramSet a ∪ trigramSet b ∧
      (∀ run, IsRun run text.toList ↔ IsRun run shuffled.toList) ∧
      trigrams text = trigrams shuffled ∧ similarity text a = similarity shuffled a ∧
      b ≠ "" ∧ (∀ c ∈ b.toList, isAlphanumeric c = true) ∧ (lower b).length = 3 ∧
      trigramSet b = (Finset.range 4).image (windowAt (paddedLower b)) ∧
      (trigramSet b).Nonempty := by
  intro a b text shuffled
  obtain ⟨hjoin, hsame, hword⟩ := trigrams_word_by_word
  have separator : isAlphanumeric '-' = false := by decide +kernel
  have htext : wordsOf text.toList = [a.toList, b.toList] := by decide +kernel
  have hshuffled : wordsOf shuffled.toList = [b.toList, a.toList, b.toList] := by decide +kernel
  have same : ∀ run, IsRun run text.toList ↔ IsRun run shuffled.toList := by
    intro run
    rw [← mem_wordsOf_iff, ← mem_wordsOf_iff, htext, hshuffled]
    simp only [List.mem_cons, List.not_mem_nil, or_false]
    tauto
  have letters : b.toList.all isAlphanumeric = true := by decide +kernel
  have some : b ≠ "" := by decide +kernel
  have length : (lower b).length = 3 := by decide +kernel
  rw [List.all_eq_true] at letters
  obtain ⟨hequal, hsimilar⟩ := hsame text shuffled same
  obtain ⟨himage, hnonempty⟩ := hword b some letters
  rw [length] at himage
  exact ⟨separator, hjoin a b '-' separator, same, hequal, (hsimilar a).1, some, letters, length,
    himage, hnonempty⟩

end CommitSearch
