import CommitSearch.Proofs.Store.Recall
import CommitSearch.Proofs.Text.Folds

/-!
# Known words as queries

The known words are folds of alphanumeric runs. A fold is its own fold, its letters are no blanks, and
so a known word that is searched for is compared with the known words as it stands. Main statement: a
fold is unchanged by another one and by lower case and has no marks, and what a known word resolves to
are the known words that are similar to itself.
-/

namespace CommitSearch

open CommitSearch.Text

variable {commits : List Commit} {w : String}

/-- A known word is the fold of an alphanumeric run. -/
theorem exists_run_of_known (known : w ∈ (Snapshot.build commits).words) :
    ∃ run : List Char, (∀ c ∈ run, isAlphanumeric c = true) ∧ w = String.ofList (foldChars run) := by
  obtain ⟨c, -, hc⟩ := List.mem_flatMap.1 ((mem_distinct _ _).1 known)
  obtain ⟨text, -, htext⟩ := List.mem_flatMap.1 hc
  obtain ⟨run, hrun, rfl⟩ := List.mem_map.1 htext
  obtain ⟨-, -, -, -, letters, -, -⟩ := mem_wordsOf_iff.1 hrun
  exact ⟨run, letters, rfl⟩

theorem fold_of_known (known : w ∈ (Snapshot.build commits).words) : fold w = w := by
  obtain ⟨run, -, rfl⟩ := exists_run_of_known known
  exact fold_ofList_foldChars run

theorem letters_of_known (known : w ∈ (Snapshot.build commits).words) :
    ∀ c ∈ w.toList, isAlphanumeric c = true := by
  obtain ⟨run, letters, rfl⟩ := exists_run_of_known known
  rw [String.toList_ofList]
  exact fun c hc => alphanumeric_of_mem_foldChars letters hc

/-- Ascending texts are distinct as they are. -/
theorem distinct_of_ascending {l : List String} (ascending : l.Pairwise (· < ·)) : distinct l = l :=
  ascending_ext (ascending_foldr_insertDistinct .nil l) ascending fun s => mem_distinct s l

theorem similar_of_known (known : w ∈ (Snapshot.build commits).words) :
    (Snapshot.build commits).similar w =
      (Snapshot.build commits).words.filter fun word => isMatch (similarity word w) := by
  rw [Snapshot.similar, fold_of_known known]

theorem resolve_of_known {s : Contents} (built : s.snapshot = .build commits)
    (known : w ∈ (Snapshot.build commits).words) (ink : isBlankText w = false) :
    (Store.memory s).resolve w =
      .ok ((Snapshot.build commits).words.filter fun word => isMatch (similarity word w)) := by
  have ascending : (Snapshot.build commits).words.Pairwise (· < ·) :=
    ascending_foldr_insertDistinct .nil _
  rw [resolve_of_text ink, trim_of_alphanumeric (letters_of_known known), built,
    similar_of_known known, distinct_of_ascending (ascending.filter _)]

theorem isBlankText_of_known (known : w ∈ (Snapshot.build commits).words) :
    isBlankText w = decide (w = "") := by
  rw [Bool.eq_iff_iff, decide_eq_true_iff, ← String.toList_eq_nil_iff, isBlankText, List.all_eq_true]
  constructor
  · intro blank
    by_contra hne
    obtain ⟨c, hc⟩ := List.exists_mem_of_ne_nil _ hne
    have hletter := not_blank_of_alphanumeric (letters_of_known known c hc)
    rw [blank c hc] at hletter
    cases hletter
  · intro hempty
    rw [hempty]
    exact List.forall_mem_nil _

/-- The fold of a text is its own fold, has no marks and is its own lower case. So a known word is
compared with the known words as it stands, by itself and as the text of a search; the empty one, which
a run of marks alone leaves, is blank and resolves to nothing. -/
theorem fold_settles (text : String) (commits : List Commit) :
    fold (fold text) = fold text ∧ (∀ c ∈ (fold text).toList, isMark c = false) ∧
      lower (fold text) = fold text ∧
      ∀ w ∈ (Snapshot.build commits).words, fold w = w ∧
        (Snapshot.build commits).similar w =
          (Snapshot.build commits).words.filter (fun word => isMatch (similarity word w)) ∧
        ∀ s : Contents, s.snapshot = .build commits → (Store.memory s).resolve w =
          .ok (if w = "" then []
            else (Snapshot.build commits).words.filter fun word => isMatch (similarity word w)) := by
  refine ⟨fold_ofList_foldChars _, fun c hc => ?_, ?_, fun w known => ⟨fold_of_known known,
    similar_of_known known, fun s built => ?_⟩⟩
  · rw [fold, String.toList_ofList] at hc
    exact (plain_of_mem_foldChars hc).unmarked
  · rw [lower, fold, String.toList_ofList, foldChars, lowerChars_lowerChars]
  · have hblank := isBlankText_of_known known
    by_cases hempty : w = ""
    · rw [if_pos hempty]
      exact resolve_of_blank (hblank.trans (decide_eq_true hempty))
    · rw [if_neg hempty]
      exact resolve_of_known built known (hblank.trans (decide_eq_false hempty))

/-- A text with a titlecase digraph, a dotted capital I, two marks on one letter and a syllable, and a
known word that ends with a final sigma. -/
theorem fold_settles_greek :
    let s := (Contents.empty.savedAll [greekCommit]).refresh
    let folded := fold "\u01c5\u0130 \u1ea4\ud55c"
    let word := "\u03bf\u03b4\u03bf\u03c2"
    folded = "\u01c6i a\u1112\u1161\u11ab" ∧ fold folded = folded ∧ lower folded = folded ∧
      'a' ∈ folded.toList ∧ isMark 'a' = false ∧ word ∈ s.snapshot.words ∧ fold word = word ∧
      s.snapshot = .build s.commits ∧ (Store.memory s).resolve word = .ok [word] := by
  intro s folded word
  have hfolded : folded = "\u01c6i a\u1112\u1161\u11ab" := by decide +kernel
  have hmem : 'a' ∈ folded.toList := by decide +kernel
  have known : word ∈ (Snapshot.build s.commits).words := by decide +kernel
  have hsimilar : ((Snapshot.build s.commits).words.filter fun other =>
      isMatch (similarity other word)) = [word] := by decide +kernel
  obtain ⟨htwice, hunmarked, hlower, hwords⟩ := fold_settles "\u01c5\u0130 \u1ea4\ud55c" s.commits
  obtain ⟨hfold, -, hresolve⟩ := hwords word known
  refine ⟨hfolded, htwice, hlower, hmem, hunmarked 'a' hmem, known, hfold, rfl, ?_⟩
  rw [hresolve s rfl, if_neg (by decide), hsimilar]

end CommitSearch
