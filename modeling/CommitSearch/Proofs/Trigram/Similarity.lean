import CommitSearch.Proofs.Number.Rounding
import CommitSearch.Proofs.Text.Ascending
import CommitSearch.Store
import Mathlib.Data.Finset.Card

/-!
# The share of common trigrams

Texts match when the share of common trigrams among all trigrams of both, rounded to single
precision, exceeds the single-precision number nearest to two fifths. That number lies a little above
two fifths, and the next one is so near that no share of moderate size falls between. Main statement:
the words that a text is similar to are those with a share of more than two fifths, exactly.
-/

namespace CommitSearch

open CommitSearch.Number CommitSearch.Text

/-! ### Sets of trigrams -/

/-- The trigrams of a text as a set. -/
def trigramSet (s : String) : Finset String := (trigrams s).toFinset

theorem mem_trigramSet {s t : String} :
    t ∈ trigramSet s ↔ ∃ w ∈ wordsOf s.toList, t ∈ wordTrigrams w := by
  rw [trigramSet, List.mem_toFinset, trigrams, mem_distinct, List.mem_flatMap]

theorem trigrams_nodup (s : String) : (trigrams s).Nodup := by
  have hascending : (trigrams s).Pairwise (· < ·) := ascending_foldr_insertDistinct .nil _
  refine hascending.imp fun {a b} hlt he => ?_
  exact String.lt_irrefl b (he ▸ hlt)

theorem card_trigramSet (s : String) : (trigramSet s).card = (trigrams s).length :=
  List.toFinset_card_of_nodup (trigrams_nodup s)

variable {a b : String}

theorem commonCount_eq (a b : String) :
    commonCount (trigrams a) (trigrams b) = (trigramSet a ∩ trigramSet b).card := by
  have hcommon : ((trigrams a).filter (trigrams b).contains).toFinset =
      trigramSet a ∩ trigramSet b := by
    ext t
    simp [trigramSet]
  rw [commonCount, ← hcommon, List.toFinset_card_of_nodup ((trigrams_nodup a).filter _)]

theorem similarity_eq (a b : String) :
    similarity a b =
      if (trigramSet a ∪ trigramSet b).card = 0 then binary32.ofNat 0
      else binary32.div (binary32.ofNat (trigramSet a ∩ trigramSet b).card)
        (binary32.ofNat (trigramSet a ∪ trigramSet b).card) := by
  rw [similarity, overlap, commonCount_eq, ← card_trigramSet, ← card_trigramSet,
    ← Finset.card_union]

theorem similarity_comm (a b : String) : similarity a b = similarity b a := by
  rw [similarity_eq, similarity_eq, Finset.inter_comm, Finset.union_comm]

theorem card_inter_le_card_union : (trigramSet a ∩ trigramSet b).card ≤
    (trigramSet a ∪ trigramSet b).card :=
  Finset.card_le_card Finset.inter_subset_union

/-! ### The threshold -/

theorem similarityThreshold_eq : similarityThreshold = ⟨13421773, -25⟩ := by decide +kernel

/-- A share is rounded to a value above the threshold from the middle to the next value on. -/
theorem isMatch_iff_of_rounds {q : ℚ} {x : BinaryValue} (h : binary32.Rounds q x) :
    isMatch x = true ↔ 26843547 / 2 ^ 26 ≤ q := by
  have hmiddle : (((13421773 : Nat) : ℚ) + 1 / 2) * 2 ^ (-25 : Int) = 26843547 / 2 ^ 26 := by
    norm_num
  rw [isMatch, BinaryValue.lt_iff_value, similarityThreshold_eq, ← hmiddle]
  exact BinaryFormat.lt_rounded_iff h (by decide) (by decide) (by decide) (by decide) (by decide)

/-- The middle is so near to two fifths that only fractions with large terms lie between. -/
theorem middle_le_iff {c u : Nat} (hpos : 0 < u) (hfew : u < 2 ^ 23) :
    (26843547 / 2 ^ 26 : ℚ) ≤ c / u ↔ 2 * u < 5 * c := by
  have hu : (0 : ℚ) < u := by exact_mod_cast hpos
  have hcross : (26843547 / 2 ^ 26 : ℚ) ≤ c / u ↔ 26843547 * u ≤ c * 2 ^ 26 := by
    rw [div_le_div_iff₀ (by norm_num) hu]
    exact_mod_cast Iff.rfl
  rw [hcross]
  omega

/-! ### Matching texts -/

/-- The similarity of two texts with a moderate number of trigrams is the share, rounded once. -/
theorem rounds_similarity (few : (trigramSet a ∪ trigramSet b).card < 2 ^ 23) :
    binary32.Rounds ((trigramSet a ∩ trigramSet b).card / (trigramSet a ∪ trigramSet b).card)
      (similarity a b) := by
  have hle := card_inter_le_card_union (a := a) (b := b)
  rw [similarity_eq]
  generalize (trigramSet a ∩ trigramSet b).card = c at hle ⊢
  generalize (trigramSet a ∪ trigramSet b).card = u at few hle ⊢
  have hexact : ∀ n < 2 ^ 23, (binary32.ofNat n).value = n := fun n hn =>
    binary32.value_ofNat (by decide) (by decide) (hn.trans (by decide))
  split
  · next hnone =>
    have hzero : ((c : ℚ) / u) = 0 := by simp [hnone]
    rw [hzero]
    exact binary32.rounds_zero
  · next hsome =>
    have hpos : 0 < (binary32.ofNat u).value := by
      rw [hexact u few]
      exact_mod_cast Nat.pos_of_ne_zero hsome
    rw [← hexact c (hle.trans_lt few), ← hexact u few]
    exact binary32.rounds_div (by decide) _ hpos

/-- Two texts match exactly if more than two fifths of their trigrams are common. -/
theorem isMatch_similarity_iff (few : (trigramSet a ∪ trigramSet b).card < 2 ^ 23) :
    isMatch (similarity a b) = true ↔
      2 * (trigramSet a ∪ trigramSet b).card < 5 * (trigramSet a ∩ trigramSet b).card := by
  have hle := card_inter_le_card_union (a := a) (b := b)
  rw [isMatch_iff_of_rounds (rounds_similarity few)]
  rcases Nat.eq_zero_or_pos (trigramSet a ∪ trigramSet b).card with hnone | hsome
  · have hnone' : (trigramSet a ∩ trigramSet b).card = 0 := by omega
    rw [hnone, hnone']
    norm_num
  · exact middle_le_iff hsome few

/-- Two texts match if half of their trigrams are common, however many these are. -/
theorem isMatch_of_half (some : 0 < (trigramSet a ∪ trigramSet b).card)
    (half : (trigramSet a ∪ trigramSet b).card ≤ 2 * (trigramSet a ∩ trigramSet b).card) :
    isMatch (similarity a b) = true := by
  rw [similarity_eq, if_neg some.ne']
  generalize (trigramSet a ∩ trigramSet b).card = c at half ⊢
  generalize (trigramSet a ∪ trigramSet b).card = u at some half ⊢
  have hu : (0 : ℚ) < u := by exact_mod_cast some
  have hhalf : (u : ℚ) ≤ 2 * c := by exact_mod_cast half
  have hnear : ∀ n : Nat, |(binary32.ofNat n).value - n| ≤ n / 2 ^ 23 := fun n =>
    binary32.ofNat_near (by decide) (by decide) n
  have hc := abs_le.1 (hnear c)
  have hu' := abs_le.1 (hnear u)
  have hpos : 0 < (binary32.ofNat u).value := by linarith
  rw [isMatch_iff_of_rounds (binary32.rounds_div (by decide) _ hpos), div_le_div_iff₀ (by norm_num) hpos]
  linarith

/-- The words that a text is similar to, in ascending order: those that have more than two fifths of
all trigrams in common with its fold. The share is rounded once and the threshold is two fifths
rounded, but the outcome is that of the exact comparison, and a share of two fifths is none above. -/
theorem Snapshot.similar_exact {s : Snapshot} {text : String} (ascending : s.words.Pairwise (· < ·))
    (few : ∀ w ∈ s.words, (trigramSet w ∪ trigramSet (fold text)).card < 2 ^ 23) :
    (s.similar text).Pairwise (· < ·) ∧
      (∀ w, w ∈ s.similar text ↔ w ∈ s.words ∧
        2 * (trigramSet w ∪ trigramSet (fold text)).card <
          5 * (trigramSet w ∩ trigramSet (fold text)).card) ∧
      binary32.Rounds (2 / 5) similarityThreshold ∧
      ∀ w ∈ s.words,
        binary32.Rounds ((trigramSet w ∩ trigramSet (fold text)).card /
          (trigramSet w ∪ trigramSet (fold text)).card) (similarity w (fold text)) ∧
        similarity (fold text) w = similarity w (fold text) ∧
        (5 * (trigramSet w ∩ trigramSet (fold text)).card =
            2 * (trigramSet w ∪ trigramSet (fold text)).card →
          isMatch (similarity w (fold text)) = false) := by
  refine ⟨ascending.filter _, fun w => ?_, ?_, fun w known => ⟨?_, ?_, fun exact => ?_⟩⟩
  · rw [Snapshot.similar, List.mem_filter]
    exact and_congr_right fun known => isMatch_similarity_iff (few w known)
  · exact binary32.rounds_round (by decide) 2 (by decide)
  · exact rounds_similarity (few w known)
  · exact similarity_comm _ _
  · rw [Bool.eq_false_iff, Ne, isMatch_similarity_iff (few w known)]
    omega

/-- Of two words that begin like a text, one has two fifths of the trigrams in common and one half. -/
theorem Snapshot.similar_exact_two_fifths :
    let s : Snapshot := ⟨["ab", "abcd"], []⟩
    let folded := fold "\u00c1BC"
    s.words.Pairwise (· < ·) ∧
      (∀ w ∈ s.words, (trigramSet w ∪ trigramSet folded).card < 2 ^ 23) ∧
      5 * (trigramSet "ab" ∩ trigramSet folded).card =
        2 * (trigramSet "ab" ∪ trigramSet folded).card ∧
      isMatch (similarity "ab" folded) = false ∧ "abcd" ∈ s.similar "\u00c1BC" := by
  intro s folded
  have ascending : s.words.Pairwise (· < ·) := by decide +kernel
  have few : ∀ w ∈ s.words, (trigramSet w ∪ trigramSet folded).card < 2 ^ 23 := by decide +kernel
  have hshare : 5 * (trigramSet "ab" ∩ trigramSet folded).card =
      2 * (trigramSet "ab" ∪ trigramSet folded).card := by decide +kernel
  obtain ⟨-, hsimilar, -, hwords⟩ := Snapshot.similar_exact ascending few
  refine ⟨ascending, few, hshare, ?_, ?_⟩
  · exact (hwords "ab" List.mem_cons_self).2.2 hshare
  · exact (hsimilar "abcd").2 ⟨by decide +kernel, by decide +kernel⟩

end CommitSearch
