import CommitSearch.Text.Lists

/-!
# Ascending lists of texts

A list of texts that ascends is known by its members. `insertDistinct` keeps a list ascending, so
whatever is gathered by it does not depend on the order in which it came.
-/

namespace CommitSearch.Text

theorem ascending_insertDistinct {s : String} {l : List String} (h : l.Pairwise (· < ·)) :
    (insertDistinct s l).Pairwise (· < ·) := by
  induction l with
  | nil => exact List.pairwise_singleton _ s
  | cons t rest ih =>
    have ht := (List.pairwise_cons.1 h).1
    have hrest := ih (List.pairwise_cons.1 h).2
    unfold insertDistinct
    split
    · next hst =>
      have hs : ∀ u ∈ t :: rest, s < u := by
        intro u hu
        rcases List.mem_cons.1 hu with hu | hu
        · exact hu ▸ hst
        · exact String.lt_trans hst (ht u hu)
      exact List.pairwise_cons.2 ⟨hs, h⟩
    · next hst =>
      split
      · exact h
      · next hne =>
        have hts : t < s := by
          refine Decidable.not_not.1 fun hnot => hne ?_
          exact String.le_antisymm hnot hst
        have hall : ∀ u ∈ insertDistinct s rest, t < u := by
          intro u hu
          rcases (mem_insertDistinct u s rest).1 hu with hu | hu
          · exact hu ▸ hts
          · exact ht u hu
        exact List.pairwise_cons.2 ⟨hall, hrest⟩

theorem ascending_foldr_insertDistinct {l : List String} (h : l.Pairwise (· < ·))
    (added : List String) : (added.foldr insertDistinct l).Pairwise (· < ·) := by
  induction added with
  | nil => exact h
  | cons s rest ih => exact ascending_insertDistinct ih

/-- There is only one ascending list with given members. -/
theorem ascending_ext {l l' : List String} (h : l.Pairwise (· < ·)) (h' : l'.Pairwise (· < ·))
    (hm : ∀ s, s ∈ l ↔ s ∈ l') : l = l' := by
  have hne : ∀ {a b : String}, a < b → a ≠ b := by
    intro a b hab he
    exact String.lt_irrefl b (he ▸ hab)
  have hperm : l.Perm l' := (List.perm_ext_iff_of_nodup (h.imp hne) (h'.imp hne)).2 fun s => hm s
  have hanti : ∀ a b : String, a ∈ l → b ∈ l' → a < b → b < a → a = b := by
    intro a b _ _ hab hba
    exact absurd (String.lt_trans hab hba) (String.lt_irrefl a)
  exact hperm.eq_of_pairwise hanti h h'

end CommitSearch.Text
