import CommitSearch.Store

/-!
# Newest first

A list is in the order of a search when no date in it is before a later one and items of one date
keep the order in which they were stored. There is one such list, and the sort of the store finds
it. Items are anything that has a date: commits, or commits with their places in the store.
-/

namespace CommitSearch

open CommitSearch.Calendar

variable {α β : Type} {date : α → Instant}

/-- The order of a search: by descending date, items of one date as they were stored. -/
structure NewestFirst (date : α → Instant) (stored sorted : List α) : Prop where
  descending : sorted.Pairwise fun a b => (date a).before (date b) = false
  stable : ∀ d, sorted.filter (fun a => date a = d) = stored.filter (fun a => date a = d)

/-- The comparison of the sort: newer items come first. -/
def newer (date : α → Instant) (a b : α) : Bool := !(date a).before (date b)

theorem newer_trans {a b c : α} (h : newer date a b = true) (g : newer date b c = true) :
    newer date a c = true := by
  simp only [newer, Bool.not_eq_true', Bool.eq_false_iff, ne_eq] at *
  intro hac
  rcases Instant.before_total (date a) (date b) with hab | hab | hba
  · exact h hab
  · rw [hab] at hac
    exact g hac
  · exact g (Instant.before_trans hba hac)

theorem newer_total (a b : α) : (newer date a b || newer date b a) = true := by
  rw [newer, newer, Bool.or_eq_true, Bool.not_eq_true', Bool.not_eq_true']
  cases hab : (date a).before (date b) with
  | false => exact .inl rfl
  | true => exact .inr (Instant.not_before_of_before hab)

def newestFirst (date : α → Instant) (stored : List α) : List α := stored.mergeSort (newer date)

theorem newestFirst_perm (stored : List α) : (newestFirst date stored).Perm stored :=
  List.mergeSort_perm stored _

theorem newestFirst_sorted (stored : List α) :
    NewestFirst date stored (newestFirst date stored) := by
  constructor
  · have h : (stored.mergeSort (newer date)).Pairwise fun a b => newer date a b = true :=
      List.pairwise_mergeSort (fun _ _ _ => newer_trans) newer_total stored
    refine h.imp fun hab => ?_
    simpa [newer] using hab
  · intro d
    -- The items of one date are a sorted sublist, which the sort keeps.
    have hp : (stored.filter fun a => date a = d).Pairwise fun a b => newer date a b = true := by
      refine List.pairwise_of_forall_mem_list fun a ha b hb => ?_
      have hda : date a = d := by simpa using (List.mem_filter.1 ha).2
      have hdb : date b = d := by simpa using (List.mem_filter.1 hb).2
      simp [newer, hda, hdb, Instant.before_irrefl]
    have hs : (stored.filter fun a => date a = d).Sublist (stored.mergeSort (newer date)) :=
      List.sublist_mergeSort (fun _ _ _ => newer_trans) newer_total hp List.filter_sublist
    have hf := hs.filter (fun a => decide (date a = d))
    rw [List.filter_filter, List.filter_congr (q := fun a => decide (date a = d)) (by simp)] at hf
    refine (hf.eq_of_length ?_).symm
    exact (((newestFirst_perm stored).filter _).length_eq).symm

theorem NewestFirst.mem_iff {stored sorted : List α} (h : NewestFirst date stored sorted) {a : α} :
    a ∈ sorted ↔ a ∈ stored := by
  have key : ∀ l : List α, a ∈ l ↔ a ∈ l.filter fun b => date b = date a := by
    intro l
    simp
  rw [key sorted, h.stable, ← key stored]

/-- There is only one list in the order of a search. -/
theorem NewestFirst.unique {stored l₁ l₂ : List α} (h₁ : NewestFirst date stored l₁)
    (h₂ : NewestFirst date stored l₂) : l₁ = l₂ := by
  induction l₁ generalizing stored l₂ with
  | nil =>
    cases l₂ with
    | nil => rfl
    | cons b t =>
      have hb : b ∈ ([] : List α) := h₁.mem_iff.2 (h₂.mem_iff.1 List.mem_cons_self)
      cases hb
  | cons a t ih =>
    cases l₂ with
    | nil =>
      have ha : a ∈ ([] : List α) := h₂.mem_iff.2 (h₁.mem_iff.1 List.mem_cons_self)
      cases ha
    | cons b u =>
      have le : ∀ {x y : α} {l : List α}, NewestFirst date stored (x :: l) → y ∈ x :: l →
          (date x).before (date y) = false := by
        intro x y l h hy
        rcases List.mem_cons.1 hy with rfl | hy
        · exact Instant.before_irrefl _
        · exact (List.pairwise_cons.1 h.descending).1 y hy
      have hab := le h₁ (h₁.mem_iff.2 (h₂.mem_iff.1 List.mem_cons_self))
      have hba := le h₂ (h₂.mem_iff.2 (h₁.mem_iff.1 List.mem_cons_self))
      have hd : date a = date b := Instant.eq_of_not_before hab hba
      have hhead := (h₁.stable (date a)).trans (h₂.stable (date a)).symm
      rw [List.filter_cons_of_pos (by simp), List.filter_cons_of_pos (by simp [hd])] at hhead
      obtain ⟨rfl, -⟩ := List.cons.inj hhead
      have htail : NewestFirst date u t := by
        refine ⟨(List.pairwise_cons.1 h₁.descending).2, fun d => ?_⟩
        have hstep := (h₁.stable d).trans (h₂.stable d).symm
        by_cases had : date a = d
        · rw [List.filter_cons_of_pos (by simp [had]), List.filter_cons_of_pos (by simp [had])]
            at hstep
          exact (List.cons.inj hstep).2
        · rwa [List.filter_cons_of_neg (by simp [had]), List.filter_cons_of_neg (by simp [had])]
            at hstep
      rw [ih htail ⟨(List.pairwise_cons.1 h₂.descending).2, fun _ => rfl⟩]

theorem newestFirst_iff {stored sorted : List α} :
    newestFirst date stored = sorted ↔ NewestFirst date stored sorted := by
  constructor
  · rintro rfl
    exact newestFirst_sorted stored
  · exact (newestFirst_sorted stored).unique

theorem NewestFirst.length_eq {stored sorted : List α} (h : NewestFirst date stored sorted) :
    sorted.length = stored.length := by
  rw [← newestFirst_iff.2 h]
  exact (newestFirst_perm stored).length_eq

theorem newestFirst_map {f : β → α} (stored : List β) :
    newestFirst date (stored.map f) = (newestFirst (date ∘ f) stored).map f := by
  refine newestFirst_iff.2 ⟨?_, fun d => ?_⟩
  · exact List.pairwise_map.2 (newestFirst_sorted stored).descending
  · have hs : NewestFirst (date ∘ f) stored (newestFirst (date ∘ f) stored) :=
      newestFirst_sorted stored
    have h := hs.stable d
    simp only [List.filter_map, Function.comp_def] at *
    rw [h]

theorem Contents.selected_eq (s : Contents) (q : Query) :
    s.selected q = newestFirst Commit.date (s.commits.filter q.selects) := rfl

end CommitSearch
