import CommitSearch.Proofs.Text.Letters
import CommitSearch.Text.Fold

/-!
# Words and their folds

The words of a text are its longest alphanumeric runs. The fold of such a run is empty when the run
has nothing but marks, and otherwise it has an alphanumeric character again, so that it has words.
-/

namespace CommitSearch.Text

/-- A longest alphanumeric run of a text: it is not empty, and the text goes on with no alphanumeric
character on either side. -/
def IsRun (run text : List Char) : Prop :=
  ∃ before after, text = before ++ run ++ after ∧ run ≠ [] ∧
    (∀ c ∈ run, isAlphanumeric c = true) ∧
    (∀ c ∈ before.getLast?, isAlphanumeric c = false) ∧
    ∀ c ∈ after.head?, isAlphanumeric c = false

/-! ### Words -/

theorem wordsOf_append_separator {c : Char} (hc : isAlphanumeric c = false) (a b : List Char) :
    wordsOf (a ++ c :: b) = wordsOf a ++ wordsOf b := by
  rw [wordsOf, fields_append_separator _ a b c (by simp [hc]), List.filter_append]
  rfl

theorem wordsOf_cons_separator {c : Char} (hc : isAlphanumeric c = false) (b : List Char) :
    wordsOf (c :: b) = wordsOf b := wordsOf_append_separator hc [] b

theorem wordsOf_of_letters {w : List Char} (hne : w ≠ []) (h : ∀ c ∈ w, isAlphanumeric c = true) :
    wordsOf w = [w] := by
  rw [wordsOf, fields_of_none fun c hc => by simp [h c hc]]
  simp [hne]

theorem mem_wordsOf_of_isRun {run text : List Char} (h : IsRun run text) : run ∈ wordsOf text := by
  obtain ⟨before, after, rfl, hne, hrun, hbefore, hafter⟩ := h
  have hright : run ∈ wordsOf (run ++ after) := by
    cases after with
    | nil =>
      rw [List.append_nil, wordsOf_of_letters hne hrun]
      exact List.mem_singleton_self run
    | cons c rest =>
      rw [wordsOf_append_separator (hafter c rfl), wordsOf_of_letters hne hrun]
      exact List.mem_cons_self
  rw [List.append_assoc]
  rcases List.eq_nil_or_concat before with rfl | ⟨front, c, rfl⟩
  · exact hright
  · rw [List.concat_eq_append] at hbefore ⊢
    rw [List.append_assoc, List.singleton_append,
      wordsOf_append_separator (hbefore c List.getLast?_concat)]
    exact List.mem_append_right _ hright

/-- The words of a text are its longest alphanumeric runs. -/
theorem mem_wordsOf_iff {run text : List Char} : run ∈ wordsOf text ↔ IsRun run text := by
  refine ⟨?_, mem_wordsOf_of_isRun⟩
  -- A word that has begun grows until another character ends it.
  have key : ∀ front, (∀ c ∈ front, isAlphanumeric c = true) →
      run ∈ wordsOf (front ++ text) → IsRun run (front ++ text) := by
    induction text with
    | nil =>
      intro front hfront h
      rw [List.append_nil] at h ⊢
      by_cases hne : front = []
      · rw [hne] at h
        cases h
      · rw [wordsOf_of_letters hne hfront, List.mem_singleton] at h
        exact ⟨[], [], by simp [h], h ▸ hne, h ▸ hfront, nofun, nofun⟩
    | cons c rest ih =>
      intro front hfront h
      cases hc : isAlphanumeric c with
      | true =>
        have hgrown : ∀ d ∈ front ++ [c], isAlphanumeric d = true :=
          List.forall_mem_append.2 ⟨hfront, by simpa using hc⟩
        simpa using ih (front ++ [c]) hgrown (by simpa using h)
      | false =>
        rw [wordsOf_append_separator hc] at h
        rcases List.mem_append.1 h with h | h
        · by_cases hne : front = []
          · rw [hne] at h
            cases h
          · rw [wordsOf_of_letters hne hfront, List.mem_singleton] at h
            refine ⟨[], c :: rest, by simp [h], h ▸ hne, h ▸ hfront, nofun, ?_⟩
            simpa using hc
        · obtain ⟨before, after, hrest, hrun, hletters, hbefore, hafter⟩ :=
            ih [] (List.forall_mem_nil _) h
          refine ⟨front ++ c :: before, after, by simpa using hrest, hrun, hletters, ?_, hafter⟩
          intro d hd
          rw [List.getLast?_append_of_ne_nil _ (List.cons_ne_nil _ _)] at hd
          cases before with
          | nil =>
            obtain rfl : c = d := by simpa using hd
            exact hc
          | cons e more => exact hbefore d (by simpa using hd)
  exact key [] (List.forall_mem_nil _)

theorem wordsOf_ne_nil {cs : List Char} {c : Char} (hc : c ∈ cs) (h : isAlphanumeric c = true) :
    wordsOf cs ≠ [] := by
  induction cs with
  | nil => cases hc
  | cons d rest ih =>
    cases hd : isAlphanumeric d with
    | true =>
      obtain ⟨field, more, hfields⟩ := List.exists_cons_of_ne_nil
        (fields_ne_nil (fun c => !isAlphanumeric c) rest)
      simp [wordsOf, fields, hd, hfields]
    | false =>
      rw [wordsOf_cons_separator hd]
      rcases List.mem_cons.1 hc with rfl | hc
      · rw [h] at hd
        cases hd
      · exact ih hc

/-! ### Folds -/

theorem exists_alphanumeric_lowerChars {c : Char} (h : isAlphanumeric c = true)
    (rest : List Char) : ∃ d ∈ lowerChars (c :: rest), isAlphanumeric d = true := by
  rw [lowerChars, lowerAfter_cons]
  obtain ⟨d, hd, halpha⟩ := exists_alphanumeric_lowerPiece _ h
  exact ⟨d, List.mem_append_left _ hd, halpha⟩

/-- What is left of a run by its fold begins with an alphanumeric character. -/
theorem exists_alphanumeric_foldChars {run : List Char}
    (h : ∀ c ∈ run, isAlphanumeric c = true) (hne : foldChars run ≠ []) :
    ∃ d ∈ foldChars run, isAlphanumeric d = true := by
  rw [foldChars] at hne ⊢
  cases hletters : (decompose run).filter fun c => !isMark c with
  | nil =>
    rw [hletters] at hne
    exact absurd rfl hne
  | cons c rest =>
    have hc : c ∈ (decompose run).filter fun c => !isMark c := by
      rw [hletters]
      exact List.mem_cons_self
    obtain ⟨hmem, hmark⟩ := List.mem_filter.1 hc
    have hno : isMark c = false := by simpa using hmark
    have halpha := (letter_of_mem_decompose h hmem).resolve_left (by simp [hno])
    exact exists_alphanumeric_lowerChars halpha rest

theorem trim_of_alphanumeric {s : String} (h : ∀ c ∈ s.toList, isAlphanumeric c = true) :
    trim s = s := by
  have ht : IsTrimmed s.toList :=
    ⟨fun c hc => not_blank_of_alphanumeric (h c (List.mem_of_mem_head? hc)),
      fun c hc => not_blank_of_alphanumeric (h c (List.mem_of_mem_getLast? hc))⟩
  rw [trim, ht.trimStart_eq, ht.trimEnd_eq, String.ofList_toList]

end CommitSearch.Text
