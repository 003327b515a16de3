import CommitSearch.Proofs.Text.Letters
import CommitSearch.Text.Fold
import CommitSearch.Text.Lists

/-!
# Stretches of letters and marks

Characters that are neither alphanumeric nor marks bound the stretches of a text. Taking characters
apart and ordering marks moves nothing over a boundary: a boundary stays one, with marks behind it at
most, and no boundary comes of another character. Main statement: which stretches have an
alphanumeric character, and what stands in each of them besides marks, can be read off the canonical
decomposition.
-/

namespace CommitSearch.Text

/-! ### Fields of texts in parts -/

theorem fields_cons_separator {p : Char → Bool} {c : Char} (hc : p c = true) (cs : List Char) :
    fields p (c :: cs) = [] :: fields p cs := by
  rw [fields, if_pos hc]

theorem fields_cons_of_not {p : Char → Bool} {c : Char} (hc : p c = false) (cs : List Char) :
    fields p (c :: cs) = (fields p cs).modifyHead (c :: ·) := by
  obtain ⟨field, more, hfields⟩ := List.exists_cons_of_ne_nil (fields_ne_nil p cs)
  rw [fields, hc, hfields]
  rfl

theorem fields_append_of_none {p : Char → Bool} {a : List Char} (ha : ∀ c ∈ a, p c = false)
    (b : List Char) : fields p (a ++ b) = (fields p b).modifyHead (a ++ ·) := by
  induction a with
  | nil =>
    obtain ⟨field, more, hfields⟩ := List.exists_cons_of_ne_nil (fields_ne_nil p b)
    rw [List.nil_append, hfields]
    rfl
  | cons c a ih =>
    rw [List.cons_append, fields_cons_of_not (ha c List.mem_cons_self),
      ih fun d hd => ha d (List.mem_cons_of_mem _ hd), List.modifyHead_modifyHead]
    rfl

/-! ### Outlines -/

/-- The stretches of alphanumeric characters and marks, empty ones among them. -/
def stretches (cs : List Char) : List (List Char) := fields isBoundary cs

/-- Of each stretch, whether it has an alphanumeric character and what it has besides marks. -/
def outline (cs : List Char) : List (Bool × List Char) :=
  (stretches cs).map fun w => (w.any isAlphanumeric, w.filter fun c => !isMark c)

/-- What characters that are no boundaries add to the first stretch of an outline. -/
def extend (a : List Char) (first : Bool × List Char) : Bool × List Char :=
  (a.any isAlphanumeric || first.1, (a.filter fun c => !isMark c) ++ first.2)

theorem outline_cons_boundary {c : Char} (hc : isBoundary c = true) (cs : List Char) :
    outline (c :: cs) = (false, []) :: outline cs := by
  rw [outline, stretches, fields_cons_separator hc]
  rfl

theorem outline_append {a : List Char} (ha : ∀ c ∈ a, isBoundary c = false) (b : List Char) :
    outline (a ++ b) = (outline b).modifyHead (extend a) := by
  obtain ⟨field, more, hfields⟩ := List.exists_cons_of_ne_nil (fields_ne_nil isBoundary b)
  rw [outline, outline, stretches, stretches, fields_append_of_none ha, hfields]
  simp [extend]

theorem outline_cons {c : Char} (hc : isBoundary c = false) (cs : List Char) :
    outline (c :: cs) = (outline cs).modifyHead (extend [c]) :=
  outline_append (a := [c]) (by simpa using hc) cs

/-- What stands before a text is seen alike, whatever makes up the outline of the text. -/
theorem outline_cons_congr (c : Char) {cs ds : List Char} (h : outline cs = outline ds) :
    outline (c :: cs) = outline (c :: ds) := by
  cases hc : isBoundary c with
  | true => rw [outline_cons_boundary hc, outline_cons_boundary hc, h]
  | false => rw [outline_cons hc, outline_cons hc, h]

/-! ### Marks in order -/

theorem classRuns_are_marks :
    combiningClassRuns.all (fun r =>
      Nat.beq (markRanges.bits &&& CodeRanges.mask r.1 r.2.1) (CodeRanges.mask r.1 r.2.1)) =
      true := by
  decide +kernel

theorem exists_run_of_classIn {table : List (Nat × Nat × Nat)} {n : Nat} (h : 0 < classIn table n) :
    ∃ r ∈ table, r.1 ≤ n ∧ n ≤ r.2.1 := by
  induction table with
  | nil => cases h
  | cons r rest ih =>
    obtain ⟨first, last, cls⟩ := r
    rw [classIn] at h
    split at h
    · cases h
    · next hfirst =>
      split at h
      · next hlast => exact ⟨_, List.mem_cons_self, Nat.le_of_not_lt hfirst, hlast⟩
      · obtain ⟨r, hr, hbounds⟩ := ih h
        exact ⟨r, List.mem_cons_of_mem _ hr, hbounds⟩

theorem isMark_of_combiningClass {c : Char} (h : 0 < combiningClass c) : isMark c = true := by
  obtain ⟨r, hr, hlow, hhigh⟩ := exists_run_of_classIn h
  have hmask := List.all_eq_true.1 classRuns_are_marks r hr
  rw [Nat.beq_eq] at hmask
  exact CodeRanges.covers_of_mask markRanges_ascending hmask hlow hhigh

theorem outline_swap_marks {c d : Char} (hc : isMark c = true) (hd : isMark d = true)
    (cs : List Char) : outline (c :: d :: cs) = outline (d :: c :: cs) := by
  have hnone : ∀ e ∈ [c, d], isBoundary e = false := by simp [isBoundary, hc, hd]
  have hnone' : ∀ e ∈ [d, c], isBoundary e = false := by simp [isBoundary, hc, hd]
  have hsame : extend [c, d] = extend [d, c] := by
    funext first
    simp [extend, hc, hd, Bool.or_comm]
  exact (outline_append hnone cs).trans (hsame ▸ (outline_append hnone' cs).symm)

theorem outline_placeMark (c : Char) (cs : List Char) :
    outline (placeMark c cs) = outline (c :: cs) := by
  induction cs with
  | nil => rfl
  | cons d rest ih =>
    rw [placeMark]
    split
    · next h =>
      rw [outline_cons_congr d ih]
      exact outline_swap_marks (isMark_of_combiningClass h.1)
        (isMark_of_combiningClass (h.1.trans h.2)) rest
    · rfl

theorem outline_orderMarks (cs : List Char) : outline (orderMarks cs) = outline cs := by
  induction cs with
  | nil => rfl
  | cons c rest ih => rw [orderMarks, outline_placeMark, outline_cons_congr c ih]

theorem filter_placeMark (c : Char) (cs : List Char) :
    (placeMark c cs).filter (fun e => !isMark e) = (c :: cs).filter fun e => !isMark e := by
  induction cs with
  | nil => rfl
  | cons d rest ih =>
    rw [placeMark]
    split
    · next h =>
      have hc := isMark_of_combiningClass (h.1.trans h.2)
      have hd := isMark_of_combiningClass h.1
      rw [List.filter_cons_of_neg (by simp [hd]), ih]
      simp [hc, hd]
    · rfl

theorem filter_orderMarks (cs : List Char) :
    (orderMarks cs).filter (fun e => !isMark e) = cs.filter fun e => !isMark e := by
  induction cs with
  | nil => rfl
  | cons c rest ih => rw [orderMarks, filter_placeMark, List.filter_cons, List.filter_cons, ih]

/-! ### Characters taken apart -/

/-- What a text has besides marks once its characters are taken apart. -/
def bases (cs : List Char) : List Char := (cs.flatMap decomposeChar).filter fun c => !isMark c

/-- Characters that are neither boundaries nor alphanumeric are marks. -/
theorem filter_eq_nil {cs : List Char} (hcs : ∀ c ∈ cs, isBoundary c = false)
    (h : cs.any isAlphanumeric = false) : (cs.filter fun c => !isMark c) = [] := by
  rw [List.filter_eq_nil_iff]
  intro c hc
  have hnot : isAlphanumeric c = false := by simpa using List.any_eq_false.1 h c hc
  have hmark : isMark c = true := by simpa [isBoundary, hnot] using hcs c hc
  simp [hmark]

theorem bases_eq_nil {c : Char} (hc : isBoundary c = false) (h : isAlphanumeric c = false) :
    bases [c] = [] := by
  rw [bases, List.flatMap_singleton]
  exact filter_eq_nil (not_boundary_of_part hc) ((any_decomposeChar c).trans h)

theorem bases_append (a b : List Char) : bases (a ++ b) = bases a ++ bases b := by
  rw [bases, List.flatMap_append, List.filter_append]
  rfl

theorem bases_cons (c : Char) (cs : List Char) : bases (c :: cs) = bases [c] ++ bases cs :=
  bases_append [c] cs

/-- Of a boundary that is taken apart, a boundary is all that is seen. -/
theorem outline_decompose_boundary {c : Char} (hc : isBoundary c = true) (cs : List Char) :
    outline (decomposeChar c ++ cs) = (false, []) :: outline cs := by
  obtain ⟨b, ms, hparts, hb, hms, hany⟩ := keepsKind_decomposeChar c
  have hmarks : ms.any isAlphanumeric = false := by
    rw [hparts, not_alphanumeric_of_boundary hc, List.any_cons, Bool.or_eq_false_iff] at hany
    exact hany.2
  have hnothing : extend ms = id := by
    funext first
    rw [extend, hmarks, filter_eq_nil hms hmarks]
    rfl
  rw [hparts, List.cons_append, outline_cons_boundary (hb.trans hc), outline_append hms, hnothing,
    List.modifyHead_id, id]

theorem outline_flatMap (cs : List Char) :
    outline (cs.flatMap decomposeChar) =
      (stretches cs).map fun w => (w.any isAlphanumeric, bases w) := by
  induction cs with
  | nil => rfl
  | cons c rest ih =>
    rw [List.flatMap_cons, stretches]
    rw [stretches] at ih
    cases hc : isBoundary c with
    | true =>
      rw [fields_cons_separator hc, outline_decompose_boundary hc, ih]
      rfl
    | false =>
      obtain ⟨field, more, hfields⟩ := List.exists_cons_of_ne_nil (fields_ne_nil isBoundary rest)
      have hextend : extend (decomposeChar c) = fun first =>
          (isAlphanumeric c || first.1, bases [c] ++ first.2) := by
        funext first
        rw [extend, any_decomposeChar, bases, List.flatMap_singleton]
      rw [fields_cons_of_not hc, outline_append (not_boundary_of_part hc), ih, hfields, hextend]
      simp [bases_cons c field]

/-- The stretches of a text are outlined in its canonical decomposition. -/
theorem outline_decompose (cs : List Char) :
    outline (decompose cs) = (stretches cs).map fun w => (w.any isAlphanumeric, bases w) := by
  rw [decompose, outline_orderMarks, outline_flatMap]

theorem foldChars_eq (cs : List Char) : foldChars cs = lowerChars (bases cs) := by
  rw [foldChars, decompose, filter_orderMarks, bases]

end CommitSearch.Text
