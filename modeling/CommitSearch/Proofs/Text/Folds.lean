import CommitSearch.Proofs.Text.Equivalence

/-!
# Folds of folds

A fold is made of plain characters: they are not taken apart, are no marks and have no lower case but
themselves. What a character is taken apart into is not taken apart further, and a capital that is not
taken apart has a letter that is not taken apart either and is no mark, both checked over the tables.
Main statement: a fold is its own fold and its own lower case, so that a known word is looked up as it
is.
-/

namespace CommitSearch.Text

/-! ### What is taken apart -/

/-- The code points that have a form, each a run of its own. -/
def formCodes : CodeRanges := canonicalForms.map fun entry => (entry.1, entry.1)

theorem formAt_isSome (table : List (Nat × List Nat)) (n : Nat) :
    (formAt table n).isSome = CodeRanges.covers (table.map fun entry => (entry.1, entry.1)) n := by
  induction table with
  | nil => rfl
  | cons entry rest ih =>
    obtain ⟨code, form⟩ := entry
    rw [formAt, List.map_cons, CodeRanges.covers]
    split
    · rfl
    · next hlow =>
      by_cases he : n = code
      · rw [if_pos he, if_pos he.le]
        rfl
      · rw [if_neg he, if_neg (by omega), ih]

theorem formCodes_ascending : formCodes.isAscendingFrom 0 = true := by decide +kernel

/-- Whether a code point is that of a character that is taken apart. -/
def isCompound (n : Nat) : Bool :=
  decide (0xac00 ≤ n ∧ n ≤ 0xd7a3) || formCodes.bits.testBit n

theorem isCompound_eq (n : Nat) :
    isCompound n = (decide (0xac00 ≤ n ∧ n ≤ 0xd7a3) || (formAt canonicalForms n).isSome) := by
  rw [formAt_isSome, isCompound, ← CodeRanges.covers_eq_testBit formCodes_ascending]
  rfl

theorem decomposeChar_of_not_compound {c : Char} (h : isCompound c.toNat = false) :
    decomposeChar c = [c] := by
  rw [isCompound_eq, Bool.or_eq_false_iff, decide_eq_false_iff_not, Option.isSome_eq_false_iff,
    Option.isNone_iff_eq_none] at h
  rw [decomposeChar, if_neg h.1, h.2]

theorem forms_not_compound :
    canonicalForms.all (fun entry => entry.2.all fun m => !isCompound m) = true := by
  decide +kernel

theorem hangul_letters_not_compound :
    formCodes.bits &&& CodeRanges.mask 0x1100 0x11c2 = 0 := by
  decide +kernel

theorem not_compound_of_mem_hangulLetters {n m : Nat} (h : n ≤ 0xd7a3) (hm : m ∈ hangulLetters n) :
    isCompound m = false := by
  obtain ⟨hlow, hhigh⟩ := mem_hangulLetters h hm
  have hbit : (formCodes.bits &&& CodeRanges.mask 0x1100 0x11c2).testBit m = false := by
    rw [hangul_letters_not_compound, Nat.zero_testBit]
  rw [Nat.testBit_and, CodeRanges.testBit_mask, decide_eq_true ⟨hlow, hhigh⟩, Bool.and_true] at hbit
  rw [isCompound, hbit, Bool.or_false, decide_eq_false_iff_not]
  omega

/-- What a character is taken apart into is not taken apart further. -/
theorem not_compound_of_mem_decomposeChar {c d : Char} (hd : d ∈ decomposeChar c) :
    isCompound d.toNat = false := by
  unfold decomposeChar at hd
  split at hd
  · next hangul =>
    obtain ⟨m, hm, rfl⟩ := List.mem_map.1 hd
    obtain ⟨hlow, hhigh⟩ := mem_hangulLetters hangul.2 hm
    rw [toNat_ofNat (by unfold Nat.isValidChar; omega)]
    exact not_compound_of_mem_hangulLetters hangul.2 hm
  · next hangul =>
    split at hd
    · next form hform =>
      obtain ⟨m, hm, rfl⟩ := List.mem_map.1 hd
      have hentry := mem_of_formAt hform
      have hkinds := List.all_eq_true.1 canonicalForms_keep_kind _ hentry
      simp only [formKeepsKind, Bool.and_eq_true, List.all_eq_true, decide_eq_true_eq] at hkinds
      rw [toNat_ofNat (hkinds.1.1 m hm)]
      simpa using List.all_eq_true.1 (List.all_eq_true.1 forms_not_compound _ hentry) m hm
    · next hform =>
      rw [List.mem_singleton.1 hd, isCompound_eq, hform, decide_eq_false hangul]
      rfl

/-! ### Plain characters -/

/-- A character that a fold leaves as it is. -/
structure IsPlain (c : Char) : Prop where
  whole : isCompound c.toNat = false
  unmarked : isMark c = false
  settled : IsSettled c

/-- The letters of the capitals of a run that are not taken apart are not taken apart either, and they
are no marks. -/
def CaseRun.staysPlain (r : CaseRun) : Bool :=
  (List.range' r.first (r.last + 1 - r.first)).all fun n =>
    let letter := ((n : Int) + r.shift).toNat
    !r.covers n || isCompound n || !isCompound letter && !markRanges.bits.testBit letter

theorem caseRuns_stay_plain : caseRuns.all CaseRun.staysPlain = true := by decide +kernel

theorem plain_of_covers {r : CaseRun} (hr : r ∈ caseRuns) {c : Char} (hc : r.covers c.toNat = true)
    (whole : isCompound c.toNat = false) :
    IsPlain (Char.ofNat ((c.toNat : Int) + r.shift).toNat) := by
  have hstays := List.all_eq_true.1 caseRuns_stay_plain r hr
  have hbounds : r.first ≤ c.toNat ∧ c.toNat ≤ r.last := by
    simp only [CaseRun.covers, Bool.and_eq_true, decide_eq_true_eq] at hc
    exact hc.1
  have hmem : c.toNat ∈ List.range' r.first (r.last + 1 - r.first) := by
    rw [List.mem_range'_1]
    omega
  have hletter := List.all_eq_true.1 hstays _ hmem
  simp only [hc, whole, Bool.not_true, Bool.false_or, Bool.and_eq_true, Bool.not_eq_true'] at hletter
  have hcode := toNat_ofNat (CaseRun.shifted hr hc).2
  refine ⟨?_, ?_, (CaseRun.sound hr hc).1⟩
  · rw [hcode]
    exact hletter.1
  · rw [isMark, CodeRanges.covers_eq_testBit markRanges_ascending, hcode]
    exact hletter.2

theorem plain_sigma : IsPlain '\u03c2' ∧ IsPlain '\u03c3' :=
  ⟨⟨by decide +kernel, by decide +kernel, settled_sigma.1⟩,
    ⟨by decide +kernel, by decide +kernel, settled_sigma.2⟩⟩

/-- The dotted capital I, whose lower case has a mark, is taken apart. -/
theorem dotted_compound : isCompound '\u0130'.toNat = true := by decide +kernel

/-- The lower case of a character that is not taken apart is one character. -/
theorem eq_of_mem_lowerPiece {final : Bool} {c d : Char} (whole : isCompound c.toNat = false)
    (hd : d ∈ lowerPiece final c) :
    d = '\u03c2' ∨ d = '\u03c3' ∨ c ≠ '\u0130' ∧ d = lowerLetter c := by
  unfold lowerPiece lowerChar at hd
  split at hd
  · rw [List.mem_singleton.1 hd]
    cases final
    · exact .inr (.inl rfl)
    · exact .inl rfl
  · split at hd
    · next hdotted =>
      rw [hdotted, dotted_compound] at whole
      cases whole
    · next hne => exact .inr (.inr ⟨hne, List.mem_singleton.1 hd⟩)

theorem plain_lowerLetter {c : Char} (whole : isCompound c.toNat = false)
    (unmarked : isMark c = false) (hne : c ≠ '\u0130') : IsPlain (lowerLetter c) := by
  unfold lowerLetter
  split
  · next r hr =>
    exact plain_of_covers (List.mem_of_find?_eq_some hr) (by simpa using List.find?_some hr) whole
  · next hr => exact ⟨whole, unmarked, hr, hne⟩

/-- Every character of a lower case is of the piece of one character. -/
theorem exists_mem_lowerPiece {before cs : List Char} {d : Char} (hd : d ∈ lowerAfter before cs) :
    ∃ c ∈ cs, ∃ final, d ∈ lowerPiece final c := by
  induction cs generalizing before with
  | nil => cases hd
  | cons c rest ih =>
    rw [lowerAfter_cons] at hd
    rcases List.mem_append.1 hd with hd | hd
    · exact ⟨c, List.mem_cons_self, _, hd⟩
    · obtain ⟨e, he, hpiece⟩ := ih hd
      exact ⟨e, List.mem_cons_of_mem _ he, hpiece⟩

/-! ### Folds -/

/-- What a fold lowers: parts of characters that are no marks. -/
theorem of_mem_unmarked {cs : List Char} {c : Char}
    (hc : c ∈ (decompose cs).filter fun c => !isMark c) :
    isCompound c.toNat = false ∧ isMark c = false := by
  obtain ⟨hmem, hmark⟩ := List.mem_filter.1 hc
  rw [decompose, mem_orderMarks] at hmem
  obtain ⟨whole, -, hpart⟩ := List.mem_flatMap.1 hmem
  exact ⟨not_compound_of_mem_decomposeChar hpart, by simpa using hmark⟩

theorem plain_of_mem_foldChars {cs : List Char} {d : Char} (hd : d ∈ foldChars cs) : IsPlain d := by
  obtain ⟨c, hc, final, hpiece⟩ := exists_mem_lowerPiece hd
  obtain ⟨whole, unmarked⟩ := of_mem_unmarked hc
  rcases eq_of_mem_lowerPiece whole hpiece with rfl | rfl | ⟨hne, rfl⟩
  · exact plain_sigma.1
  · exact plain_sigma.2
  · exact plain_lowerLetter whole unmarked hne

theorem alphanumeric_of_mem_foldChars {run : List Char}
    (letters : ∀ c ∈ run, isAlphanumeric c = true) {d : Char} (hd : d ∈ foldChars run) :
    isAlphanumeric d = true := by
  obtain ⟨c, hc, final, hpiece⟩ := exists_mem_lowerPiece hd
  obtain ⟨whole, unmarked⟩ := of_mem_unmarked hc
  have hletter := (letter_of_mem_decompose letters (List.mem_filter.1 hc).1).resolve_left
    (by simp [unmarked])
  rcases eq_of_mem_lowerPiece whole hpiece with rfl | rfl | ⟨-, rfl⟩
  · decide
  · decide
  · exact alphanumeric_lowerLetter hletter

theorem orderMarks_of_unmarked {cs : List Char} (h : ∀ c ∈ cs, isMark c = false) :
    orderMarks cs = cs := by
  induction cs with
  | nil => rfl
  | cons c rest ih =>
    rw [orderMarks, ih fun d hd => h d (List.mem_cons_of_mem _ hd)]
    cases rest with
    | nil => rfl
    | cons d more =>
      have hclass : ¬ 0 < combiningClass d := fun hpos => by
        have hmark := isMark_of_combiningClass hpos
        rw [h d (List.mem_cons_of_mem _ List.mem_cons_self)] at hmark
        cases hmark
      rw [placeMark, if_neg fun hmove => hclass hmove.1]

theorem foldChars_of_plain {cs : List Char} (h : ∀ c ∈ cs, IsPlain c) : foldChars cs = cs := by
  have hparts : cs.flatMap decomposeChar = cs := by
    rw [List.flatMap_congr fun c hc => decomposeChar_of_not_compound (h c hc).whole]
    exact List.flatMap_singleton' cs
  have hfilter : (cs.filter fun c => !isMark c) = cs :=
    List.filter_eq_self.2 fun c hc => by simp [(h c hc).unmarked]
  rw [foldChars, decompose, hparts, orderMarks_of_unmarked fun c hc => (h c hc).unmarked, hfilter]
  exact lowerAfter_of_settled fun c hc => (h c hc).settled

theorem fold_ofList_foldChars (cs : List Char) :
    fold (String.ofList (foldChars cs)) = String.ofList (foldChars cs) := by
  rw [fold, String.toList_ofList, foldChars_of_plain fun _ hd => plain_of_mem_foldChars hd]

end CommitSearch.Text
