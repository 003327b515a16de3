import CommitSearch.Commit
import Mathlib.Data.List.DropRight

/-!
# The normal form of texts

Normalizing a text twice is normalizing it once. Lower case leaves what it yields as it is: no
letter to which a capital is mapped is a capital itself, which is checked over the table of case
runs. Lower case makes no blanks, so that a text without blanks at its ends stays so.
-/

namespace CommitSearch.Text

/-! ### Lower case -/

/-- A character that lower case leaves as it is. -/
def IsSettled (c : Char) : Prop :=
  caseRuns.find? (·.covers c.toNat) = none ∧ c ≠ '\u0130'

/-- No letter of a run is a capital of another: the intervals lie apart, or the letters and the
capitals take turns. A shift to the left is added on the other side. -/
def CaseRun.avoids (r s : CaseRun) : Bool :=
  Nat.blt (r.last + r.shift.toNat) (s.first + (-r.shift).toNat) ||
    Nat.blt (s.last + (-r.shift).toNat) (r.first + r.shift.toNat) ||
    ((Nat.beq r.step 2 || Nat.beq r.first r.last) && Nat.beq s.step 2 &&
      Nat.beq ((r.first + r.shift.toNat + s.first + (-r.shift).toNat) % 2) 1)

/-- The letters of a run are characters, settled ones, and no blanks. -/
def CaseRun.isSound (r : CaseRun) : Bool :=
  let low := r.first + r.shift
  let high := r.last + r.shift
  caseRuns.all r.avoids &&
    (⟨0x130, 0x130, 2, 0⟩ :: blankRanges.map fun b => ⟨b.1, b.2, 1, 0⟩).all r.avoids &&
    decide (0 ≤ low ∧ (high < 0xd800 ∨ 0xdfff < low ∧ high < 0x110000))

theorem caseRuns_sound : caseRuns.all CaseRun.isSound = true := by decide +kernel

theorem CaseRun.not_covers_of_avoids {r s : CaseRun} (h : r.avoids s = true) {n m : Nat}
    (hn : r.covers n = true) (hm : (m : Int) = n + r.shift) : s.covers m = false := by
  simp only [CaseRun.avoids, CaseRun.covers, Bool.or_eq_true, Bool.and_eq_true, decide_eq_true_eq,
    beq_iff_eq, Nat.blt_eq, Nat.beq_eq] at h hn
  rw [Bool.eq_false_iff]
  intro hs
  simp only [CaseRun.covers, Bool.and_eq_true, decide_eq_true_eq, beq_iff_eq] at hs
  obtain ⟨⟨hlow, hhigh⟩, hstep⟩ := hs
  obtain ⟨⟨hlow', hhigh'⟩, hstep'⟩ := hn
  rcases h with (h | h) | ⟨⟨h | h, h2⟩, hodd⟩
  · omega
  · omega
  · rw [h] at hstep'
    rw [h2] at hstep
    omega
  · rw [h2] at hstep
    omega

theorem toNat_ofNat {n : Nat} (h : n.isValidChar) : (Char.ofNat n).toNat = n := by
  have haux : Char.ofNat n = Char.ofNatAux n h := dif_pos h
  rw [haux]
  rfl

/-- The letter of a capital has the code point to which the run shifts it. -/
theorem CaseRun.shifted {r : CaseRun} (hr : r ∈ caseRuns) {n : Nat} (hn : r.covers n = true) :
    (((n : Int) + r.shift).toNat : Int) = n + r.shift ∧ ((n : Int) + r.shift).toNat.isValidChar := by
  have hs : r.isSound = true := List.all_eq_true.1 caseRuns_sound r hr
  simp only [CaseRun.isSound, Bool.and_eq_true, decide_eq_true_eq] at hs
  simp only [CaseRun.covers, Bool.and_eq_true, decide_eq_true_eq] at hn
  unfold Nat.isValidChar
  omega

theorem CaseRun.sound {r : CaseRun} (hr : r ∈ caseRuns) {n : Nat} (hn : r.covers n = true) :
    IsSettled (Char.ofNat ((n : Int) + r.shift).toNat) ∧
      isBlank (Char.ofNat ((n : Int) + r.shift).toNat) = false := by
  have hs : r.isSound = true := List.all_eq_true.1 caseRuns_sound r hr
  simp only [CaseRun.isSound, Bool.and_eq_true, List.all_eq_true, decide_eq_true_eq] at hs
  obtain ⟨⟨hall, hout⟩, -⟩ := hs
  obtain ⟨hm, hv⟩ := CaseRun.shifted hr hn
  generalize ((n : Int) + r.shift).toNat = m at hm hv ⊢
  have havoid : ∀ s : CaseRun, r.avoids s = true → s.covers m = false := fun s hs =>
    CaseRun.not_covers_of_avoids hs hn hm
  refine ⟨⟨?_, ?_⟩, ?_⟩
  · rw [toNat_ofNat hv, List.find?_eq_none]
    intro s hs
    simp [havoid s (hall s hs)]
  · intro e
    have he : m = 0x130 := by
      rw [← toNat_ofNat hv, e]
      rfl
    have := havoid _ (hout _ List.mem_cons_self)
    rw [he] at this
    cases this
  · rw [isBlank, toNat_ofNat hv, Bool.eq_false_iff]
    intro hc
    obtain ⟨b, hb, hlo, hhi⟩ := CodeRanges.exists_of_covers hc
    have := havoid _ (hout _ (List.mem_cons_of_mem _ (List.mem_map.2 ⟨b, hb, rfl⟩)))
    simp [CaseRun.covers, hlo, hhi, Nat.mod_one] at this

theorem lowerLetter_of_settled {c : Char} (h : IsSettled c) : lowerLetter c = c := by
  rw [lowerLetter, h.1]

theorem lowerLetter_settled {c : Char} (h : c ≠ '\u0130') : IsSettled (lowerLetter c) := by
  unfold lowerLetter
  split
  · next r hr => exact (CaseRun.sound (List.mem_of_find?_eq_some hr) (by simpa using List.find?_some hr)).1
  · next hr => exact ⟨hr, h⟩

theorem lowerLetter_not_blank {c : Char} (h : isBlank c = false) :
    isBlank (lowerLetter c) = false := by
  unfold lowerLetter
  split
  · next r hr => exact (CaseRun.sound (List.mem_of_find?_eq_some hr) (by simpa using List.find?_some hr)).2
  · exact h

theorem settled_dotless : IsSettled 'i' ∧ IsSettled '\u0307' := by
  constructor <;> constructor <;> decide +kernel

theorem settled_sigma : IsSettled '\u03c2' ∧ IsSettled '\u03c3' := by
  constructor <;> constructor <;> decide +kernel

theorem IsSettled.ne_sigma {c : Char} (h : IsSettled c) : c ≠ '\u03a3' := by
  rintro rfl
  have : caseRuns.find? (·.covers '\u03a3'.toNat) ≠ none := by decide +kernel
  exact this h.1

/-- What lower case makes of one character, where the sigma is final or not. -/
def lowerPiece (final : Bool) (c : Char) : List Char :=
  if c = '\u03a3' then [if final then '\u03c2' else '\u03c3'] else lowerChar c

theorem lowerAfter_cons (before : List Char) (c : Char) (rest : List Char) :
    lowerAfter before (c :: rest) =
      lowerPiece (meetsCased before && !meetsCased rest) c ++ lowerAfter (c :: before) rest := rfl

theorem settled_of_mem_lowerPiece {final : Bool} {c d : Char} (h : d ∈ lowerPiece final c) :
    IsSettled d := by
  unfold lowerPiece lowerChar at h
  split at h
  · rw [List.mem_singleton.1 h]
    cases final
    · exact settled_sigma.2
    · exact settled_sigma.1
  · split at h
    · rcases List.mem_cons.1 h with rfl | h
      · exact settled_dotless.1
      · rw [List.mem_singleton.1 h]
        exact settled_dotless.2
    · next hne =>
      rw [List.mem_singleton.1 h]
      exact lowerLetter_settled hne

theorem settled_of_mem_lowerAfter {before cs : List Char} {d : Char}
    (h : d ∈ lowerAfter before cs) : IsSettled d := by
  induction cs generalizing before with
  | nil => cases h
  | cons c rest ih =>
    rw [lowerAfter_cons] at h
    rcases List.mem_append.1 h with h | h
    · exact settled_of_mem_lowerPiece h
    · exact ih h

theorem lowerAfter_of_settled {before cs : List Char} (h : ∀ c ∈ cs, IsSettled c) :
    lowerAfter before cs = cs := by
  induction cs generalizing before with
  | nil => rfl
  | cons c rest ih =>
    have hc := h c List.mem_cons_self
    have hpiece : ∀ final, lowerPiece final c = [c] := by
      intro final
      rw [lowerPiece, if_neg hc.ne_sigma, lowerChar, if_neg hc.2, lowerLetter_of_settled hc]
    rw [lowerAfter_cons, hpiece, ih (fun d hd => h d (List.mem_cons_of_mem _ hd))]
    rfl

theorem lowerChars_lowerChars (cs : List Char) : lowerChars (lowerChars cs) = lowerChars cs :=
  lowerAfter_of_settled fun _ h => settled_of_mem_lowerAfter h

theorem not_blank_of_mem_lowerPiece {final : Bool} {c d : Char} (hc : isBlank c = false)
    (h : d ∈ lowerPiece final c) : isBlank d = false := by
  unfold lowerPiece lowerChar at h
  split at h
  · rw [List.mem_singleton.1 h]
    cases final <;> decide
  · split at h
    · rcases List.mem_cons.1 h with rfl | h
      · decide
      · rw [List.mem_singleton.1 h]
        decide
    · rw [List.mem_singleton.1 h]
      exact lowerLetter_not_blank hc

theorem lowerPiece_ne_nil (final : Bool) (c : Char) : lowerPiece final c ≠ [] := by
  unfold lowerPiece lowerChar
  split
  · simp
  · split <;> simp

theorem lowerChars_eq_nil_iff {cs : List Char} : lowerChars cs = [] ↔ cs = [] := by
  cases cs with
  | nil => simp [lowerChars, lowerAfter]
  | cons c rest => simp [lowerChars, lowerAfter_cons, lowerPiece_ne_nil]

/-! ### Blanks at the ends -/

/-- A text whose first and last characters, if there are any, are no blanks. -/
structure IsTrimmed (cs : List Char) : Prop where
  head : ∀ c ∈ cs.head?, isBlank c = false
  last : ∀ c ∈ cs.getLast?, isBlank c = false

theorem IsTrimmed.trimStart_eq {cs : List Char} (h : IsTrimmed cs) : trimStart cs = cs := by
  cases cs with
  | nil => rfl
  | cons c rest =>
    have hc := h.head c (by simp)
    simp [trimStart, hc]

theorem IsTrimmed.trimEnd_eq {cs : List Char} (h : IsTrimmed cs) : trimEnd cs = cs := by
  refine List.rdropWhile_eq_self_iff.2 fun hl => ?_
  simpa using h.last _ (List.getLast?_eq_getLast_of_ne_nil hl)

theorem isTrimmed_trim (cs : List Char) : IsTrimmed (trimEnd (trimStart cs)) := by
  constructor
  · intro c hc
    obtain ⟨t, ht⟩ := List.rdropWhile_prefix isBlank (trimStart cs)
    have hne : List.rdropWhile isBlank (trimStart cs) ≠ [] := by
      intro e
      rw [show trimEnd (trimStart cs) = [] from e] at hc
      cases hc
    have hhead : (trimStart cs).head? = some c := by
      rw [← ht, List.head?_append_of_ne_nil _ hne]
      exact hc
    have hnot := List.head?_dropWhile_not isBlank cs
    rw [show cs.dropWhile isBlank = trimStart cs from rfl, hhead] at hnot
    simpa using hnot
  · intro c hc
    have hne : List.rdropWhile isBlank (trimStart cs) ≠ [] := by
      intro e
      rw [show trimEnd (trimStart cs) = [] from e] at hc
      cases hc
    have hlast : (List.rdropWhile isBlank (trimStart cs)).getLast hne = c :=
      Option.some.inj ((List.getLast?_eq_getLast_of_ne_nil hne).symm.trans hc)
    have hnot := List.rdropWhile_last_not isBlank (trimStart cs) hne
    rw [hlast] at hnot
    simpa using hnot

theorem trim_isEmpty (s : String) : (trim s).isEmpty = isBlankText s := by
  rw [Bool.eq_iff_iff, String.isEmpty_iff, trim, String.ofList_eq_empty_iff, isBlankText,
    ← trimStart_eq_nil_iff]
  constructor
  · intro h
    have hall := List.rdropWhile_eq_nil_iff.1 h
    have hblank : (trimStart s.toList).all isBlank = true := List.all_eq_true.2 hall
    have hstart := List.dropWhile_idempotent isBlank s.toList
    rw [← trimStart_eq_nil_iff] at hblank
    exact hstart.symm.trans hblank
  · intro h
    rw [h]
    rfl

theorem isTrimmed_lowerChars {cs : List Char} (h : IsTrimmed cs) : IsTrimmed (lowerChars cs) := by
  constructor
  · intro d hd
    cases cs with
    | nil => cases hd
    | cons c rest =>
      rw [lowerChars, lowerAfter_cons,
        List.head?_append_of_ne_nil _ (lowerPiece_ne_nil _ _)] at hd
      exact not_blank_of_mem_lowerPiece (h.head c rfl) (List.mem_of_mem_head? hd)
  · -- The last piece is that of the last character, whatever stands before.
    have key : ∀ before, ∀ d ∈ (lowerAfter before cs).getLast?, isBlank d = false := by
      have hlast := h.last
      clear h
      induction cs with
      | nil =>
        intro before d hd
        cases hd
      | cons c rest ih =>
        intro before d hd
        rw [lowerAfter_cons] at hd
        cases rest with
        | nil =>
          simp only [lowerAfter, List.append_nil] at hd
          exact not_blank_of_mem_lowerPiece (hlast c rfl) (List.mem_of_mem_getLast? hd)
        | cons next rest =>
          have hne : lowerAfter (c :: before) (next :: rest) ≠ [] := by
            rw [lowerAfter_cons]
            simp [lowerPiece_ne_nil]
          rw [List.getLast?_append_of_ne_nil _ hne] at hd
          exact ih (fun e he => hlast e (by simpa using he)) _ d hd
    exact key []

end CommitSearch.Text

namespace CommitSearch

open CommitSearch.Text

theorem normalize_normalize (s : String) : normalize (normalize s) = normalize s := by
  have ht := isTrimmed_lowerChars (isTrimmed_trim s.toList)
  simp only [normalize, lower, trim, String.toList_ofList, ht.trimStart_eq, ht.trimEnd_eq,
    lowerChars_lowerChars]

end CommitSearch
