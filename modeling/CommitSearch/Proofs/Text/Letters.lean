import CommitSearch.Proofs.Text.NormalForm
import CommitSearch.Text.Alphanumeric
import CommitSearch.Text.Fold
import CommitSearch.Text.Mark
import Mathlib.Data.Nat.Bitwise

/-!
# Letters that are taken apart and lowered

What a word is made of stays of that kind: the canonical decomposition of an alphanumeric character
has alphanumeric characters and marks only, the lower case of one begins with one, and none is a
blank. A character that is neither alphanumeric nor a mark is taken apart into another and marks. The
tables are compared as sets of bits, one number for each.
-/

namespace CommitSearch.Text

/-! ### Sets of code points as numbers -/

namespace CodeRanges

/-- The number with the bits from `first` to `last`. -/
def mask (first last : Nat) : Nat := (2 ^ (last + 1 - first) - 1) <<< first

/-- The number whose bit at a code point says whether the point is in the set. -/
def bits (r : CodeRanges) : Nat := r.foldr (fun p rest => mask p.1 p.2 ||| rest) 0

def isAscendingFrom : Nat → CodeRanges → Bool
  | _, [] => true
  | least, (first, last) :: rest =>
    Nat.ble least first && Nat.ble first last && isAscendingFrom (last + 1) rest

theorem testBit_mask (first last n : Nat) :
    (mask first last).testBit n = decide (first ≤ n ∧ n ≤ last) := by
  rw [mask, Nat.testBit_shiftLeft, Nat.testBit_two_pow_sub_one, Bool.eq_iff_iff]
  simp only [Bool.and_eq_true, decide_eq_true_eq]
  omega

theorem bits_cons (p : Nat × Nat) (rest : CodeRanges) :
    bits (p :: rest) = mask p.1 p.2 ||| bits rest := rfl

theorem le_of_ascending {r : CodeRanges} {least : Nat} (h : isAscendingFrom least r = true) :
    ∀ p ∈ r, least ≤ p.1 := by
  induction r generalizing least with
  | nil => nofun
  | cons q rest ih =>
    obtain ⟨first, last⟩ := q
    simp only [isAscendingFrom, Bool.and_eq_true, Nat.ble_eq] at h
    obtain ⟨⟨hleast, hle⟩, hrest⟩ := h
    intro p hp
    rcases List.mem_cons.1 hp with rfl | hp
    · exact hleast
    · have := ih hrest p hp
      omega

theorem covers_eq_testBit {r : CodeRanges} {least : Nat} (h : isAscendingFrom least r = true)
    (n : Nat) : r.covers n = r.bits.testBit n := by
  induction r generalizing least with
  | nil => simp [covers, bits]
  | cons q rest ih =>
    obtain ⟨first, last⟩ := q
    simp only [isAscendingFrom, Bool.and_eq_true, Nat.ble_eq] at h
    obtain ⟨⟨-, hle⟩, hrest⟩ := h
    rw [bits_cons, Nat.testBit_or, testBit_mask, ← ih hrest, covers]
    by_cases hlow : n < first
    · have hout : covers rest n = false := by
        rw [Bool.eq_false_iff]
        intro hc
        obtain ⟨p, hp, hlo, -⟩ := exists_of_covers hc
        have := le_of_ascending hrest p hp
        omega
      simp [hlow, hout]
    · by_cases hhigh : n ≤ last
      · simp [hlow, hhigh, Nat.le_of_not_lt hlow]
      · simp [hlow, hhigh]

/-- A run of code points that lies in a set. -/
theorem covers_of_mask {r : CodeRanges} {least first last n : Nat}
    (h : isAscendingFrom least r = true) (hm : r.bits &&& mask first last = mask first last)
    (hlow : first ≤ n) (hhigh : n ≤ last) : r.covers n = true := by
  have hbit : (r.bits &&& mask first last).testBit n = true := by
    rw [hm, testBit_mask]
    simp [hlow, hhigh]
  rw [Nat.testBit_and, Bool.and_eq_true] at hbit
  rw [covers_eq_testBit h]
  exact hbit.1

end CodeRanges

theorem tables_ascending :
    [alphanumericRanges, markRanges, blankRanges].all (CodeRanges.isAscendingFrom 0) = true := by
  decide +kernel

theorem alphanumericRanges_ascending : alphanumericRanges.isAscendingFrom 0 = true :=
  List.all_eq_true.1 tables_ascending _ (by simp)

theorem markRanges_ascending : markRanges.isAscendingFrom 0 = true :=
  List.all_eq_true.1 tables_ascending _ (by simp)

theorem blankRanges_ascending : blankRanges.isAscendingFrom 0 = true :=
  List.all_eq_true.1 tables_ascending _ (by simp)

theorem isAlphanumeric_iff (c : Char) :
    isAlphanumeric c = true ↔ alphanumericRanges.bits.testBit c.toNat = true := by
  rw [isAlphanumeric, CodeRanges.covers_eq_testBit alphanumericRanges_ascending]

/-! ### Blanks -/

theorem blank_bits_apart : blankRanges.bits &&& alphanumericRanges.bits = 0 := by decide +kernel

theorem not_blank_of_alphanumeric {c : Char} (h : isAlphanumeric c = true) :
    isBlank c = false := by
  rw [Bool.eq_false_iff]
  intro hb
  rw [isBlank, CodeRanges.covers_eq_testBit blankRanges_ascending] at hb
  have hboth : (blankRanges.bits &&& alphanumericRanges.bits).testBit c.toNat = true := by
    rw [Nat.testBit_and, hb, (isAlphanumeric_iff c).1 h]
    rfl
  rw [blank_bits_apart, Nat.zero_testBit] at hboth
  cases hboth

/-! ### Lower case -/

/-- The letters to which the capitals of a run are mapped are alphanumeric. -/
def CaseRun.staysAlphanumeric (r : CaseRun) : Bool :=
  let image := CodeRanges.mask (r.first + r.shift).toNat (r.last + r.shift).toNat
  Nat.beq (alphanumericRanges.bits &&& image) image

theorem caseRuns_stay_alphanumeric : caseRuns.all CaseRun.staysAlphanumeric = true := by
  decide +kernel

theorem alphanumeric_lowerLetter {c : Char} (h : isAlphanumeric c = true) :
    isAlphanumeric (lowerLetter c) = true := by
  unfold lowerLetter
  split
  · next r hr =>
    have hcovers : r.covers c.toNat = true := by simpa using List.find?_some hr
    have hmem := List.mem_of_find?_eq_some hr
    have hstays : r.staysAlphanumeric = true := List.all_eq_true.1 caseRuns_stay_alphanumeric r hmem
    simp only [CaseRun.staysAlphanumeric, Nat.beq_eq] at hstays
    rw [isAlphanumeric, toNat_ofNat (CaseRun.shifted hmem hcovers).2]
    simp only [CaseRun.covers, Bool.and_eq_true, decide_eq_true_eq] at hcovers
    exact CodeRanges.covers_of_mask alphanumericRanges_ascending hstays (by omega) (by omega)
  · exact h

theorem exists_alphanumeric_lowerPiece (final : Bool) {c : Char} (h : isAlphanumeric c = true) :
    ∃ d ∈ lowerPiece final c, isAlphanumeric d = true := by
  unfold lowerPiece lowerChar
  split
  · cases final
    · exact ⟨'\u03c3', by simp, by decide⟩
    · exact ⟨'\u03c2', by simp, by decide⟩
  · split
    · exact ⟨'i', by simp, by decide⟩
    · exact ⟨lowerLetter c, by simp, alphanumeric_lowerLetter h⟩

/-! ### Decomposition -/

/-- Whether a character is neither alphanumeric nor a mark. -/
def isBoundary (c : Char) : Bool := !isAlphanumeric c && !isMark c

theorem alphanumeric_not_boundary {c : Char} (h : isAlphanumeric c = true) :
    isBoundary c = false := by
  simp [isBoundary, h]

theorem not_alphanumeric_of_boundary {c : Char} (h : isBoundary c = true) :
    isAlphanumeric c = false := by
  simp only [isBoundary, Bool.and_eq_true, Bool.not_eq_true'] at h
  exact h.1

/-- A code point of a character that is neither alphanumeric nor a mark. -/
def isBoundaryCode (m : Nat) : Bool :=
  !alphanumericRanges.bits.testBit m && !markRanges.bits.testBit m

theorem isBoundaryCode_eq (c : Char) : isBoundaryCode c.toNat = isBoundary c := by
  rw [isBoundaryCode, isBoundary, isAlphanumeric, isMark,
    CodeRanges.covers_eq_testBit alphanumericRanges_ascending,
    CodeRanges.covers_eq_testBit markRanges_ascending]

/-- Whether a form is alphanumeric in part just if the character is, and begins with the one boundary
that it has just if the character is a boundary. -/
def formKeepsKind (entry : Nat × List Nat) : Bool :=
  entry.2.all (fun m => decide m.isValidChar) &&
    entry.2.any alphanumericRanges.bits.testBit == alphanumericRanges.bits.testBit entry.1 &&
    entry.2.map isBoundaryCode ==
      isBoundaryCode entry.1 :: List.replicate (entry.2.length - 1) false

theorem canonicalForms_keep_kind : canonicalForms.all formKeepsKind = true := by decide +kernel

theorem mem_of_formAt {table : List (Nat × List Nat)} {n : Nat} {form : List Nat}
    (h : formAt table n = some form) : (n, form) ∈ table := by
  induction table with
  | nil => cases h
  | cons entry rest ih =>
    obtain ⟨code, first⟩ := entry
    rw [formAt] at h
    split at h
    · cases h
    · split at h
      · next he =>
        cases h
        rw [he]
        exact List.mem_cons_self
      · exact List.mem_cons_of_mem _ (ih h)

/-- The letters of Hangul lie in one run, its syllables in another. -/
theorem hangul_runs : [(0x1100, 0x11c2), (0xac00, 0xd7a3)].all (fun r =>
    Nat.beq (alphanumericRanges.bits &&& CodeRanges.mask r.1 r.2) (CodeRanges.mask r.1 r.2)) =
      true := by
  decide +kernel

theorem alphanumeric_of_run {first last : Nat} {c : Char}
    (run : (first, last) ∈ [(0x1100, 0x11c2), (0xac00, 0xd7a3)]) (hlow : first ≤ c.toNat)
    (hhigh : c.toNat ≤ last) : isAlphanumeric c = true := by
  have hmask := List.all_eq_true.1 hangul_runs _ run
  rw [Nat.beq_eq] at hmask
  exact CodeRanges.covers_of_mask alphanumericRanges_ascending hmask hlow hhigh

theorem hangul_letter_alphanumeric {m : Nat} (hlow : 0x1100 ≤ m) (hhigh : m ≤ 0x11c2) :
    isAlphanumeric (Char.ofNat m) = true := by
  have hcode : (Char.ofNat m).toNat = m := toNat_ofNat (by unfold Nat.isValidChar; omega)
  exact alphanumeric_of_run List.mem_cons_self (hcode.symm ▸ hlow) (hcode.symm ▸ hhigh)

theorem mem_hangulLetters {n m : Nat} (h : n ≤ 0xd7a3) (hm : m ∈ hangulLetters n) :
    0x1100 ≤ m ∧ m ≤ 0x11c2 := by
  simp only [hangulLetters] at hm
  split at hm <;> simp only [List.mem_cons, List.not_mem_nil, or_false] at hm <;> omega

theorem boundary_ofNat {m : Nat} (h : m.isValidChar) :
    isBoundary (Char.ofNat m) = isBoundaryCode m := by
  rw [← isBoundaryCode_eq, toNat_ofNat h]

theorem alphanumeric_ofNat {m : Nat} (h : m.isValidChar) :
    isAlphanumeric (Char.ofNat m) = alphanumericRanges.bits.testBit m := by
  rw [isAlphanumeric, CodeRanges.covers_eq_testBit alphanumericRanges_ascending, toNat_ofNat h]

/-- What a character may be taken apart into: one of its own kind and others that are no boundaries,
alphanumeric in part if the character is. -/
def KeepsKind (c : Char) (parts : List Char) : Prop :=
  ∃ b ms, parts = b :: ms ∧ isBoundary b = isBoundary c ∧ (∀ m ∈ ms, isBoundary m = false) ∧
    parts.any isAlphanumeric = isAlphanumeric c

theorem keepsKind_hangul {c : Char} (hlow : 0xac00 ≤ c.toNat) (hhigh : c.toNat ≤ 0xd7a3) :
    KeepsKind c ((hangulLetters c.toNat).map Char.ofNat) := by
  have hc : isAlphanumeric c = true :=
    alphanumeric_of_run (List.mem_cons_of_mem _ List.mem_cons_self) hlow hhigh
  have hletter : ∀ d ∈ (hangulLetters c.toNat).map Char.ofNat, isAlphanumeric d = true := by
    intro d hd
    obtain ⟨m, hm, rfl⟩ := List.mem_map.1 hd
    obtain ⟨hlow, hhigh⟩ := mem_hangulLetters hhigh hm
    exact hangul_letter_alphanumeric hlow hhigh
  obtain ⟨b, ms, hparts⟩ : ∃ b ms, (hangulLetters c.toNat).map Char.ofNat = b :: ms := by
    simp only [hangulLetters]
    split <;> exact ⟨_, _, rfl⟩
  rw [hparts] at hletter ⊢
  have hb := hletter b List.mem_cons_self
  refine ⟨b, ms, rfl, ?_, fun m hm => ?_, ?_⟩
  · rw [alphanumeric_not_boundary hb, alphanumeric_not_boundary hc]
  · exact alphanumeric_not_boundary (hletter m (List.mem_cons_of_mem _ hm))
  · rw [List.any_cons, hb, hc, Bool.true_or]

theorem keepsKind_form {c : Char} {form : List Nat} (h : formKeepsKind (c.toNat, form) = true) :
    KeepsKind c (form.map Char.ofNat) := by
  simp only [formKeepsKind, Bool.and_eq_true, List.all_eq_true, decide_eq_true_eq,
    beq_iff_eq] at h
  obtain ⟨⟨hvalid, hany⟩, hkinds⟩ := h
  cases form with
  | nil => cases hkinds
  | cons m ms =>
    obtain ⟨hfirst, hrest⟩ := List.cons.inj hkinds
    refine ⟨Char.ofNat m, ms.map Char.ofNat, rfl, ?_, fun d hd => ?_, ?_⟩
    · rw [boundary_ofNat (hvalid m List.mem_cons_self), hfirst, isBoundaryCode_eq]
    · obtain ⟨n, hn, rfl⟩ := List.mem_map.1 hd
      rw [boundary_ofNat (hvalid n (List.mem_cons_of_mem _ hn))]
      exact (List.eq_replicate_iff.1 hrest).2 _ (List.mem_map_of_mem hn)
    · have hsame : ((m :: ms).map Char.ofNat).any isAlphanumeric =
          (m :: ms).any alphanumericRanges.bits.testBit := by
        rw [List.any_map, Bool.eq_iff_iff, List.any_eq_true, List.any_eq_true]
        refine exists_congr fun n => and_congr_right fun hn => ?_
        rw [Function.comp, alphanumeric_ofNat (hvalid n hn)]
      rw [isAlphanumeric, CodeRanges.covers_eq_testBit alphanumericRanges_ascending]
      exact hsame.trans hany

theorem keepsKind_decomposeChar (c : Char) : KeepsKind c (decomposeChar c) := by
  unfold decomposeChar
  split
  · next hangul => exact keepsKind_hangul hangul.1 hangul.2
  · split
    · next form hform =>
      exact keepsKind_form (List.all_eq_true.1 canonicalForms_keep_kind _ (mem_of_formAt hform))
    · exact ⟨c, [], rfl, rfl, nofun, by simp⟩

theorem not_boundary_of_part {c : Char} (hc : isBoundary c = false) :
    ∀ d ∈ decomposeChar c, isBoundary d = false := by
  obtain ⟨b, ms, hparts, hb, hms, -⟩ := keepsKind_decomposeChar c
  rw [hparts]
  intro d hd
  rcases List.mem_cons.1 hd with rfl | hd
  · rw [hb, hc]
  · exact hms d hd

theorem any_decomposeChar (c : Char) :
    (decomposeChar c).any isAlphanumeric = isAlphanumeric c := by
  obtain ⟨-, -, -, -, -, hany⟩ := keepsKind_decomposeChar c
  exact hany

theorem letter_of_mem_decomposeChar {c d : Char} (h : isAlphanumeric c = true)
    (hd : d ∈ decomposeChar c) : isMark d = true ∨ isAlphanumeric d = true := by
  have hnone := not_boundary_of_part (alphanumeric_not_boundary h) d hd
  simp only [isBoundary, Bool.and_eq_false_iff, Bool.not_eq_false'] at hnone
  exact hnone.symm

theorem mem_placeMark {c d : Char} {cs : List Char} : d ∈ placeMark c cs ↔ d ∈ c :: cs := by
  induction cs with
  | nil => rfl
  | cons e rest ih =>
    rw [placeMark]
    split
    · rw [List.mem_cons, ih]
      simp only [List.mem_cons]
      exact or_left_comm
    · rfl

theorem mem_orderMarks {d : Char} {cs : List Char} : d ∈ orderMarks cs ↔ d ∈ cs := by
  induction cs with
  | nil => rfl
  | cons c rest ih => rw [orderMarks, mem_placeMark, List.mem_cons, ih, List.mem_cons]

theorem letter_of_mem_decompose {cs : List Char} (h : ∀ c ∈ cs, isAlphanumeric c = true) {d : Char}
    (hd : d ∈ decompose cs) : isMark d = true ∨ isAlphanumeric d = true := by
  rw [decompose, mem_orderMarks] at hd
  obtain ⟨c, hc, hd⟩ := List.mem_flatMap.1 hd
  exact letter_of_mem_decomposeChar (h c hc) hd

end CommitSearch.Text
