/-!
# Sets of code points, blanks

A set of code points is written as its maximal runs, in ascending order and apart from each other,
so that looking a code point up can stop at the first run that begins after it.

The first such set is white space as the Unicode property of that name has it: the blank, the control
characters from tab to carriage return, the next-line control, the no-break blank and the typographic
blanks. Zero-width characters and the byte order mark are no blanks. `trim` removes blanks at both
ends of a text and nothing else.
-/

namespace CommitSearch.Text

/-! ### Runs of code points -/

/-- Runs of code points, each with its first and its last, in ascending order. -/
abbrev CodeRanges := List (Nat × Nat)

def CodeRanges.covers : CodeRanges → Nat → Bool
  | [], _ => false
  | (first, last) :: rest, n =>
    if n < first then false else if n ≤ last then true else CodeRanges.covers rest n

theorem CodeRanges.exists_of_covers {r : CodeRanges} {n : Nat} (h : r.covers n = true) :
    ∃ p ∈ r, p.1 ≤ n ∧ n ≤ p.2 := by
  induction r with
  | nil => simp [covers] at h
  | cons p rest ih =>
    obtain ⟨first, last⟩ := p
    simp only [covers] at h
    split at h
    · cases h
    · next hlo =>
      split at h
      · next hhi => exact ⟨(first, last), by simp, by simp; omega, hhi⟩
      · obtain ⟨p, hp, hb⟩ := ih h
        exact ⟨p, by simp [hp], hb⟩

/-! ### Blanks -/

def blankRanges : CodeRanges :=
  [(0x9, 0xd), (0x20, 0x20), (0x85, 0x85), (0xa0, 0xa0), (0x1680, 0x1680), (0x2000, 0x200a),
    (0x2028, 0x2029), (0x202f, 0x202f), (0x205f, 0x205f), (0x3000, 0x3000)]

def isBlank (c : Char) : Bool := blankRanges.covers c.toNat

/-- The characters from the first that is not a blank onward. -/
def trimStart (cs : List Char) : List Char := cs.dropWhile isBlank

/-- The characters up to the last that is not a blank. -/
def trimEnd (cs : List Char) : List Char := (cs.reverse.dropWhile isBlank).reverse

def trim (s : String) : String := String.ofList (trimEnd (trimStart s.toList))

def isBlankText (s : String) : Bool := s.toList.all isBlank

theorem trimStart_eq_nil_iff (cs : List Char) : trimStart cs = [] ↔ cs.all isBlank = true := by
  induction cs with
  | nil => simp [trimStart]
  | cons c rest ih =>
    by_cases hc : isBlank c = true
    · have h : trimStart (c :: rest) = trimStart rest := by simp [trimStart, List.dropWhile, hc]
      rw [h, List.all_cons, hc, Bool.true_and]
      exact ih
    · simp [trimStart, List.dropWhile, hc]

end CommitSearch.Text
