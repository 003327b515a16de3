import CommitSearch.Text.Alphanumeric
import CommitSearch.Text.CanonicalForms
import CommitSearch.Text.CaseContext
import CommitSearch.Text.CaseRuns
import CommitSearch.Text.CombiningClass
import CommitSearch.Text.Lists
import CommitSearch.Text.Mark

/-!
# Folds and words

Two spellings that differ in accents or case only are compared through their folds: the canonical
decomposition without its marks, in lower case. The words of a text are its maximal runs of
alphanumeric characters, and documents are indexed under the folds of their words.

A text is brought into its canonical decomposition by taking every character apart (`decomposeChar`)
and then listing the marks of every letter by ascending combining class (`orderMarks`), marks of one
class in the order in which they were written. Two texts are canonically equivalent when this gives
the same characters. The full mapping to lower case goes letter by letter with two exceptions: a
capital sigma at the end of a word becomes the final sigma, and the dotted capital I becomes a small i
followed by a combining dot.
-/

namespace CommitSearch.Text

/-! ### Canonical decomposition -/

def formAt : List (Nat × List Nat) → Nat → Option (List Nat)
  | [], _ => none
  | (code, form) :: rest, n =>
    if n < code then none else if n = code then some form else formAt rest n

/-- The letters of a Hangul syllable: leading consonant, vowel, and a trailing consonant if the
syllable has one. The syllables are laid out in the order of these three. -/
def hangulLetters (n : Nat) : List Nat :=
  let i := n - 0xac00
  let initial := 0x1100 + i / 588
  let vowel := 0x1161 + i % 588 / 28
  if i % 28 = 0 then [initial, vowel] else [initial, vowel, 0x11a7 + i % 28]

def decomposeChar (c : Char) : List Char :=
  if 0xac00 ≤ c.toNat ∧ c.toNat ≤ 0xd7a3 then (hangulLetters c.toNat).map Char.ofNat
  else match formAt canonicalForms c.toNat with
    | some form => form.map Char.ofNat
    | none => [c]

/-- Puts a character in front of ordered ones: a mark moves behind marks of a lower class, up to the
next character of class zero. -/
def placeMark (c : Char) : List Char → List Char
  | [] => [c]
  | d :: rest =>
    if 0 < combiningClass d ∧ combiningClass d < combiningClass c then d :: placeMark c rest
    else c :: d :: rest

def orderMarks : List Char → List Char
  | [] => []
  | c :: rest => placeMark c (orderMarks rest)

def decompose (cs : List Char) : List Char := orderMarks (cs.flatMap decomposeChar)

/-! ### Lower case -/

/-- The lower-case letter of a character, itself when it has none. -/
def lowerLetter (c : Char) : Char :=
  match caseRuns.find? (·.covers c.toNat) with
  | some run => Char.ofNat ((c.toNat : Int) + run.shift).toNat
  | none => c

/-- The lower-case form of a character that does not depend on its neighbours. -/
def lowerChar (c : Char) : List Char :=
  if c = '\u0130' then ['i', '\u0307'] else [lowerLetter c]

/-- Whether the first character that is not case-ignorable is a cased letter. -/
def meetsCased (cs : List Char) : Bool :=
  match cs.dropWhile isCaseIgnorable with
  | [] => false
  | c :: _ => isCased c

/-- Lower case of the second list, where the first holds what stands before it, nearest first. -/
def lowerAfter : List Char → List Char → List Char
  | _, [] => []
  | before, c :: rest =>
    (if c = '\u03a3' then
      [if meetsCased before && !meetsCased rest then '\u03c2' else '\u03c3']
    else lowerChar c) ++ lowerAfter (c :: before) rest

def lowerChars (cs : List Char) : List Char := lowerAfter [] cs

def lower (s : String) : String := String.ofList (lowerChars s.toList)

/-! ### Accent folding -/

def foldChars (cs : List Char) : List Char :=
  lowerChars ((decompose cs).filter fun c => !isMark c)

def fold (s : String) : String := String.ofList (foldChars s.toList)

/-! ### Words -/

def wordsOf (cs : List Char) : List (List Char) :=
  (fields (fun c => !isAlphanumeric c) cs).filter fun w => !w.isEmpty

/-- The folded words of a text, in order. A word of marks alone folds to the empty word, which
stays. -/
def tokenize (s : String) : List String :=
  (wordsOf s.toList).map fun w => String.ofList (foldChars w)

end CommitSearch.Text
