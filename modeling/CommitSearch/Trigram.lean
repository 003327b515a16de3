import CommitSearch.Number.Binary
import CommitSearch.Text.Fold
import CommitSearch.Text.Lists

/-!
# Trigram similarity

A word is compared through its trigrams: the windows of three characters over its lower-case form
with two blanks in front and one behind, so that beginnings weigh more than ends. The similarity of
two texts is the share of common trigrams among all trigrams of both, in single precision.
-/

namespace CommitSearch

open CommitSearch.Number CommitSearch.Text

def windows : List Char → List (List Char)
  | a :: b :: c :: rest => [a, b, c] :: windows (b :: c :: rest)
  | _ => []

def wordTrigrams (word : List Char) : List String :=
  (windows (' ' :: ' ' :: (lowerChars word ++ [' ']))).map String.ofList

/-- The trigrams of all words of a text, in ascending order and without repetition. -/
def trigrams (s : String) : List String := distinct ((wordsOf s.toList).flatMap wordTrigrams)

def commonCount (a b : List String) : Nat := (a.filter b.contains).length

/-- The share of common members in the union of two lists without repetition, zero when both are
empty. Both counts and their quotient are rounded to single precision. -/
def overlap (a b : List String) : BinaryValue :=
  let common := commonCount a b
  let union := a.length + b.length - common
  if union = 0 then binary32.ofNat 0
  else binary32.div (binary32.ofNat common) (binary32.ofNat union)

def similarity (a b : String) : BinaryValue := overlap (trigrams a) (trigrams b)

/-- Words match when their similarity exceeds the single-precision number nearest to two fifths. -/
def similarityThreshold : BinaryValue := binary32.round 2 5

def isMatch (x : BinaryValue) : Bool := similarityThreshold.lt x

end CommitSearch
