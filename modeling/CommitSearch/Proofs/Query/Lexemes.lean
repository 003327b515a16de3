import CommitSearch.Query.Statement

/-!
# Lexemes of a text search

The words of a query go to the database as one text, which the database reads as an expression of
lexemes and operators. A lexeme stands between quotation marks; in it a doubled mark stands for one
and a backslash takes the next character as it is. Main statement: whatever characters the words
have, the database reads just them, in their order and with nothing but bars between them.
-/

namespace CommitSearch.Statement

/-- A part of an expression: a lexeme, or a character that stands outside of quotation marks, which
is an operator or belongs to one. -/
inductive Part
  | lexeme (word : String)
  | symbol (c : Char)
deriving DecidableEq, Repr

/-- The parts of an expression, read to its end. Inside of a lexeme the first argument holds the
characters that are read of it; outside, blanks count for nothing. A lexeme that is not closed is no
expression. -/
def readParts : Option (List Char) → List Char → Option (List Part)
  | none, [] => some []
  | none, '\'' :: rest => readParts (some []) rest
  | none, ' ' :: rest => readParts none rest
  | none, c :: rest => (readParts none rest).map (.symbol c :: ·)
  | some _, [] => none
  | some _, ['\\'] => none
  | some word, '\\' :: c :: rest => readParts (some (word ++ [c])) rest
  | some word, '\'' :: '\'' :: rest => readParts (some (word ++ ['\''])) rest
  | some word, '\'' :: rest => (readParts none rest).map (.lexeme (String.ofList word) :: ·)
  | some word, c :: rest => readParts (some (word ++ [c])) rest

theorem readParts_quoteChar (word : List Char) (c : Char) (rest : List Char) :
    readParts (some word) (quoteChar c ++ rest) = readParts (some (word ++ [c])) rest := by
  unfold quoteChar
  split
  · next hc => simp [readParts, hc]
  · next hc =>
    split
    · next hc => simp [readParts, hc]
    · next hc' => simp [readParts, hc, hc']

theorem readParts_quoted (word cs rest : List Char) :
    readParts (some word) (cs.flatMap quoteChar ++ rest) = readParts (some (word ++ cs)) rest := by
  induction cs generalizing word with
  | nil => simp
  | cons c cs ih =>
    rw [List.flatMap_cons, List.append_assoc, readParts_quoteChar, ih, List.append_assoc]
    rfl

/-- A quoted word is read as one lexeme, unless another quotation mark follows at once. -/
theorem readParts_quoteWord (w : String) {rest : List Char} (h : rest.head? ≠ some '\'') :
    readParts none (quoteWord w ++ rest) = (readParts none rest).map (.lexeme w :: ·) := by
  rw [quoteWord, List.cons_append, readParts, List.append_assoc, readParts_quoted]
  cases rest with
  | nil => simp [readParts]
  | cons c rest =>
    have hc : c ≠ '\'' := fun he => h (he ▸ rfl)
    simp [readParts, hc]

/-- The text of a disjunction is read as the words themselves, with a bar between any two. -/
theorem disjunction_reads_words (words : List String) :
    readParts none (disjunction words).toList =
      some ((words.map Part.lexeme).intersperse (.symbol '|')) := by
  induction words with
  | nil => rfl
  | cons w words ih =>
    cases words with
    | nil =>
      have hsingle : (disjunction [w]).toList = quoteWord w ++ [] := by simp [disjunction]
      rw [hsingle, readParts_quoteWord w (by simp)]
      rfl
    | cons v words =>
      rw [disjunction_cons_cons, readParts_quoteWord w (by simp)]
      simp [readParts, ih]

example : readParts none "'a' & !'b\\''".toList =
    some [.lexeme "a", .symbol '&', .symbol '!', .lexeme "b'"] := by decide

end CommitSearch.Statement
