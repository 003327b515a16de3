/-!
# Lists of texts

A text is cut at every separator into fields, one more than it has separators; fields may be empty.
Sets of texts are kept as lists in ascending order by code point, without repetition.

Main statements: cutting at a separator splits the fields into those before and those after it, and
`distinct` keeps exactly the members it was given.
-/

namespace CommitSearch.Text

/-! ### Splitting at separators -/

def fields (isSeparator : Char → Bool) : List Char → List (List Char)
  | [] => [[]]
  | c :: rest =>
    if isSeparator c then [] :: fields isSeparator rest
    else match fields isSeparator rest with
      | [] => [[c]]
      | field :: more => (c :: field) :: more

/-- The fields of a text that is cut at one character. -/
def fieldsAt (separator : Char) (s : String) : List String :=
  (fields (· == separator) s.toList).map String.ofList

theorem fields_ne_nil (p : Char → Bool) (cs : List Char) : fields p cs ≠ [] := by
  cases cs with
  | nil => simp [fields]
  | cons c rest =>
    simp only [fields]
    split
    · simp
    · split <;> simp

theorem fields_of_none {p : Char → Bool} {cs : List Char} (h : ∀ c ∈ cs, p c = false) :
    fields p cs = [cs] := by
  induction cs with
  | nil => rfl
  | cons c rest ih =>
    have hrest := ih fun d hd => h d (List.mem_cons_of_mem _ hd)
    simp [fields, h c List.mem_cons_self, hrest]

theorem fields_append_separator (p : Char → Bool) (a b : List Char) (s : Char) (hs : p s = true) :
    fields p (a ++ s :: b) = fields p a ++ fields p b := by
  induction a with
  | nil => simp [fields, hs]
  | cons c rest ih =>
    by_cases hc : p c = true
    · simp [fields, hc, ih]
    · obtain ⟨f, fs, h⟩ := List.exists_cons_of_ne_nil (fields_ne_nil p rest)
      simp [fields, hc, ih, h]

/-! ### Ordered lists of distinct texts -/

/-- Adds a text at its place in an ascending list, unless it is there already. -/
def insertDistinct (s : String) : List String → List String
  | [] => [s]
  | t :: rest =>
    if s < t then s :: t :: rest
    else if s = t then t :: rest
    else t :: insertDistinct s rest

def distinct (texts : List String) : List String := texts.foldr insertDistinct []

theorem mem_insertDistinct (x s : String) (l : List String) :
    x ∈ insertDistinct s l ↔ x = s ∨ x ∈ l := by
  induction l with
  | nil => simp [insertDistinct]
  | cons t rest ih =>
    simp only [insertDistinct]
    split
    · simp
    · split
      · next h => subst h; simp
      · simp only [List.mem_cons, ih]
        constructor <;> rintro (h | h | h) <;> simp [h]

theorem mem_distinct (x : String) (l : List String) : x ∈ distinct l ↔ x ∈ l := by
  induction l with
  | nil => simp [distinct]
  | cons t rest ih =>
    have : distinct (t :: rest) = insertDistinct t (distinct rest) := rfl
    rw [this, mem_insertDistinct, ih, List.mem_cons]

end CommitSearch.Text
