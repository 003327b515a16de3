import CommitSearch.Query

/-!
# Queries as statements of a database

A query is written as a statement whose text depends on the kinds of its predicates only. Everything
that a user gave goes into parameters, one for each predicate and one for the limit, numbered from
one in the order of the text.
-/

namespace CommitSearch

open CommitSearch.Calendar

/-- A value that goes with a statement. -/
inductive Parameter
  | text (value : String)
  | texts (values : List String)
  | timestamp (value : Instant)
  | integer (value : Int)
deriving DecidableEq, Repr

structure Statement where
  text : String
  parameters : List Parameter
deriving DecidableEq, Repr

namespace Statement

def head : String := String.intercalate "\n"
  ["SELECT", "  hash,", "  type,", "  component,", "  revert,", "  breaking,", "  content,",
    "  date,", "  remote,", "  repository,", "  count(1) OVER() AS full_count", "FROM", "  changelog.commit",
    "WHERE", "  TRUE"]

/-- A character of a quoted word: backslashes and quotation marks are doubled. -/
def quoteChar (c : Char) : List Char :=
  if c = '\\' then ['\\', '\\'] else if c = '\'' then ['\'', '\''] else [c]

def quoteWord (word : String) : List Char := '\'' :: (word.toList.flatMap quoteChar ++ ['\''])

def disjunction (words : List String) : String :=
  String.intercalate " | " (words.map fun w => String.ofList (quoteWord w))

theorem disjunction_cons_cons (w v : String) (words : List String) :
    (disjunction (w :: v :: words)).toList =
      quoteWord w ++ ' ' :: '|' :: ' ' :: (disjunction (v :: words)).toList := by
  simp [disjunction]

def fragment : Predicate → String
  | .matchesAny _ => "search_vector @@ to_tsquery('english', "
  | .anyOf key _ => key.name ++ " = ANY("
  | .before _ => "date < ("
  | .after _ => "date > ("

def parameter : Predicate → Parameter
  | .matchesAny words => .text (disjunction words)
  | .anyOf _ values => .texts values
  | .before bound => .timestamp bound
  | .after bound => .timestamp bound

def conditions (number : Nat) : List Predicate → String
  | [] => ""
  | p :: rest =>
    "\n  AND " ++ fragment p ++ "$" ++ toString number ++ ")" ++ conditions (number + 1) rest

def ofQuery (q : Query) : Statement where
  text := head ++ conditions 1 q.predicates ++ "\nORDER BY\n  date DESC\nLIMIT $" ++
    toString (q.predicates.length + 1)
  parameters := q.predicates.map parameter ++ [.integer q.limit]

end Statement
end CommitSearch
