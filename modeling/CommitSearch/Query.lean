import CommitSearch.Request

/-!
# Queries

A request whose query is resolved to known words becomes a list of predicates and a limit. The order
of the predicates is fixed: words, filters by key, upper bound, lower bound.
-/

namespace CommitSearch

open CommitSearch.Calendar

inductive Predicate
  | matchesAny (words : List String)
  | anyOf (key : FilterKey) (values : List String)
  | before (bound : Instant)
  | after (bound : Instant)
deriving DecidableEq, Repr

def Predicate.holds (c : Commit) : Predicate → Bool
  | matchesAny words => c.words.any words.contains
  | anyOf key values => values.contains (key.valueOf c)
  | before bound => c.date.before bound
  | after bound => bound.before c.date

/-- Conditions that all have to hold, and the greatest number of commits to give. -/
structure Query where
  predicates : List Predicate
  limit : Nat
deriving DecidableEq, Repr

namespace Query

def selects (q : Query) (c : Commit) : Bool := q.predicates.all (Predicate.holds c)

def wordPredicates (words : List String) : List Predicate :=
  if words.isEmpty then [] else [.matchesAny words]

def filterPredicates (filters : Filters) : List Predicate :=
  filters.toList.filterMap fun (key, values) =>
    let values := normalizeValues values
    if values.isEmpty then none else some (.anyOf key values)

/-- The query for words, filters and bounds. A cursor takes the place of the upper bound. -/
def build (pageSize : Nat) (cursor : Option Instant) (words : List String) (filters : Filters)
    (before after : Option Instant) : Query where
  predicates :=
    wordPredicates words ++ filterPredicates filters ++
      ((cursor <|> before).map Predicate.before).toList ++ (after.map Predicate.after).toList
  limit := max 1 (min pageSize maxPageSize)

/-- The query for a request whose query is resolved to `words`. -/
def ofRequest (r : SearchRequest) (words : List String) : Except Error Query := do
  let cursor ← if r.last.isEmpty then pure none else r.upperBound
  let before ← readBound r.before
  let after ← r.lowerBound
  return build r.pageSize cursor words r.filters before after

end Query
end CommitSearch
