import CommitSearch.Query
import CommitSearch.Trigram

/-!
# The commit store

Commits are only ever added. Which words are known, and which values the filters have, is looked up
in a snapshot that stays as it is until the next refresh, which builds one from the commits and then
puts it in place. A search runs in three parts: the words of
its query are resolved to known ones, the query is built, and the commits are selected, newest first
and of one date in the order of their arrival.

A store whose connections are closed fails every operation that needs one.
-/

namespace CommitSearch

open CommitSearch.Text

abbrev FilterValues := List (FilterKey × List String)

/-- What is looked up in stored commits: their words and the values of their attributes. -/
structure Snapshot where
  words : List String
  filters : FilterValues
deriving DecidableEq, Repr

namespace Snapshot

def empty : Snapshot := ⟨[], []⟩

def valuesOf (commits : List Commit) (key : FilterKey) : List String :=
  distinct ((commits.map key.valueOf).filter fun v => !v.isEmpty)

def build (commits : List Commit) : Snapshot where
  words := distinct (commits.flatMap Commit.words)
  filters := FilterKey.all.map fun key => (key, valuesOf commits key)

/-- The known words that are similar to the fold of a text. -/
def similar (s : Snapshot) (text : String) : List String :=
  let folded := fold text
  s.words.filter fun word => isMatch (similarity word folded)

end Snapshot

/-- Commits in the order of their arrival, and the snapshot of the last refresh. -/
structure Contents where
  commits : List Commit
  snapshot : Snapshot
deriving DecidableEq, Repr

namespace Contents

def empty : Contents := ⟨[], .empty⟩

def insert (s : Contents) (c : Commit) : Contents := { s with commits := s.commits ++ [c] }

def refresh (s : Contents) : Contents := { s with snapshot := .build s.commits }

def newerFirst (a b : Commit) : Bool := !a.date.before b.date

/-- The commits that a query selects, in the order in which they are given. -/
def selected (s : Contents) (q : Query) : List Commit :=
  (s.commits.filter q.selects).mergeSort newerFirst

/-- The first commits that a query selects, and the number of all. -/
def execute (s : Contents) (q : Query) : Page where
  commits := (s.selected q).take q.limit
  total := (s.selected q).length

end Contents

/-- A store: contents in memory, or a database to which no connection can be had any more. -/
inductive Store
  | memory (contents : Contents)
  | disconnected
deriving DecidableEq, Repr

namespace Store

def closed {α : Type} (operation : String) : Except Error α :=
  .error (.storage operation .poolClosed)

def insert (s : Store) (c : Commit) : Except Error Store :=
  match s with
  | memory contents => .ok (memory (contents.insert c))
  | disconnected => closed "save commit"

def similar (s : Store) (text : String) : Except Error (List String) :=
  match s with
  | memory contents => .ok (contents.snapshot.similar text)
  | disconnected => closed "find similar words"

def execute (s : Store) (q : Query) : Except Error Page :=
  match s with
  | memory contents => .ok (contents.execute q)
  | disconnected => closed "search commits"

def listFilters (s : Store) : Except Error FilterValues :=
  match s with
  | memory contents => .ok contents.snapshot.filters
  | disconnected => closed "list filters"

/-- The snapshot of the commits that are stored now, which is not in place yet. -/
def rebuilt (s : Store) : Except Error Snapshot :=
  match s with
  | memory contents => .ok (.build contents.commits)
  | disconnected => closed "refresh"

/-- Puts a snapshot in the place of the one that was looked up so far. -/
def swap (s : Store) (snapshot : Snapshot) : Store :=
  match s with
  | memory contents => memory { contents with snapshot }
  | disconnected => disconnected

def refresh (s : Store) : Except Error Store :=
  match s with
  | memory contents => .ok (memory contents.refresh)
  | disconnected => closed "refresh"

theorem refresh_eq (s : Store) : s.refresh = s.rebuilt.map s.swap := by
  cases s <;> rfl

@[simp] theorem swap_eq_disconnected {s : Store} {snapshot : Snapshot} :
    s.swap snapshot = .disconnected ↔ s = .disconnected := by
  cases s <;> simp [swap]

/-- The commit as it is to be stored, if nothing it needs is missing. -/
def accept (c : Commit) : Except Error Commit := do
  c.sanitize.check
  return c.sanitize

/-- Brings a commit into its form, checks it and adds it. -/
def save (s : Store) (c : Commit) : Except Error Store := do
  s.insert (← accept c)

/-- The known words for the text of a query; none for a blank text. -/
def resolve (s : Store) (text : String) : Except Error (List String) :=
  let trimmed := trim text
  if trimmed.isEmpty then .ok [] else (s.similar trimmed).map distinct

/-- The query of a request whose text is resolved to `words`. A text without a known word is an
error, and no search for everything. -/
def queryOf (r : SearchRequest) (words : List String) : Except Error Query :=
  if !(trim r.query).isEmpty && words.isEmpty then .error (.notFound .knownWords)
  else Query.ofRequest r words

def search (s : Store) (r : SearchRequest) : Except Error Page := do
  r.validate
  let words ← s.resolve r.query
  let q ← queryOf r words
  s.execute q

/-- The pages of a request, each asked for with the cursor of the one before, up to the first that
is empty and at most `count`. -/
def pages (s : Store) : Nat → SearchRequest → Except Error (List Page)
  | 0, _ => .ok []
  | count + 1, r => do
    let page ← s.search r
    match page.cursor with
    | none => return [page]
    | some cursor => return page :: (← s.pages count { r with last := cursor })

/-- The values of a key among the values of all filters. -/
def valuesFor (key : FilterKey) (values : FilterValues) : List String :=
  match values.find? fun entry => entry.1 = key with
  | some entry => entry.2
  | none => []

def listFilter (s : Store) (key : FilterKey) : Except Error (List String) :=
  s.listFilters.map (valuesFor key)

end Store
end CommitSearch
