import CommitSearch.Calendar.Cursor
import CommitSearch.Error
import CommitSearch.Text.Fold

/-!
# Commits

A commit is one change of a repository, as its build reports it. Before it is stored its identifying
fields are brought into one form (`sanitize`) and the required ones are checked (`check`).
-/

namespace CommitSearch

open CommitSearch.Calendar CommitSearch.Text

structure Commit where
  date : Instant
  hash : String
  type : String
  component : String
  content : String
  remote : String
  repository : String
  breaking : Bool
  revert : Bool
deriving DecidableEq, Repr

/-- The form of identifying texts: without blanks at the ends, in lower case. -/
def normalize (s : String) : String := lower (trim s)

namespace Commit

/-- Brings the identifying fields into their form; of the content only blanks at its ends go. -/
def sanitize (c : Commit) : Commit :=
  { c with
    hash := normalize c.hash
    type := normalize c.type
    component := normalize c.component
    content := trim c.content
    remote := normalize c.remote
    repository := normalize c.repository }

def require (present : Bool) (field : RequiredField) : Except Error Unit :=
  if present then .ok () else .error (.refused (.fieldRequired field))

/-- The first required field that is missing is an error. A date in the first second of 1970 counts
as missing. -/
def check (c : Commit) : Except Error Unit := do
  require (!c.hash.isEmpty) .hash
  require (!c.type.isEmpty) .type
  require (!c.content.isEmpty) .content
  require (c.date.seconds != 0) .date
  require (!c.remote.isEmpty) .remote
  require (!c.repository.isEmpty) .repository

/-- The words under which a commit is found: those of its hash, type, component and content. -/
def words (c : Commit) : List String :=
  [c.hash, c.type, c.component, c.content].flatMap tokenize

end Commit

/-- Commits found by a search, newest first, with the number of all that match. -/
structure Page where
  commits : List Commit
  total : Nat
deriving DecidableEq, Repr

/-- The cursor of the page that follows, if this one holds a commit. -/
def Page.cursor (p : Page) : Option String := p.commits.getLast?.map fun c => c.date.cursor

end CommitSearch
