import CommitSearch.Calendar.Cursor
import CommitSearch.Filter

/-!
# Search requests

A request asks for commits that contain a word similar to one of its query and that satisfy its
filters, between two days. The cursor of a page, when there is one, takes the place of the upper
day.
-/

namespace CommitSearch

open CommitSearch.Calendar

structure SearchRequest where
  query : String
  filters : Filters
  before : String
  after : String
  pageSize : Nat
  last : String
deriving DecidableEq, Repr

/-- How many commits a page holds unless the request says otherwise. -/
def defaultPageSize : Nat := 20

/-- Midnight of a day given as text; the empty text sets no bound. -/
def readBound (text : String) : Except Error (Option Instant) :=
  if text.isEmpty then .ok none
  else match Day.read text with
    | .ok d => .ok (some d.start)
    | .error f => .error (.refused (.unreadableDay text f))

def readCursor (text : String) : Except Error Instant :=
  match Instant.readCursor text with
  | .ok i => .ok i
  | .error f => .error (.refused (.unreadableCursor text f))

namespace SearchRequest

def all : SearchRequest := ⟨"", .empty, "", "", defaultPageSize, ""⟩

def upperBound (r : SearchRequest) : Except Error (Option Instant) :=
  if r.last.isEmpty then readBound r.before else (readCursor r.last).map some

def lowerBound (r : SearchRequest) : Except Error (Option Instant) := readBound r.after

/-- The first of cursor, upper and lower day that cannot be read is an error. -/
def validate (r : SearchRequest) : Except Error Unit := do
  let _ ← r.upperBound
  let _ ← readBound r.before
  let _ ← r.lowerBound

end SearchRequest
end CommitSearch
