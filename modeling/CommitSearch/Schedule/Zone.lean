import CommitSearch.Calendar.Day

/-!
# Time zones

A zone is its offsets from UTC: one that holds from the beginning and the changes since, each with
the second from which it holds. The changes cut time into spans of one offset. A local time belongs
to an instant when it falls, shifted by the offset, into a span; around a change it can fall into
two spans or into none.
-/

namespace CommitSearch.Schedule

/-- From an instant on, a new offset from UTC in seconds. -/
structure Change where
  second : Int
  offset : Int
deriving DecidableEq, Repr

/-- The offsets of a zone from the beginning of time, its changes in ascending order. -/
structure Zone where
  initial : Int
  changes : List Change
deriving DecidableEq, Repr

/-- A stretch of time with one offset, from a second to a second; an end that is missing is open. -/
structure Span where
  start : Option Int
  stop : Option Int
  offset : Int
deriving DecidableEq, Repr

namespace Zone

/-- The offset in force at a second, when `offset` is in force before the changes. -/
def offsetAfter (offset : Int) (second : Int) : List Change → Int
  | [] => offset
  | c :: rest => if c.second ≤ second then offsetAfter c.offset second rest else offset

def offsetAt (z : Zone) (second : Int) : Int := offsetAfter z.initial second z.changes

def localDay (z : Zone) (second : Int) : Int := Calendar.dayOfSecond (second + z.offsetAt second)

/-- The spans from a second on, when `offset` is in force there. -/
def spansFrom (start : Option Int) (offset : Int) : List Change → List Span
  | [] => [⟨start, none, offset⟩]
  | c :: rest => ⟨start, some c.second, offset⟩ :: spansFrom (some c.second) c.offset rest

def spans (z : Zone) : List Span := spansFrom none z.initial z.changes

end Zone

/-- The instant of a local time in a span, if the local time falls into it. -/
def Span.instantOf (s : Span) (localSecond : Int) : Option Int :=
  let second := localSecond - s.offset
  let started := match s.start with
    | some start => start ≤ second
    | none => true
  let stopped := match s.stop with
    | some stop => stop ≤ second
    | none => false
  if started && !stopped then some second else none

/-- The earliest instant of a local time, if the local time is not skipped. -/
def Zone.earliest (z : Zone) (localSecond : Int) : Option Int :=
  z.spans.findSome? fun s => s.instantOf localSecond

end CommitSearch.Schedule
