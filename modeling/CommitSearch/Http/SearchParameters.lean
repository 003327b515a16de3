import CommitSearch.Request
import CommitSearch.Text.Lists
import CommitSearch.Text.Numeral
import CommitSearch.Text.Utf8

/-!
# Searches from parameters

The part of a request target behind its first question mark and before a number sign holds
parameters, separated by ampersands. A parameter is a name and, behind its first equals sign, a
value; without one the value is empty. In both a plus sign stands for a blank, and bytes are escaped
by percent signs.

The parameters of a search are taken one after the other. Of the query, the days, the cursor and the
page size the last one given counts, though every page size has to be allowed. The values of a
filter are separated by commas and are added to those given before. Parameters of other names are
ignored.
-/

namespace CommitSearch

open CommitSearch.Text

/-! ### Query strings -/

namespace Http

def plainBytes (c : Char) : List UInt8 := if c = '+' then [0x20] else String.utf8EncodeChar c

def decodeText (cs : List Char) : String := ofUtf8 (percentBytes plainBytes 0 cs)

abbrev Parameter := String × String

def readParameter (cs : List Char) : Parameter :=
  (decodeText (cs.takeWhile (· != '=')), decodeText ((cs.dropWhile (· != '=')).drop 1))

/-- The parameters of a query string in their order; empty parts are none. -/
def readParameters (cs : List Char) : List Parameter :=
  ((fields (· == '&') cs).filter fun part => !part.isEmpty).map readParameter

/-- The path of a request target and its query string. -/
structure Target where
  path : String
  query : List Char
deriving DecidableEq, Repr

/-- The characters of a target behind scheme and server, if it names them; without a path it is that
of the whole site. -/
def localPart (cs : List Char) : List Char :=
  let isSchemeChar (c : Char) : Bool := c.isAlphanum || c == '+' || c == '-' || c == '.'
  match cs.takeWhile isSchemeChar, cs.dropWhile isSchemeChar with
  | _ :: _, ':' :: '/' :: '/' :: rest =>
    match rest.dropWhile fun c => c != '/' && c != '?' with
    | '/' :: path => '/' :: path
    | behind => '/' :: behind
  | _, _ => cs

/-- The target that a text spells; what follows a number sign is no part of it. -/
def Target.read (s : String) : Target :=
  let cs := localPart (s.toList.takeWhile (· != '#'))
  ⟨String.ofList (cs.takeWhile (· != '?')), (cs.dropWhile (· != '?')).drop 1⟩

def Target.parameters (t : Target) : List Parameter := readParameters t.query

end Http

/-! ### Searches -/

open CommitSearch.Http

def readPageSize (text : String) : Except Error Nat :=
  match readCount (Nat.pow 2 32 - 1) (trim text) with
  | none => .error (.refused (.pageSizeNoNumber text))
  | some n =>
    if n = 0 ∨ maxPageSize < n then .error (.refused .pageSizeOutOfRange) else .ok n

namespace SearchRequest

def setParameter (r : SearchRequest) (p : Parameter) : Except Error SearchRequest :=
  let (name, value) := p
  if name = "q" then .ok { r with query := trim value }
  else if name = "before" then .ok { r with before := trim value }
  else if name = "after" then .ok { r with after := trim value }
  else if name = "last" then .ok { r with last := trim value }
  else if name = "pageSize" then (readPageSize value).map fun n => { r with pageSize := n }
  else match FilterKey.ofName name with
    | .ok key => .ok { r with filters := r.filters.insert key (fieldsAt ',' value) }
    | .error _ => .ok r

/-- The request that parameters ask for. The first page size that is not allowed is an error, and
what is then found has to be valid. -/
def ofParameters (parameters : List Parameter) : Except Error SearchRequest := do
  let r ← parameters.foldlM setParameter all
  r.validate
  return r

end SearchRequest

end CommitSearch
