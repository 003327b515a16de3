import CommitSearch.Error
import CommitSearch.Json.Writer

/-!
# Requests, responses and routes

A request names a method and a target, and can carry headers and a body. The names of headers are
compared without regard to case, and of several headers of one name the first counts. Every route is
found by its whole path and knows some methods.
-/

namespace CommitSearch.Http

open CommitSearch.Json

/-- The methods that some route knows. -/
inductive Method
  | get
  | head
  | post
  | options
  | other (name : String)
deriving DecidableEq, Repr

def Method.name : Method → String
  | get => "GET"
  | head => "HEAD"
  | post => "POST"
  | options => "OPTIONS"
  | other name => name

def Method.ofName (name : String) : Method :=
  match [get, head, post, options].find? fun m => m.name == name with
  | some m => m
  | none => other name

abbrev Header := String × String

structure Request where
  method : Method
  target : String
  headers : List Header
  body : String
deriving DecidableEq, Repr

/-- Whether two names are the same but for the case of their letters. -/
def sameName (a b : String) : Bool := a.toList.map Char.toLower == b.toList.map Char.toLower

/-- Whether a character can stand in a header that is read as text. -/
def isHeaderChar (c : Char) : Bool := c = '\t' || (0x20 ≤ c.toNat && c.toNat ≤ 0x7e)

/-- The value of the first header of a name, if it is text. -/
def Request.header (r : Request) (name : String) : Option String :=
  let value := (r.headers.find? fun h => sameName h.1 name).map Prod.snd
  value.filter fun v => v.toList.all isHeaderChar

structure Response where
  status : Nat
  headers : List Header
  body : String
deriving DecidableEq, Repr

namespace Response

def bare (status : Nat) : Response := ⟨status, [], ""⟩

def json (status : Nat) (body : String) : Response :=
  ⟨status, [("content-type", "application/json")], body⟩

def text (status : Nat) (body : String) : Response :=
  ⟨status, [("content-type", "text/plain; charset=utf-8")], body⟩

def ofError (e : Error) : Response :=
  json e.status (String.ofList (writeObject [("error", writeText e.clientText)]))

def withHeaders (r : Response) (headers : List Header) : Response :=
  { r with headers := r.headers ++ headers }

def withoutBody (r : Response) : Response := { r with body := "" }

end Response

/-! ### Routes -/

inductive Route
  | health
  | commits
  | filters
  | refresh
deriving DecidableEq, Repr

namespace Route

def all : List Route := [health, commits, filters, refresh]

def path : Route → String
  | health => "/health"
  | commits => "/commits"
  | filters => "/filters"
  | refresh => "/refresh"

def ofPath (path : String) : Option Route := all.find? fun r => r.path == path

def methods : Route → List Method
  | health | filters => [.get, .head]
  | commits => [.get, .head, .post]
  | refresh => [.post]

def allow (r : Route) : Header := ("allow", String.intercalate "," (r.methods.map Method.name))

end Route

end CommitSearch.Http
