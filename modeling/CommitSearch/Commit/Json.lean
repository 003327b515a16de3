import CommitSearch.Commit
import CommitSearch.Json.Reader
import CommitSearch.Json.Writer

/-!
# Commits and pages as JSON

Fields are written in a fixed order and read in any; a list of the values in that order is read too.
Dates are written in whole seconds. Unknown fields are passed over. When fields are missing, the
first in the order of writing is reported at the end of the object.
-/

namespace CommitSearch

open CommitSearch.Calendar CommitSearch.Json

/-! ### Writing -/

def Commit.members (c : Commit) : List (String × List Char) :=
  [("date", writeInteger c.date.seconds), ("hash", writeText c.hash), ("type", writeText c.type),
    ("component", writeText c.component), ("content", writeText c.content),
    ("remote", writeText c.remote), ("repository", writeText c.repository),
    ("breaking", writeBoolean c.breaking), ("revert", writeBoolean c.revert)]

def Commit.write (c : Commit) : List Char := writeObject c.members

def Commit.encode (c : Commit) : String := String.ofList c.write

def Page.members (p : Page) : List (String × List Char) :=
  [("commits", writeList (p.commits.map Commit.write)), ("totalCount", writeInteger p.total)]

/-- A page as JSON text, as it is stored in the cache. -/
def Page.encode (p : Page) : String := String.ofList (writeObject p.members)

/-- A page as JSON text, as it is answered: with the cursor of the next page. -/
def Page.answer (p : Page) : String :=
  let last := match p.cursor with
    | some cursor => [("last", writeText cursor)]
    | none => []
  String.ofList (writeObject (p.members ++ last))

/-! ### Reading commits -/

inductive CommitField
  | date
  | hash
  | type
  | component
  | content
  | remote
  | repository
  | breaking
  | revert
deriving DecidableEq, Repr

def CommitField.all : List CommitField :=
  [.date, .hash, .type, .component, .content, .remote, .repository, .breaking, .revert]

def CommitField.name : CommitField → String
  | .date => "date"
  | .hash => "hash"
  | .type => "type"
  | .component => "component"
  | .content => "content"
  | .remote => "remote"
  | .repository => "repository"
  | .breaking => "breaking"
  | .revert => "revert"

def CommitField.ofName (name : String) : Option CommitField :=
  CommitField.all.find? fun f => f.name == name

def CommitField.isOptional : CommitField → Bool
  | .component | .breaking | .revert => true
  | _ => false

/-- The fields of a commit that are read so far. -/
structure CommitDraft where
  date : Option Instant
  hash : Option String
  type : Option String
  component : Option String
  content : Option String
  remote : Option String
  repository : Option String
  breaking : Option Bool
  revert : Option Bool

namespace CommitDraft

def empty : CommitDraft := ⟨none, none, none, none, none, none, none, none, none⟩

def holds (d : CommitDraft) : CommitField → Bool
  | .date => d.date.isSome
  | .hash => d.hash.isSome
  | .type => d.type.isSome
  | .component => d.component.isSome
  | .content => d.content.isSome
  | .remote => d.remote.isSome
  | .repository => d.repository.isSome
  | .breaking => d.breaking.isSome
  | .revert => d.revert.isSome

def setText (d : CommitDraft) (field : CommitField) (s : String) : CommitDraft :=
  match field with
  | .hash => { d with hash := some s }
  | .type => { d with type := some s }
  | .component => { d with component := some s }
  | .content => { d with content := some s }
  | .remote => { d with remote := some s }
  | .repository => { d with repository := some s }
  | _ => d

def setBoolean (d : CommitDraft) (field : CommitField) (b : Bool) : CommitDraft :=
  match field with
  | .breaking => { d with breaking := some b }
  | .revert => { d with revert := some b }
  | _ => d

/-- Reads a date: seconds that belong to the calendar. -/
def readDate (ts : List Token) : Except Fault (Instant × List Token) := do
  let (seconds, rest) ← readInteger .timestamp ts
  if Instant.isLegalSecond seconds then return (.ofSeconds seconds, rest)
  else throw (.illegalTimestamp seconds)

def readField (d : CommitDraft) (field : CommitField) (ts : List Token) :
    Except Fault (CommitDraft × List Token) :=
  match field with
  | .date => (readDate ts).map fun (i, rest) => ({ d with date := some i }, rest)
  | .breaking | .revert => (readBoolean ts).map fun (b, rest) => (d.setBoolean field b, rest)
  | field => (readText ts).map fun (s, rest) => (d.setText field s, rest)

def readMember (d : CommitDraft) (key : String) : Reader CommitDraft := fun ts =>
  match CommitField.ofName key with
  | none => (skipMember key ts).map fun rest => (d, rest)
  | some field =>
    if d.holds field then fail (.duplicateField key)
    else match readColon ts with
      | .error f => fail f
      | .ok ts => located (.field key) (d.readField field ts)

/-- The first field that a commit cannot do without and that is not read. -/
def missingField (d : CommitDraft) : Option CommitField :=
  CommitField.all.find? fun f => !f.isOptional && !d.holds f

def finish (d : CommitDraft) : Except Fault Commit :=
  match d with
  | ⟨some date, some hash, some type, component, some content, some remote, some repository,
      breaking, revert⟩ =>
    .ok ⟨date, hash, type, component.getD "", content, remote, repository, breaking.getD false,
      revert.getD false⟩
  | d => .error (.missingField ((d.missingField.map CommitField.name).getD ""))

/-- Reads the values of a list into the given fields, which begin at a position. A field that is not
optional has to have its value. -/
def readPositions (d : CommitDraft) (index : Nat) : List CommitField → Reader CommitDraft
  | [], ts => .ok (d, ts)
  | field :: fields, ts =>
    match nextItem (index = 0) ts with
    | .error f => fail f
    | .ok none =>
      if field.isOptional then d.readPositions (index + 1) fields ts
      else fail (.wrongLength index .commit CommitField.all.length)
    | .ok (some ts) => do
      let (d, ts) ← located (.item index) (d.readField field ts)
      d.readPositions (index + 1) fields ts

end CommitDraft

def Commit.read : Reader Commit
  | .objectOpen :: rest => do
    let (d, rest) ← readMembers CommitDraft.readMember (rest.length + 1) true .empty rest
    match d.finish with
    | .ok c => return (c, rest)
    | .error f => fail f
  | .listOpen :: rest => do
    let (d, rest) ← CommitDraft.empty.readPositions 0 CommitField.all rest
    match d.finish, closeList rest with
    | .error f, _ => fail f
    | .ok _, .error f => fail f
    | .ok c, .ok rest => return (c, rest)
  | ts => fail (mismatch .commit ts)

def Commit.decode (s : String) : Except ReadError Commit := readDocument Commit.read s

/-! ### Reading pages -/

/-- The fields of a page that are read so far. -/
structure PageDraft where
  commits : Option (List Commit)
  total : Option Nat

def readCommits : Reader (List Commit) := readList fun _ => Commit.read

def readTotal (key : String) : Reader Nat := fun ts => located (.field key) (readCount ts)

/-- Reads a member of a page; what is unknown is passed over, a stored cursor among it. -/
def PageDraft.readMember (d : PageDraft) (key : String) : Reader PageDraft := fun ts =>
  if key = "commits" then
    if d.commits.isSome then fail (.duplicateField key)
    else match readColon ts with
      | .error f => fail f
      | .ok ts => do
        let (commits, rest) ← readCommits ts
        return ({ d with commits := some commits }, rest)
  else if key = "totalCount" then
    if d.total.isSome then fail (.duplicateField key)
    else match readColon ts with
      | .error f => fail f
      | .ok ts => do
        let (total, rest) ← readTotal key ts
        return ({ d with total := some total }, rest)
  else (skipMember key ts).map fun rest => (d, rest)

def PageDraft.finish : PageDraft → Except Fault Page
  | ⟨some commits, some total⟩ => .ok ⟨commits, total⟩
  | ⟨none, _⟩ => .error (.missingField "commits")
  | ⟨_, none⟩ => .error (.missingField "totalCount")

/-- Reads the two values of a page from a list, behind its bracket. -/
def readPagePositions : Reader Page := fun ts =>
  match nextItem true ts with
  | .error f => fail f
  | .ok none => fail (.wrongLength 0 .commitPage 2)
  | .ok (some ts) => do
    let (commits, ts) ← readCommits ts
    match nextItem false ts with
    | .error f => fail f
    | .ok none => fail (.wrongLength 1 .commitPage 2)
    | .ok (some ts) => do
      let (total, ts) ← readTotal "totalCount" ts
      match closeList ts with
      | .error f => fail f
      | .ok ts => return (⟨commits, total⟩, ts)

def Page.read : Reader Page
  | .objectOpen :: rest => do
    let (d, rest) ← readMembers PageDraft.readMember (rest.length + 1) true ⟨none, none⟩ rest
    match d.finish with
    | .ok p => return (p, rest)
    | .error f => fail f
  | .listOpen :: rest => readPagePositions rest
  | ts => fail (mismatch .commitPage ts)

def Page.decode (s : String) : Except ReadError Page := readDocument Page.read s

end CommitSearch
