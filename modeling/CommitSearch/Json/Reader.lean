import CommitSearch.Json.Skip

/-!
# Reading records from JSON

A reader takes a value from the head of a list of tokens and gives it with the tokens behind it.
Records are read in text order and the first fault ends the reading. A fault that arises inside the
value of a field or of an item carries the place with it.
-/

namespace CommitSearch.Json

/-- Where in a record a value stands. -/
inductive Place
  | field (name : String)
  | item (index : Nat)
deriving DecidableEq, Repr

/-- A fault, and the place of the value in which it arose. -/
structure ReadError where
  place : Option Place
  fault : Fault
deriving DecidableEq, Repr

/-- Takes a value from the head of a list of tokens. -/
abbrev Reader (α : Type) := List Token → Except ReadError (α × List Token)

def ReadError.message (e : ReadError) : String :=
  match e.place with
  | none => e.fault.message
  | some (.field name) => name ++ ": " ++ e.fault.message
  | some (.item index) => "[" ++ toString index ++ "]: " ++ e.fault.message

def fail {α : Type} (f : Fault) : Except ReadError α := .error ⟨none, f⟩

/-- Names the place of the faults of a value that is read there. -/
def located {α : Type} (place : Place) (r : Except Fault α) : Except ReadError α :=
  r.mapError fun f => ⟨some place, f⟩

/-- How a token is named where another kind of value was wanted; what is read before it can be named
has to be in order. -/
def Token.found : Token → Except Fault Found
  | .null => .ok .null
  | .boolean b => .ok (.boolean b)
  | .number n => n.value.map NumberValue.found
  | .text content => content.map fun cs => .text (String.ofList cs)
  | .listOpen => .ok .list
  | .objectOpen => .ok .object
  | .brokenText b | .brokenValue b => .error b.reading
  | _ => .error .valueExpected

/-- The fault of a value of the wrong kind at the head of a list of tokens. -/
def mismatch (wanted : Wanted) : List Token → Fault
  | [] => .endOfText .value
  | t :: _ => match t.found with
    | .ok found => .wrongKind found wanted
    | .error f => f

/-! ### Single values -/

def readText : List Token → Except Fault (String × List Token)
  | .text content :: rest => content.map fun cs => (String.ofList cs, rest)
  | ts => .error (mismatch .text ts)

def readBoolean : List Token → Except Fault (Bool × List Token)
  | .boolean b :: rest => .ok (b, rest)
  | ts => .error (mismatch .boolean ts)

def readInteger (wanted : Wanted) : List Token → Except Fault (Int × List Token)
  | .number n :: rest => do
    match ← n.value with
    | .integer i => return (i, rest)
    | v => throw (.wrongKind v.found wanted)
  | ts => .error (mismatch wanted ts)

def readCount (ts : List Token) : Except Fault (Nat × List Token) := do
  let (i, rest) ← readInteger .count ts
  if i < 0 then throw (.wrongValue (.integer i) .count) else return (i.toNat, rest)

/-! ### Lists -/

/-- The tokens at the next item of a list, or nothing at its end. -/
def nextItem (first : Bool) : List Token → Except Fault (Option (List Token))
  | [] => .error (.endOfText .list)
  | .listClose :: _ => .ok none
  | t :: rest =>
    if first then .ok (some (t :: rest))
    else match t, rest with
      | .comma, [] => .error (.endOfText .value)
      | .comma, .listClose :: _ => .error .trailingComma
      | .comma, rest => .ok (some rest)
      | _, _ => .error .listSeparatorExpected

/-- Reads the items of a list up to its closing bracket; `fuel` bounds their number. -/
def readItems {α : Type} (item : Nat → Reader α) : Nat → Nat → Reader (List α)
  | 0, _, _ => fail (.endOfText .list)
  | fuel + 1, index, ts =>
    match nextItem (index = 0) ts with
    | .error f => fail f
    | .ok none => .ok ([], ts.drop 1)
    | .ok (some ts) => do
      let (x, ts) ← item index ts
      let (xs, ts) ← readItems item fuel (index + 1) ts
      return (x :: xs, ts)

def readList {α : Type} (item : Nat → Reader α) : Reader (List α)
  | .listOpen :: rest => readItems item (rest.length + 1) 0 rest
  | ts => fail (mismatch .sequence ts)

/-- The closing bracket of a list whose items are all read. -/
def closeList : List Token → Except Fault (List Token)
  | [] => .error (.endOfText .list)
  | .listClose :: rest => .ok rest
  | .comma :: .listClose :: _ => .error .trailingComma
  | _ => .error .trailingCharacters

/-! ### Objects -/

/-- The key of the next member of an object and the tokens behind it, or nothing at its end. -/
def nextKey (first : Bool) : List Token → Except Fault (Option (String × List Token))
  | [] => .error (.endOfText .object)
  | .objectClose :: _ => .ok none
  | t :: rest =>
    if first then key (t :: rest)
    else match t, rest with
      | .comma, [] => .error (.endOfText .value)
      | .comma, .objectClose :: _ => .error .trailingComma
      | .comma, rest => key rest
      | _, _ => .error .objectSeparatorExpected
where
  key : List Token → Except Fault (Option (String × List Token))
    | .text content :: rest => content.map fun cs => some (String.ofList cs, rest)
    | .brokenText b :: _ => .error b.reading
    | _ => .error .keyExpected

def readColon : List Token → Except Fault (List Token)
  | [] => .error (.endOfText .object)
  | .colon :: rest => .ok rest
  | _ => .error .colonExpected

/-- Reads the members of an object into a state up to its closing bracket; `fuel` bounds their
number. -/
def readMembers {σ : Type} (member : σ → String → Reader σ) : Nat → Bool → σ → Reader σ
  | 0, _, _, _ => fail (.endOfText .object)
  | fuel + 1, first, s, ts =>
    match nextKey first ts with
    | .error f => fail f
    | .ok none => .ok (s, ts.drop 1)
    | .ok (some (key, ts)) => do
      let (s, ts) ← member s key ts
      readMembers member fuel false s ts

def skipMember (key : String) (ts : List Token) : Except ReadError (List Token) :=
  match readColon ts with
  | .error f => fail f
  | .ok ts => located (.field key) (skipValue ts)

def readDocument {α : Type} (reader : Reader α) (s : String) : Except ReadError α := do
  let (x, rest) ← reader (tokens s.toList)
  if rest.isEmpty then return x else fail .trailingCharacters

end CommitSearch.Json
