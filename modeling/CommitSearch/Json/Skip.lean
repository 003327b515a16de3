import CommitSearch.Json.Token

/-!
# Walking over JSON values

A value that nobody needs is walked over token by token with the list of the brackets that are open.
`skipValue` is for unknown fields: it looks at form only, and values may nest to any depth.
`documentFault` is for a whole text that is to be any JSON value: texts and numbers are looked into,
and nesting is limited.
-/

namespace CommitSearch.Json

inductive Bracket
  | list
  | object
deriving DecidableEq, Repr

/-- What is expected next: a value, the key or value behind an opening bracket, what follows a
value, the key behind a comma, or the colon behind a key. -/
inductive Expecting
  | value
  | opened
  | separator
  | key
  | colon
deriving DecidableEq, Repr

/-- A place inside a value, with the brackets that are open, innermost first. -/
structure Position where
  expecting : Expecting
  brackets : List Bracket
deriving DecidableEq, Repr

/-- The part that is unfinished when a text ends inside a bracket. -/
def Bracket.unfinished : Bracket → Unfinished
  | .list => .list
  | .object => .object

def Bracket.isClosedBy : Bracket → Token → Bool
  | .list, .listClose => true
  | .object, .objectClose => true
  | _, _ => false

/-- The fault of a token that does not separate the members of a bracket. -/
def Bracket.separatorExpected : Bracket → Fault
  | .list => .listSeparatorExpected
  | .object => .objectSeparatorExpected

/-- Behind a value: done when no bracket is open. -/
def afterValue : List Bracket → Option Position
  | [] => none
  | bs => some ⟨.separator, bs⟩

/-! ### Skipping -/

def skipAtValue (bs : List Bracket) : Token → Except Fault (Option Position)
  | .listOpen => .ok (some ⟨.opened, .list :: bs⟩)
  | .objectOpen => .ok (some ⟨.opened, .object :: bs⟩)
  | .null | .boolean _ | .number _ | .text _ => .ok (afterValue bs)
  | .brokenText b | .brokenValue b => .error b.skipping
  | _ => .error .valueExpected

def skipAtKey (bs : List Bracket) : Token → Except Fault (Option Position)
  | .text _ => .ok (some ⟨.colon, bs⟩)
  | .brokenText b => .error b.skipping
  | _ => .error .keyExpected

/-- One step over a token; nothing is left when the value ends with it. -/
def skipStep (p : Position) (t : Token) : Except Fault (Option Position) :=
  match p.expecting, p.brackets with
  | .value, bs => skipAtValue bs t
  | .opened, b :: bs =>
    if b.isClosedBy t then .ok (afterValue bs)
    else match b with
      | .list => skipAtValue (b :: bs) t
      | .object => skipAtKey (b :: bs) t
  | .separator, b :: bs =>
    if b.isClosedBy t then .ok (afterValue bs)
    else match t, b with
      | .comma, .list => .ok (some ⟨.value, b :: bs⟩)
      | .comma, .object => .ok (some ⟨.key, b :: bs⟩)
      | _, b => .error b.separatorExpected
  | .key, bs => skipAtKey bs t
  | .colon, bs => match t with
    | .colon => .ok (some ⟨.value, bs⟩)
    | _ => .error .colonExpected
  | _, [] => .error .valueExpected

/-- The fault of a text that ends at a position of a skipped value. -/
def Position.endFault (p : Position) : Fault :=
  match p.expecting, p.brackets with
  | .value, _ | _, [] => .endOfText .value
  | _, b :: _ => .endOfText b.unfinished

/-- Walks on from a position to the end of the value, and gives the tokens behind it. -/
def skipFrom : Position → List Token → Except Fault (List Token)
  | p, [] => .error p.endFault
  | p, t :: rest =>
    match skipStep p t with
    | .error f => .error f
    | .ok none => .ok rest
    | .ok (some p') => skipFrom p' rest

def skipValue (ts : List Token) : Except Fault (List Token) := skipFrom ⟨.value, []⟩ ts

/-! ### Looking into a whole text -/

def nestingLimit : Nat := 127

def readAtValue (bs : List Bracket) : Token → Except Fault (Option Position)
  | .listOpen =>
    if bs.length < nestingLimit then .ok (some ⟨.opened, .list :: bs⟩) else .error .nestedTooDeeply
  | .objectOpen =>
    if bs.length < nestingLimit then .ok (some ⟨.opened, .object :: bs⟩)
    else .error .nestedTooDeeply
  | .null | .boolean _ => .ok (afterValue bs)
  | .number n => n.value.map fun _ => afterValue bs
  | .text content => content.map fun _ => afterValue bs
  | .brokenText b | .brokenValue b => .error b.reading
  | _ => .error .valueExpected

/-- The step over a token where the key of a read value is expected. -/
def readAtKey (bs : List Bracket) : Token → Except Fault (Option Position)
  | .text content => content.map fun _ => some ⟨.colon, bs⟩
  | .brokenText b => .error b.reading
  | _ => .error .keyExpected

/-- One step over a token of a value that is read. -/
def readStep (p : Position) (t : Token) : Except Fault (Option Position) :=
  match p.expecting, p.brackets with
  | .value, bs =>
    match t, bs with
    | .listClose, .list :: _ => .error .trailingComma
    | t, bs => readAtValue bs t
  | .opened, b :: bs =>
    if b.isClosedBy t then .ok (afterValue bs)
    else match b with
      | .list => readAtValue (b :: bs) t
      | .object => readAtKey (b :: bs) t
  | .separator, b :: bs =>
    if b.isClosedBy t then .ok (afterValue bs)
    else match t, b with
      | .comma, .list => .ok (some ⟨.value, b :: bs⟩)
      | .comma, .object => .ok (some ⟨.key, b :: bs⟩)
      | _, b => .error b.separatorExpected
  | .key, bs => match t with
    | .objectClose => .error .trailingComma
    | t => readAtKey bs t
  | .colon, bs => match t with
    | .colon => .ok (some ⟨.value, bs⟩)
    | _ => .error .colonExpected
  | _, [] => .error .valueExpected

/-- The fault of a text that ends at a position of a value that is read. -/
def Position.readEndFault (p : Position) : Fault :=
  match p.expecting, p.brackets with
  | .value, _ | .key, _ | _, [] => .endOfText .value
  | _, b :: _ => .endOfText b.unfinished

/-- The first fault of a text that is to be one value from a position on. -/
def documentFaultFrom : Position → List Token → Option Fault
  | p, [] => some p.readEndFault
  | p, t :: rest =>
    match readStep p t with
    | .error f => some f
    | .ok none => if rest.isEmpty then none else some .trailingCharacters
    | .ok (some p') => documentFaultFrom p' rest

/-- The first fault of a text that is to be any one JSON value. -/
def documentFault (s : String) : Option Fault := documentFaultFrom ⟨.value, []⟩ (tokens s.toList)

end CommitSearch.Json
