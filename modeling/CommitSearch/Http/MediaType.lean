/-!
# Media types

A media type is a type and a subtype with a slash between them, both made of token characters, and
parameters behind semicolons. A subtype can end with a suffix behind a plus sign that names the
format it is based on. Case does not matter.
-/

namespace CommitSearch.Http

def isTokenChar (c : Char) : Bool :=
  c.isAlphanum || "!#$%&'*+-.^_`|~".toList.contains c

/-- A media type without its parameters, in small letters. -/
structure MediaType where
  type : String
  subtype : String
  suffix : Option String
deriving DecidableEq, Repr

def isQuotable (c : Char) : Bool := 0x1f < c.toNat && c.toNat != 0x7f

/-- Where the reader of parameters stands: before a name, in a name of at least one character,
before a value, in a value, before a quoted value, in a quoted value, or behind one. -/
inductive ParameterStage
  | name
  | inName
  | value
  | inValue
  | quoted
  | inQuoted
  | closed
deriving DecidableEq, Repr

/-- Where the reader of parameters stands after one more character. Blanks are allowed before a name
and behind a quoted value; a quoted value holds at least one character. -/
def ParameterStage.next : ParameterStage → Char → Option ParameterStage
  | name, c => if c = ' ' then some name else if isTokenChar c then some inName else none
  | inName, c => if c = '=' then some value else if isTokenChar c then some inName else none
  | value, c => if c = '"' then some quoted else if isTokenChar c then some inValue else none
  | inValue, c => if c = ';' then some name else if isTokenChar c then some inValue else none
  | quoted, c => if isQuotable c then some inQuoted else none
  | inQuoted, c => if c = '"' then some closed else if isQuotable c then some inQuoted else none
  | closed, c => if c = ';' then some name else if c = ' ' then some closed else none

/-- Whether parameters can end here: a value can be empty, and a semicolon can be the last thing but
for blanks. -/
def ParameterStage.isEnd : ParameterStage → Bool
  | name | value | inValue | closed => true
  | _ => false

def areParameters (cs : List Char) : Bool :=
  match cs.foldlM ParameterStage.next .name with
  | some stage => stage.isEnd
  | none => false

/-- The subtype and the suffix behind its last plus sign, unless that is its first character. -/
def splitSuffix (cs : List Char) : String × Option String :=
  let suffix := cs.reverse.takeWhile (· != '+')
  let base := (cs.reverse.dropWhile (· != '+')).drop 1
  if base.isEmpty then (String.ofList cs, none)
  else (String.ofList base.reverse, some (String.ofList suffix.reverse))

def MediaType.read (s : String) : Option MediaType :=
  let cs := s.toList.map Char.toLower
  let type := cs.takeWhile isTokenChar
  match type, cs.dropWhile isTokenChar with
  | [], _ => none
  | _, '/' :: rest =>
    let (subtype, suffix) := splitSuffix (rest.takeWhile isTokenChar)
    match rest.dropWhile isTokenChar with
    | [] => some ⟨String.ofList type, subtype, suffix⟩
    | ';' :: parameters =>
      if areParameters parameters && !subtype.isEmpty then
        some ⟨String.ofList type, subtype, suffix⟩
      else none
    | _ => none
  | _, _ => none

def MediaType.isJson (m : MediaType) : Bool :=
  m.type = "application" && (m.subtype = "json" || m.suffix = some "json")

end CommitSearch.Http
