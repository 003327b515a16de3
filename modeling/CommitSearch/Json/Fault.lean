import CommitSearch.Number.Shortest
import CommitSearch.Text.Quoted

/-!
# What can be wrong with a JSON text

A reader stops at the first fault. A fault is one of form, when the text is not JSON, or one of
content, when the JSON does not fit the record that is read.
-/

namespace CommitSearch.Json

open CommitSearch.Number CommitSearch.Text

/-- What a text ended in the middle of. -/
inductive Unfinished
  | value
  | list
  | object
  | text
deriving DecidableEq, Repr

/-- A value that was met where another kind was wanted. -/
inductive Found
  | null
  | boolean (value : Bool)
  | integer (value : Int)
  | float (negative : Bool) (magnitude : BinaryValue)
  | text (value : String)
  | list
  | object
deriving DecidableEq, Repr

/-- What a record wants at a place. -/
inductive Wanted
  | text
  | boolean
  | count
  | timestamp
  | sequence
  | commit
  | commitPage
deriving DecidableEq, Repr

/-- The first thing wrong with a text. -/
inductive Fault
  | endOfText (inside : Unfinished)
  | valueExpected
  | literalExpected
  | colonExpected
  | listSeparatorExpected
  | objectSeparatorExpected
  | keyExpected
  | trailingComma
  | trailingCharacters
  | controlCharacter
  | invalidEscape
  | invalidNumber
  | numberOutOfRange
  | loneSurrogate
  | unpairedSurrogate
  | nestedTooDeeply
  | missingField (name : String)
  | duplicateField (name : String)
  | wrongKind (found : Found) (wanted : Wanted)
  | wrongValue (found : Found) (wanted : Wanted)
  | wrongLength (length : Nat) (wanted : Wanted) (fieldCount : Nat)
  | illegalTimestamp (seconds : Int)
deriving DecidableEq, Repr

/-- Whether the fault is one of content: the text is JSON, but not of the record. -/
def Fault.isOfContent : Fault → Bool
  | .missingField _ | .duplicateField _ | .wrongKind _ _ | .wrongValue _ _ | .wrongLength _ _ _
  | .illegalTimestamp _ => true
  | _ => false

/-! ### Wording -/

/-- The digits of a decimal without the zeros at its end, and how many zeros there were. -/
def stripZeros (digits : List Char) : List Char × Nat :=
  let kept := (digits.reverse.dropWhile (· == '0')).reverse
  (kept, digits.length - kept.length)

/-- The text of a finite double: the shortest decimal that reads back, positional when the exponent
of its leading digit lies in -5 .. 15 and with an exponent otherwise. A positional text has at least
one digit on either side of the point. -/
def floatText (negative : Bool) (magnitude : BinaryValue) : String :=
  let d := magnitude.shortest
  let (digits, zeros) := stripZeros (Nat.toDigits 10 d.digits)
  let scale : Int := d.exponent + zeros
  let leading : Int := scale + digits.length - 1
  let body : List Char :=
    if digits.isEmpty then ['0', '.', '0']
    else if -5 ≤ leading ∧ leading < 16 then
      if 0 ≤ scale then digits ++ List.replicate scale.toNat '0' ++ ['.', '0']
      else if 0 ≤ leading then
        digits.take (leading.toNat + 1) ++ '.' :: digits.drop (leading.toNat + 1)
      else ['0', '.'] ++ List.replicate (-leading - 1).toNat '0' ++ digits
    else
      let mantissa := match digits with
        | [] => []
        | [d] => [d]
        | d :: more => d :: '.' :: more
      mantissa ++ 'e' :: (if leading < 0 then '-' else '+') :: Nat.toDigits 10 leading.natAbs
  String.ofList (if negative then '-' :: body else body)

def Found.phrase : Found → String
  | .null => "null"
  | .boolean b => "boolean `" ++ (if b then "true" else "false") ++ "`"
  | .integer n => "integer `" ++ toString n ++ "`"
  | .float negative magnitude => "floating point `" ++ floatText negative magnitude ++ "`"
  | .text s => "string " ++ quoted s
  | .list => "sequence"
  | .object => "map"

def Wanted.phrase : Wanted → String
  | .text => "a string"
  | .boolean => "a boolean"
  | .count => "u64"
  | .timestamp => "a unix timestamp in seconds"
  | .sequence => "a sequence"
  | .commit => "struct Commit"
  | .commitPage => "struct CommitsList"

def Unfinished.phrase : Unfinished → String
  | .value => "a value"
  | .list => "a list"
  | .object => "an object"
  | .text => "a string"

def Fault.message : Fault → String
  | .endOfText inside => "EOF while parsing " ++ inside.phrase
  | .valueExpected => "expected value"
  | .literalExpected => "expected ident"
  | .colonExpected => "expected `:`"
  | .listSeparatorExpected => "expected `,` or `]`"
  | .objectSeparatorExpected => "expected `,` or `\x7d`"
  | .keyExpected => "key must be a string"
  | .trailingComma => "trailing comma"
  | .trailingCharacters => "trailing characters"
  | .controlCharacter => "control character (\\u0000-\\u001F) found while parsing a string"
  | .invalidEscape => "invalid escape"
  | .invalidNumber => "invalid number"
  | .numberOutOfRange => "number out of range"
  | .loneSurrogate => "lone leading surrogate in hex escape"
  | .unpairedSurrogate => "unexpected end of hex escape"
  | .nestedTooDeeply => "recursion limit exceeded"
  | .missingField name => "missing field `" ++ name ++ "`"
  | .duplicateField name => "duplicate field `" ++ name ++ "`"
  | .wrongKind found wanted =>
    "invalid type: " ++ found.phrase ++ ", expected " ++ wanted.phrase
  | .wrongValue found wanted =>
    "invalid value: " ++ found.phrase ++ ", expected " ++ wanted.phrase
  | .wrongLength length wanted fieldCount =>
    "invalid length " ++ toString length ++ ", expected " ++ wanted.phrase ++ " with " ++
      toString fieldCount ++ " elements"
  | .illegalTimestamp seconds => "value is not a legal timestamp: " ++ toString seconds

end CommitSearch.Json
