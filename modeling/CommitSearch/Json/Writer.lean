import CommitSearch.Json.Literal

/-!
# Writing JSON

Objects and lists are written without blanks. In texts only the quotation mark, the backslash and
the control characters below the blank are escaped; everything else is written as it is.
-/

namespace CommitSearch.Json

def hexDigit (n : Nat) : Char := Nat.digitChar (n % 16)

def escapeChar (c : Char) : List Char :=
  if c = '"' then ['\\', '"']
  else if c = '\\' then ['\\', '\\']
  else if c = '\x08' then ['\\', 'b']
  else if c = '\t' then ['\\', 't']
  else if c = '\n' then ['\\', 'n']
  else if c = '\x0c' then ['\\', 'f']
  else if c = '\r' then ['\\', 'r']
  else if c.toNat < 0x20 then
    ['\\', 'u', '0', '0', hexDigit (c.toNat / 16), hexDigit c.toNat]
  else [c]

def writeText (s : String) : List Char := '"' :: (s.toList.flatMap escapeChar ++ ['"'])

def writeBoolean (b : Bool) : List Char := (if b then "true" else "false").toList

def writeInteger (i : Int) : List Char :=
  if i < 0 then '-' :: Nat.toDigits 10 i.natAbs else Nat.toDigits 10 i.natAbs

def separated : List (List Char) → List Char
  | [] => []
  | [x] => x
  | x :: y :: rest => x ++ ',' :: separated (y :: rest)

def writeList (items : List (List Char)) : List Char := '[' :: (separated items ++ [']'])

def writeMember (member : String × List Char) : List Char := writeText member.1 ++ ':' :: member.2

def writeObject (members : List (String × List Char)) : List Char :=
  '\x7b' :: (separated (members.map writeMember) ++ ['\x7d'])

def writeTexts (texts : List String) : List Char := writeList (texts.map writeText)

end CommitSearch.Json
