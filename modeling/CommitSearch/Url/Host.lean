import CommitSearch.Text.Alphanumeric
import CommitSearch.Text.Fold
import CommitSearch.Text.Mark
import CommitSearch.Text.Numeral
import CommitSearch.Text.Utf8
import CommitSearch.Url.Address
import CommitSearch.Url.Punycode

/-!
# Hosts

A host is a name or an address. In URLs of the web a name is that of a domain: it may be escaped,
its case does not matter, and one that ends with a number is an address. In others a name is taken
as it stands. An address between brackets can stand in both.
-/

namespace CommitSearch.Url

open CommitSearch.Text

inductive Host
  | name (text : String)
  | address4 (bytes : Nat)
  | address6 (pieces : List Nat)
deriving DecidableEq, Repr

/-- Why a text is no host. -/
inductive HostFault
  | empty
  | name
  | domain
  | address4
  | address6
deriving DecidableEq, Repr

def HostFault.message : HostFault → String
  | empty => "empty host"
  | name => "invalid domain character"
  | domain => "invalid international domain name"
  | address4 => "invalid IPv4 address"
  | address6 => "invalid IPv6 address"

def isForbiddenInHost (c : Char) : Bool := "\x00 #/:<>?@[\\]^|".toList.contains c

/-- Whether a character can stand in a domain name. Beyond ASCII these are letters, digits and
marks. -/
def isDomainChar (c : Char) : Bool :=
  if c.toNat < 0x80 then 0x20 < c.toNat && c != '\x7f' && c != '%' && !isForbiddenInHost c
  else isAlphanumeric c || isMark c

/-- Whether a label of a domain name in small letters can stand there: one that is spelt in ASCII
has to hold more than that, all of it in small letters. -/
def isLabel : List Char → Bool
  | 'x' :: 'n' :: '-' :: '-' :: spelt =>
    match decodeLabel spelt with
    | some label =>
      label.any (0x80 ≤ ·.toNat) && label.all isDomainChar && lowerChars label = label
    | none => false
  | label => label.all isDomainChar

/-- Reads a host of the web, which is a domain name or an address of four bytes. -/
def readDomain (cs : List Char) : Except HostFault Host :=
  let name := lowerChars (ofUtf8 (percentBytes String.utf8EncodeChar 0 cs)).toList
  if name.isEmpty then .error .empty
  else if !(fields (· == '.') name).all isLabel then .error .domain
  else if endsInNumber name then
    match readAddress4 name with
    | some bytes => .ok (.address4 bytes)
    | none => .error .address4
  else .ok (.name (String.ofList name))

def readBracketed (cs : List Char) : Except HostFault Host :=
  if cs.getLast? ≠ some ']' then .error .address6
  else match readAddress6 cs.dropLast with
    | some pieces => .ok (.address6 pieces)
    | none => .error .address6

/-- Reads a host, which is that of a URL of the web or not. -/
def Host.read (isWeb : Bool) (cs : List Char) : Except HostFault Host :=
  match cs with
  | '[' :: rest => readBracketed rest
  | _ =>
    if isWeb then readDomain cs
    else if cs.any isForbiddenInHost then .error .name
    else .ok (.name (String.ofList cs))

end CommitSearch.Url
