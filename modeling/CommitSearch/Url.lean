import CommitSearch.Url.Host

/-!
# Locations of servers

A URL begins with its scheme and a colon. Two slashes behind the colon open the part that names the
server: who asks, before the last at sign, then the host, then the port behind a colon. In URLs of
the web this part has to be there, behind any number of slashes, and a backslash is a slash; in
those of files it is a host alone. Blanks and control characters around a URL are no part of it.
-/

namespace CommitSearch

/-- Why a text is no URL. -/
inductive UrlFault
  | relative
  | host (fault : Url.HostFault)
  | port
deriving DecidableEq, Repr

def UrlFault.message : UrlFault → String
  | relative => "relative URL without a base"
  | host fault => fault.message
  | port => "invalid port number"

/-- What a URL says about a server. -/
structure Url where
  scheme : String
  host : Option Url.Host
  port : Option Nat
deriving DecidableEq, Repr

namespace Url

def isMargin (c : Char) : Bool := c.toNat ≤ 0x20

def isIgnored (c : Char) : Bool := c = '\t' || c = '\n' || c = '\r'

def significant (s : String) : List Char :=
  let cs := ((s.toList.dropWhile isMargin).reverse.dropWhile isMargin).reverse
  cs.filter fun c => !isIgnored c

/-- Whether a character can stand in a scheme behind its first letter. -/
def isSchemeChar (c : Char) : Bool := c.isAlphanum || c = '+' || c = '-' || c = '.'

/-- The scheme in small letters, and what stands behind the colon. -/
def splitScheme (cs : List Char) : Option (String × List Char) :=
  let scheme := cs.takeWhile isSchemeChar
  match scheme, cs.dropWhile isSchemeChar with
  | first :: _, ':' :: rest =>
    if first.isAlpha then some (String.ofList (scheme.map Char.toLower), rest) else none
  | _, _ => none

/-! ### Ports -/

def maxPort : Nat := 65535

/-- Reads a port with the colon before it; there can be none behind the colon. A backslash ends
it. -/
def readPort (cs : List Char) : Except UrlFault (Option Nat) :=
  let digits := (cs.drop 1).takeWhile (· != '\\')
  if digits.isEmpty then .ok none
  else match Text.readNumeral 10 digits with
    | some port => if port ≤ maxPort then .ok (some port) else .error .port
    | none => .error .port

/-! ### Servers -/

/-- Whether a character is a slash in URLs of the web. -/
def isSlash (c : Char) : Bool := c = '/' || c = '\\'

def isServerEnd (isWeb : Bool) (c : Char) : Bool :=
  c = '/' || c = '?' || c = '#' || (isWeb && c = '\\')

/-- Who asks, if there is an at sign, and what stands behind the last one. -/
def splitUser (cs : List Char) : Option (List Char) × List Char :=
  let place := (cs.reverse.takeWhile (· != '@')).reverse
  if place.length = cs.length then (none, cs)
  else (some (cs.take (cs.length - place.length - 1)), place)

/-- The host and what stands behind it; a colon between brackets belongs to the host. -/
def splitHost : Bool → List Char → List Char × List Char
  | _, [] => ([], [])
  | inBrackets, c :: rest =>
    if c = ':' && !inBrackets then ([], c :: rest)
    else
      let (host, behind) := splitHost (c = '[' || (inBrackets && c != ']')) rest
      (c :: host, behind)

/-- Whether nobody asks: a name and a password that are both empty are nobody. -/
def isNobody : Option (List Char) → Bool
  | none | some [] | some [':'] => true
  | _ => false

/-- Reads what stands behind the slashes. A URL of the web has a host. In others it can be missing,
but who asks and a port need one, and so does an at sign at the start when something follows. -/
def readServer (isWeb : Bool) (scheme : String) (cs : List Char) : Except UrlFault Url := do
  let server := cs.takeWhile fun c => !isServerEnd isWeb c
  let (user, place) := splitUser server
  let (host, portPart) := splitHost false place
  if host.isEmpty then
    let isAlone := user ≠ some [] || server.length = cs.length
    if !isWeb && portPart.isEmpty && isNobody user && isAlone then return ⟨scheme, none, none⟩
    else throw (.host .empty)
  let host ← (Host.read isWeb host).mapError .host
  return ⟨scheme, some host, ← readPort portPart⟩

/-! ### URLs -/

def webSchemes : List String := ["http", "https", "ws", "wss", "ftp"]

def isDrive : List Char → Bool
  | [letter, mark] => letter.isAlpha && (mark = ':' || mark = '|')
  | _ => false

/-- Reads what stands behind the colon of a URL of a file. The host that is at hand is none. -/
def readFile (cs : List Char) : Except UrlFault Url :=
  let server := (cs.drop 2).takeWhile fun c => !isServerEnd true c
  let isLocal := !(cs.take 2).all isSlash || server.isEmpty || isDrive server
  if isLocal then .ok ⟨"file", none, none⟩
  else match Host.read true server with
    | .error fault => .error (.host fault)
    | .ok host => .ok ⟨"file", if host = .name "localhost" then none else some host, none⟩

def read (s : String) : Except UrlFault Url :=
  match splitScheme (significant s) with
  | none => .error .relative
  | some (scheme, rest) =>
    if webSchemes.contains scheme then readServer true scheme (rest.dropWhile isSlash)
    else if scheme = "file" then readFile rest
    else match rest with
      | '/' :: '/' :: rest => readServer false scheme rest
      | _ => .ok ⟨scheme, none, none⟩

end Url
end CommitSearch
