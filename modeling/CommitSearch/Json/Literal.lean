import CommitSearch.Json.Numeral
import CommitSearch.Text.Numeral

/-!
# Texts in JSON

A text between quotation marks is scanned once into its characters and its hexadecimal units, up to
the closing mark or the first thing that is wrong. One who skips the text needs no more than where
it ends; one who reads it joins the units, which are those of UTF-16, into characters.
-/

namespace CommitSearch.Json

/-- A part of a text: a character, or a unit given by four hexadecimal digits. -/
inductive Piece
  | char (c : Char)
  | unit (n : Nat)
deriving DecidableEq, Repr

/-- How a text ends: at its closing mark, before the rest of the input, or broken off. -/
inductive TextEnd
  | closed (rest : List Char)
  | endOfText
  | controlCharacter
  | badEscape
  | badUnit
deriving DecidableEq, Repr

/-- A scanned text: its parts and how it ends. -/
structure Scan where
  pieces : List Piece
  ending : TextEnd
deriving DecidableEq, Repr

def Scan.cons (p : Piece) (s : Scan) : Scan := ⟨p :: s.pieces, s.ending⟩

@[simp] theorem Scan.ending_cons (p : Piece) (s : Scan) : (s.cons p).ending = s.ending := rfl

@[simp] theorem Scan.pieces_cons (p : Piece) (s : Scan) : (s.cons p).pieces = p :: s.pieces := rfl

def hexUnit (a b c d : Char) : Option Nat := do
  let a ← Text.hexValue a
  let b ← Text.hexValue b
  let c ← Text.hexValue c
  let d ← Text.hexValue d
  return ((a * 16 + b) * 16 + c) * 16 + d

def unescape : Char → Option Char
  | '"' => some '"'
  | '\\' => some '\\'
  | '/' => some '/'
  | 'b' => some '\x08'
  | 'f' => some '\x0c'
  | 'n' => some '\n'
  | 'r' => some '\r'
  | 't' => some '\t'
  | _ => none

def byteCount (cs : List Char) : Nat := cs.foldr (fun c n => c.utf8Size + n) 0

/-- Scans a text from behind its opening mark. Four bytes have to follow the start of a unit before
they are looked at. -/
def scanText : List Char → Scan
  | [] => ⟨[], .endOfText⟩
  | '"' :: rest => ⟨[], .closed rest⟩
  | '\\' :: 'u' :: a :: b :: c :: d :: rest =>
    match hexUnit a b c d with
    | some n => (scanText rest).cons (.unit n)
    | none => ⟨[], .badUnit⟩
  | '\\' :: 'u' :: rest => ⟨[], if 4 ≤ byteCount rest then .badUnit else .endOfText⟩
  | ['\\'] => ⟨[], .endOfText⟩
  | '\\' :: e :: rest =>
    match unescape e with
    | some c => (scanText rest).cons (.char c)
    | none => ⟨[], .badEscape⟩
  | c :: rest =>
    if c.toNat < 0x20 then ⟨[], .controlCharacter⟩ else (scanText rest).cons (.char c)

def TextEnd.fault : TextEnd → Option Fault
  | .closed _ => none
  | .endOfText => some (.endOfText .text)
  | .controlCharacter => some .controlCharacter
  | .badEscape | .badUnit => some .invalidEscape

def isLeading (n : Nat) : Bool := 0xd800 ≤ n && n < 0xdc00

def isTrailing (n : Nat) : Bool := 0xdc00 ≤ n && n < 0xe000

def pairChar (first second : Nat) : Char :=
  Char.ofNat (0x10000 + (first - 0xd800) * 0x400 + (second - 0xdc00))

/-- The fault of a leading surrogate behind which a text ends. -/
def TextEnd.faultBehindLeading : TextEnd → Fault
  | .endOfText => .endOfText .text
  | .badUnit => .invalidEscape
  | .closed _ | .controlCharacter | .badEscape => .unpairedSurrogate

/-- Joins the pieces of a text that ends in the given way into characters. -/
def joinPieces (ending : TextEnd) : List Piece → Except Fault (List Char)
  | [] => match ending.fault with
    | some f => .error f
    | none => .ok []
  | .char c :: rest => (joinPieces ending rest).map (c :: ·)
  | [.unit n] =>
    if isTrailing n then .error .loneSurrogate
    else if isLeading n then .error ending.faultBehindLeading
    else (joinPieces ending []).map (Char.ofNat n :: ·)
  | .unit n :: .char c :: rest =>
    if isTrailing n then .error .loneSurrogate
    else if isLeading n then .error .unpairedSurrogate
    else (joinPieces ending (.char c :: rest)).map (Char.ofNat n :: ·)
  | .unit n :: .unit m :: rest =>
    if isTrailing n then .error .loneSurrogate
    else if isLeading n then
      if isTrailing m then (joinPieces ending rest).map (pairChar n m :: ·)
      else .error .loneSurrogate
    else (joinPieces ending (.unit m :: rest)).map (Char.ofNat n :: ·)

/-- The rest behind a closed text is shorter than what the text was scanned from. -/
theorem scanText_closed_length {cs rest : List Char} (h : (scanText cs).ending = .closed rest) :
    rest.length < cs.length := by
  fun_induction scanText cs <;> simp_all <;> grind

end CommitSearch.Json
