/-!
# Bytes as text

UTF-8 is read from any bytes: every longest run of bytes that begins a character and does not end it
becomes one replacement character, and so does every byte that cannot begin a character.
-/

namespace CommitSearch.Text

def replacement : Char := '\ufffd'

/-- A character that is begun: the bits so far, how many bytes are missing, and the range of the
next byte. -/
structure BrokenChar where
  bits : Nat
  missing : Nat
  low : Nat
  high : Nat
deriving DecidableEq, Repr

/-- What a byte is at the start of a character. -/
inductive LeadingByte
  | whole (c : Char)
  | begun (b : BrokenChar)
  | stray
deriving DecidableEq, Repr

/-- The first byte of a character tells its length. The second one of some is restricted, so that no
character has two spellings and none lies beyond the last code point or among the surrogates. -/
def leadingByte (b : Nat) : LeadingByte :=
  if b < 0x80 then .whole (Char.ofNat b)
  else if b < 0xc2 then .stray
  else if b < 0xe0 then .begun ⟨b - 0xc0, 1, 0x80, 0xbf⟩
  else if b = 0xe0 then .begun ⟨0, 2, 0xa0, 0xbf⟩
  else if b = 0xed then .begun ⟨0xd, 2, 0x80, 0x9f⟩
  else if b < 0xf0 then .begun ⟨b - 0xe0, 2, 0x80, 0xbf⟩
  else if b = 0xf0 then .begun ⟨0, 3, 0x90, 0xbf⟩
  else if b < 0xf4 then .begun ⟨b - 0xf0, 3, 0x80, 0xbf⟩
  else if b = 0xf4 then .begun ⟨4, 3, 0x80, 0x8f⟩
  else .stray

/-- The characters that bytes spell behind one that may have begun. -/
def readBytes : Option BrokenChar → List UInt8 → List Char
  | none, [] => []
  | some _, [] => [replacement]
  | none, b :: rest =>
    match leadingByte b.toNat with
    | .whole c => c :: readBytes none rest
    | .begun p => readBytes (some p) rest
    | .stray => replacement :: readBytes none rest
  | some p, b :: rest =>
    if p.low ≤ b.toNat ∧ b.toNat ≤ p.high then
      let bits := 64 * p.bits + (b.toNat - 0x80)
      if p.missing ≤ 1 then Char.ofNat bits :: readBytes none rest
      else readBytes (some ⟨bits, p.missing - 1, 0x80, 0xbf⟩) rest
    else match leadingByte b.toNat with
      | .whole c => replacement :: c :: readBytes none rest
      | .begun p => replacement :: readBytes (some p) rest
      | .stray => replacement :: replacement :: readBytes none rest

def ofUtf8 (bytes : List UInt8) : String := String.ofList (readBytes none bytes)

end CommitSearch.Text
