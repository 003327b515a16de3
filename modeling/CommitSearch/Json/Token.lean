import CommitSearch.Json.Literal

/-!
# Tokens of JSON texts

A text is cut into tokens up to the first that is broken off. Since every reader stops there,
nothing behind it matters. A broken token carries its faults with it, because they come to light
only when a reader gets that far, and they depend on whether the value is read or skipped.
-/

namespace CommitSearch.Json

/-- A token. The content of a text can be at fault although its end is found. -/
inductive Token
  | listOpen
  | listClose
  | objectOpen
  | objectClose
  | comma
  | colon
  | null
  | boolean (value : Bool)
  | number (n : Numeral)
  | text (content : Except Fault (List Char))
  | brokenText (faults : Break)
  | brokenValue (faults : Break)
  | stray
deriving Repr

def isSpace (c : Char) : Bool := c = ' ' || c = '\n' || c = '\t' || c = '\r'

/-- The fault of a word that is not continued as it should be, for the rest of the text and the
missing letters. -/
def wordFault : List Char → List Char → Fault
  | [], _ => .endOfText .value
  | c :: rest, d :: missing => if c = d then wordFault rest missing else .literalExpected
  | _ :: _, [] => .literalExpected

/-- The token of one of the three words, from behind its first letter, and the rest. -/
def scanWord (missing : List Char) (token : Token) (rest : List Char) : Token × List Char :=
  if missing.isPrefixOf rest then (token, rest.drop missing.length)
  else
    let f := wordFault rest missing
    (.brokenValue ⟨f, f⟩, [])

def scanNumber (negative : Bool) (cs : List Char) : Token × List Char :=
  match scanNumeral negative cs with
  | .ok (n, rest) => (.number n, rest)
  | .error b => (.brokenValue b, [])

/-- The token of a text, from behind its opening mark, and the rest. -/
def scanTextToken (cs : List Char) : Token × List Char :=
  let scan := scanText cs
  let content := joinPieces scan.ending scan.pieces
  match scan.ending with
  | .closed rest => (.text content, rest)
  | ending =>
    let skipping := ending.fault.getD .invalidEscape
    match content with
    | .ok _ => (.brokenText ⟨skipping, skipping⟩, [])
    | .error f => (.brokenText ⟨f, skipping⟩, [])

def scanToken (c : Char) (rest : List Char) : Token × List Char :=
  match c with
  | '[' => (.listOpen, rest)
  | ']' => (.listClose, rest)
  | '\x7b' => (.objectOpen, rest)
  | '\x7d' => (.objectClose, rest)
  | ',' => (.comma, rest)
  | ':' => (.colon, rest)
  | 'n' => scanWord ['u', 'l', 'l'] .null rest
  | 't' => scanWord ['r', 'u', 'e'] (.boolean true) rest
  | 'f' => scanWord ['a', 'l', 's', 'e'] (.boolean false) rest
  | '"' => scanTextToken rest
  | '-' => scanNumber true rest
  | c => if c.isDigit then scanNumber false (c :: rest) else (.stray, [])

theorem spanDigits_length (cs : List Char) :
    (spanDigits cs).1.length + (spanDigits cs).2.length = cs.length := by
  simp only [spanDigits, ← List.length_append, List.takeWhile_append_dropWhile]

theorem scanWhole_length {cs digits rest : List Char} (h : scanWhole cs = .ok (digits, rest)) :
    rest.length < cs.length := by
  have hs := spanDigits_length cs
  simp only [scanWhole] at h
  split at h
  · cases h
  · cases h
  · next hne _ =>
    cases h
    have : (spanDigits cs).1.length ≠ 0 := by simpa using hne
    omega

theorem scanFraction_length {cs digits rest : List Char}
    (h : scanFraction cs = .ok (digits, rest)) : rest.length ≤ cs.length := by
  unfold scanFraction at h
  split at h
  · next more =>
    have hs := spanDigits_length more
    simp only at h
    split at h
    · cases h
    · cases h
      simp only [List.length_cons]
      omega
  · cases h
    exact Nat.le_refl _

theorem scanSign_length (cs : List Char) : (scanSign cs).2.length ≤ cs.length := by
  unfold scanSign
  split <;> simp

theorem scanExponent_length {cs rest : List Char} {e : Option (Bool × List Char)}
    (h : scanExponent cs = .ok (e, rest)) : rest.length ≤ cs.length := by
  unfold scanExponent at h
  split at h
  · next c more =>
    split at h
    · have hsign := scanSign_length more
      have hspan := spanDigits_length (scanSign more).2
      simp only at h
      split at h
      · cases h
      · cases h
        simp only [List.length_cons]
        omega
    · cases h
      exact Nat.le_refl _
  · cases h
    exact Nat.le_refl _

theorem scanNumeral_length {negative : Bool} {cs rest : List Char} {n : Numeral}
    (h : scanNumeral negative cs = .ok (n, rest)) : rest.length < cs.length := by
  simp only [scanNumeral, bind, Except.bind] at h
  split at h
  · cases h
  · next whole hwhole =>
    split at h
    · cases h
    · next fraction hfraction =>
      split at h
      · cases h
      · next exponent hexponent =>
        cases h
        have h1 := scanWhole_length hwhole
        have h2 := scanFraction_length hfraction
        have h3 := scanExponent_length hexponent
        omega

theorem scanWord_length (missing : List Char) (token : Token) (rest : List Char) :
    (scanWord missing token rest).2.length ≤ rest.length := by
  unfold scanWord
  split <;> simp

theorem scanTextToken_length (cs : List Char) : (scanTextToken cs).2.length ≤ cs.length := by
  simp only [scanTextToken]
  split
  · next h => exact Nat.le_of_lt (scanText_closed_length h)
  · split <;> simp

theorem scanNumber_length (negative : Bool) (cs : List Char) (h : cs ≠ []) :
    (scanNumber negative cs).2.length < cs.length := by
  unfold scanNumber
  split
  · next hn => exact scanNumeral_length hn
  · exact List.length_pos_iff.2 h

/-- A token takes at least the character with which it begins. -/
theorem scanToken_length (c : Char) (rest : List Char) :
    (scanToken c rest).2.length ≤ rest.length := by
  have hnum : (scanNumber false (c :: rest)).2.length ≤ rest.length := by
    have := scanNumber_length false (c :: rest) (by simp)
    simp only [List.length_cons] at this
    omega
  have hneg : (scanNumber true rest).2.length ≤ rest.length := by
    by_cases h : rest = []
    · subst h; decide
    · exact Nat.le_of_lt (scanNumber_length true rest h)
  unfold scanToken
  split <;> first
    | exact Nat.le_refl _
    | exact scanWord_length _ _ _
    | exact scanTextToken_length _
    | exact hneg
    | (split <;> simp [hnum])

def tokens (cs : List Char) : List Token :=
  match cs with
  | [] => []
  | c :: rest =>
    if isSpace c then tokens rest
    else
      have := scanToken_length c rest
      (scanToken c rest).1 :: tokens (scanToken c rest).2
termination_by cs.length

end CommitSearch.Json
