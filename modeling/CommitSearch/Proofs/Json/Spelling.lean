import CommitSearch.Json.Token
import CommitSearch.Json.Writer
import Mathlib.Algebra.Group.Int.Defs
import Mathlib.Algebra.Group.Nat.Defs
import Mathlib.Data.List.Basic

/-!
# Tokens of written JSON

A written value spells its tokens wherever it stands in front of a comma, a colon, a closing bracket
or the end of the text. Texts of any characters come back as they were, and integers of sixty-four
bits with their value.
-/

namespace CommitSearch.Json

/-! ### Texts -/

/-- A piece of a text that stands for one character: that character, or a unit below the surrogates. -/
inductive Piece.Stands : Piece → Char → Prop
  | char (c : Char) : Stands (.char c) c
  | unit (c : Char) (low : c.toNat < 0xd800) : Stands (.unit c.toNat) c

theorem hexUnit_control (n : Nat) (h : n < 0x20) :
    hexUnit '0' '0' (hexDigit (n / 16)) (hexDigit n) = some n := by
  have hall : ((List.range 0x20).all fun n =>
      hexUnit '0' '0' (hexDigit (n / 16)) (hexDigit n) == some n) = true := by decide
  have hn := List.all_eq_true.1 hall n (List.mem_range.2 h)
  simpa using hn

/-- A character is escaped by a letter, by its number, or not at all. -/
theorem escapeChar_cases (c : Char) :
    (∃ e, escapeChar c = ['\\', e] ∧ unescape e = some c) ∨
      (c.toNat < 0x20 ∧
        escapeChar c = ['\\', 'u', '0', '0', hexDigit (c.toNat / 16), hexDigit c.toNat]) ∨
      (c ≠ '"' ∧ c ≠ '\\' ∧ ¬ c.toNat < 0x20 ∧ escapeChar c = [c]) := by
  unfold escapeChar
  by_cases hquote : c = '"'
  · exact .inl ⟨'"', by rw [if_pos hquote], by rw [hquote]; rfl⟩
  rw [if_neg hquote]
  by_cases hslash : c = '\\'
  · exact .inl ⟨'\\', by rw [if_pos hslash], by rw [hslash]; rfl⟩
  rw [if_neg hslash]
  by_cases hlow : c.toNat < 0x20
  · iterate 5
      split
      · next h => exact .inl ⟨_, rfl, by rw [h]; rfl⟩
    exact .inr (.inl ⟨hlow, rfl⟩)
  · have high : ∀ d : Char, d.toNat < 0x20 → c ≠ d := by
      rintro d hd rfl
      exact hlow hd
    rw [if_neg (high _ (by decide)), if_neg (high _ (by decide)), if_neg (high _ (by decide)),
      if_neg (high _ (by decide)), if_neg (high _ (by decide)), if_neg hlow]
    exact .inr (.inr ⟨hquote, hslash, hlow, rfl⟩)

theorem scanText_letter {e c : Char} (h : unescape e = some c) (rest : List Char) :
    scanText ('\\' :: e :: rest) = (scanText rest).cons (.char c) := by
  have hu : e ≠ 'u' := by
    rintro rfl
    cases h
  rw [scanText.eq_def]
  split <;> grind

theorem scanText_plain {c : Char} (hquote : c ≠ '"') (hslash : c ≠ '\\') (h : ¬ c.toNat < 0x20)
    (rest : List Char) : scanText (c :: rest) = (scanText rest).cons (.char c) := by
  rw [scanText.eq_def]
  split <;> grind

theorem scanText_escapeChar (c : Char) (rest : List Char) :
    ∃ p : Piece, p.Stands c ∧ scanText (escapeChar c ++ rest) = (scanText rest).cons p := by
  rcases escapeChar_cases c with ⟨e, he, hc⟩ | ⟨hlow, he⟩ | ⟨hquote, hslash, hhigh, he⟩
  · exact ⟨_, .char c, by rw [he]; exact scanText_letter hc rest⟩
  · refine ⟨_, .unit c (by omega), ?_⟩
    rw [he]
    simp only [List.cons_append, List.nil_append, scanText, hexUnit_control c.toNat hlow]
  · exact ⟨_, .char c, by rw [he]; exact scanText_plain hquote hslash hhigh rest⟩

theorem joinPieces_cons {p : Piece} {c : Char} (h : p.Stands c) (ending : TextEnd)
    (ps : List Piece) : joinPieces ending (p :: ps) = (joinPieces ending ps).map (c :: ·) := by
  cases h with
  | char => rw [joinPieces]
  | unit low =>
    have hlead : isLeading c.toNat = false := by
      simp only [isLeading, Bool.and_eq_false_iff, decide_eq_false_iff_not]
      omega
    have htrail : isTrailing c.toNat = false := by
      simp only [isTrailing, Bool.and_eq_false_iff, decide_eq_false_iff_not]
      omega
    have hc : Char.ofNat c.toNat = c := Char.ofNat_toNat c
    rcases ps with _ | ⟨_ | _, ps⟩ <;>
      simp only [joinPieces, hlead, htrail, hc, Bool.false_eq_true, if_false]

/-- A written text is scanned up to its end, and its pieces are its characters. -/
theorem scanText_written (cs rest : List Char) :
    ∃ ps, scanText (cs.flatMap escapeChar ++ '"' :: rest) = ⟨ps, .closed rest⟩ ∧
      joinPieces (.closed rest) ps = .ok cs := by
  induction cs with
  | nil => exact ⟨[], by simp [scanText], rfl⟩
  | cons c cs ih =>
    obtain ⟨ps, hscan, hjoin⟩ := ih
    obtain ⟨p, hp, hc⟩ := scanText_escapeChar c (cs.flatMap escapeChar ++ '"' :: rest)
    refine ⟨p :: ps, ?_, ?_⟩
    · rw [List.flatMap_cons, List.append_assoc, hc, hscan]
      rfl
    · rw [joinPieces_cons hp, hjoin]
      rfl

/-! ### Single values -/

/-- What can stand behind a value: a comma, a colon, a closing bracket, or nothing. -/
def FollowsValue (rest : List Char) : Prop :=
  ∀ c ∈ rest.head?, c = ',' ∨ c = ':' ∨ c = ']' ∨ c = '\x7d'

/-- A written value and its tokens. -/
def Spells (cs : List Char) (ts : List Token) : Prop :=
  ∀ rest, FollowsValue rest → tokens (cs ++ rest) = ts ++ tokens rest

theorem tokens_cons {c : Char} {rest : List Char} (h : isSpace c = false) :
    tokens (c :: rest) = (scanToken c rest).1 :: tokens (scanToken c rest).2 := by
  rw [tokens, if_neg (by simp [h])]

theorem spells_text (s : String) : Spells (writeText s) [.text (.ok s.toList)] := by
  intro rest _
  obtain ⟨ps, hscan, hjoin⟩ := scanText_written s.toList rest
  rw [writeText, List.cons_append, List.append_assoc, List.singleton_append,
    tokens_cons (by decide)]
  simp only [scanToken, scanTextToken, hscan, hjoin, List.singleton_append]

theorem spells_boolean (b : Bool) : Spells (writeBoolean b) [.boolean b] := by
  intro rest _
  cases b
  · show tokens ('f' :: 'a' :: 'l' :: 's' :: 'e' :: rest) = _
    rw [tokens_cons (by decide)]
    simp [scanToken, scanWord]
  · show tokens ('t' :: 'r' :: 'u' :: 'e' :: rest) = _
    rw [tokens_cons (by decide)]
    simp [scanToken, scanWord]

/-! ### Integers -/

theorem toDigits_head_ne_zero {n : Nat} (h : 0 < n) : (Nat.toDigits 10 n).head? ≠ some '0' := by
  induction n using Nat.strongRecOn with
  | _ n ih =>
    by_cases hlt : n < 10
    · rw [Nat.toDigits_of_lt_base hlt]
      have hall : ((List.range 10).all fun n => n == 0 || n.digitChar != '0') = true := by decide
      have hn := List.all_eq_true.1 hall n (List.mem_range.2 hlt)
      simp only [Bool.or_eq_true, beq_iff_eq, bne_iff_ne] at hn
      simpa using hn.resolve_left (by omega)
    · rw [Nat.toDigits_of_base_le (by decide) (by omega),
        List.head?_append_of_ne_nil _ Nat.toDigits_ne_nil]
      exact ih (n / 10) (by omega) (by omega)

theorem not_digit_of_follows {rest : List Char} (h : FollowsValue rest) :
    ∀ c ∈ rest.head?, c.isDigit = false ∧ c ≠ '.' ∧ c ≠ 'e' ∧ c ≠ 'E' := by
  intro c hc
  rcases h c hc with rfl | rfl | rfl | rfl <;> decide

theorem spanDigits_written {ds rest : List Char} (hd : ∀ c ∈ ds, c.isDigit = true)
    (hr : ∀ c ∈ rest.head?, c.isDigit = false) : spanDigits (ds ++ rest) = (ds, rest) := by
  have hstop : rest.takeWhile Char.isDigit = [] ∧ rest.dropWhile Char.isDigit = rest := by
    cases rest with
    | nil => exact ⟨rfl, rfl⟩
    | cons c rest =>
      have hc := hr c rfl
      simp [hc]
  rw [spanDigits, List.takeWhile_append_of_pos hd, List.dropWhile_append_of_pos hd, hstop.1,
    hstop.2, List.append_nil]

theorem scanNumeral_written (negative : Bool) (n : Nat) {rest : List Char}
    (h : FollowsValue rest) : scanNumeral negative (Nat.toDigits 10 n ++ rest) =
      .ok (⟨negative, Nat.toDigits 10 n, [], none⟩, rest) := by
  have hd : ∀ c ∈ Nat.toDigits 10 n, c.isDigit = true := fun _ =>
    Nat.isDigit_of_mem_toDigits (by decide) (by decide)
  have hr := not_digit_of_follows h
  have hwhole : scanWhole (Nat.toDigits 10 n ++ rest) = .ok (Nat.toDigits 10 n, rest) := by
    rw [scanWhole, spanDigits_written hd fun c hc => (hr c hc).1]
    dsimp only
    split
    · next he => exact absurd he Nat.toDigits_ne_nil
    · next he =>
      -- Only zero is written with a zero in front, and then alone.
      by_cases hn : n = 0
      · rw [hn, Nat.toDigits_zero] at he
        cases he
      · have hz := toDigits_head_ne_zero (Nat.pos_of_ne_zero hn)
        rw [he] at hz
        exact absurd rfl hz
    · rfl
  have hfraction : scanFraction rest = .ok ([], rest) := by
    unfold scanFraction
    split
    · exact absurd rfl (hr _ rfl).2.1
    · rfl
  have hexponent : scanExponent rest = .ok (none, rest) := by
    unfold scanExponent
    split
    · rw [if_neg (by rintro (rfl | rfl) <;> simpa using hr _ rfl)]
    · rfl
  rw [scanNumeral, hwhole]
  simp only [bind, Except.bind, hfraction, hexponent]
  rfl

def integerNumeral (i : Int) : Numeral := ⟨decide (i < 0), Nat.toDigits 10 i.natAbs, [], none⟩

theorem scanToken_digit {c : Char} (h : c.isDigit = true) (rest : List Char) :
    scanToken c rest = scanNumber false (c :: rest) := by
  unfold scanToken
  split <;> first | cases h | rw [if_pos h]

theorem spells_integer (i : Int) : Spells (writeInteger i) [.number (integerNumeral i)] := by
  intro rest h
  unfold writeInteger
  split
  · next hneg =>
    rw [List.cons_append, tokens_cons (by decide)]
    simp only [scanToken, scanNumber, scanNumeral_written true i.natAbs h]
    simp [integerNumeral, hneg]
  · next hneg =>
    obtain ⟨c, ds, hc⟩ := List.exists_cons_of_ne_nil (Nat.toDigits_ne_nil (n := i.natAbs) (b := 10))
    have hdigit : c.isDigit = true :=
      Nat.isDigit_of_mem_toDigits (b := 10) (n := i.natAbs) (by decide) (by decide) (by simp [hc])
    have hspace : isSpace c = false := by
      rw [Bool.eq_false_iff]
      intro hs
      simp only [isSpace, Bool.or_eq_true, decide_eq_true_eq] at hs
      rcases hs with ((rfl | rfl) | rfl) | rfl <;> cases hdigit
    rw [hc, List.cons_append, tokens_cons hspace, scanToken_digit hdigit, ← List.cons_append, ← hc]
    simp only [scanNumber, scanNumeral_written false i.natAbs h]
    simp [integerNumeral, hneg]

theorem value_integerNumeral {i : Int} (h0 : -2 ^ 63 ≤ i) (h1 : i < 2 ^ 64) :
    (integerNumeral i).value = .ok (.integer i) := by
  have hvalue : digitsValue (Nat.toDigits 10 i.natAbs) = i.natAbs :=
    Nat.ofDigitChars_ten_toDigits
  by_cases hneg : i < 0
  · have hb : 0 < i.natAbs ∧ i.natAbs ≤ Nat.pow 2 63 := by
      show 0 < i.natAbs ∧ i.natAbs ≤ 2 ^ 63
      omega
    have hi : -((i.natAbs : Nat) : Int) = i := by omega
    simp only [Numeral.value, integerNumeral, hvalue, hneg, decide_true, if_true, List.isEmpty_nil,
      Option.isNone_none, Bool.true_and, hb, hi]
  · have hb : i.natAbs < Nat.pow 2 64 := by
      show i.natAbs < 2 ^ 64
      omega
    have hi : ((i.natAbs : Nat) : Int) = i := by omega
    simp only [Numeral.value, integerNumeral, hvalue, hneg, decide_false, Bool.false_eq_true,
      if_false, List.isEmpty_nil, Option.isNone_none, Bool.true_and, hb, decide_true, if_true, hi]

/-! ### Lists and objects -/

/-- The tokens of values with commas between them. -/
def separatedTokens : List (List Token) → List Token
  | [] => []
  | [ts] => ts
  | ts :: us :: rest => ts ++ .comma :: separatedTokens (us :: rest)

def listTokens (items : List (List Token)) : List Token :=
  .listOpen :: (separatedTokens items ++ [.listClose])

def memberTokens (member : String × List Token) : List Token :=
  .text (.ok member.1.toList) :: .colon :: member.2

def objectTokens (members : List (String × List Token)) : List Token :=
  .objectOpen :: (separatedTokens (members.map memberTokens) ++ [.objectClose])

theorem follows_cons {c : Char} (h : c = ',' ∨ c = ':' ∨ c = ']' ∨ c = '\x7d') (rest : List Char) :
    FollowsValue (c :: rest) := by
  rintro d ⟨⟩
  exact h

theorem spells_separated {items : List (List Char)} {tokenLists : List (List Token)}
    (h : List.Forall₂ Spells items tokenLists) :
    Spells (separated items) (separatedTokens tokenLists) := by
  induction h with
  | nil =>
    intro rest _
    rfl
  | @cons x ts xs tss hx hxs ih =>
    cases hxs with
    | nil => exact hx
    | @cons y us ys uss hy hys =>
      intro rest hrest
      have hcomma : FollowsValue (',' :: (separated (y :: ys) ++ rest)) :=
        follows_cons (.inl rfl) _
      show tokens (x ++ ',' :: separated (y :: ys) ++ rest) = _
      rw [List.append_assoc, List.cons_append, hx _ hcomma, tokens_cons (by decide)]
      show ts ++ .comma :: tokens (separated (y :: ys) ++ rest) = _
      rw [ih rest hrest]
      simp [separatedTokens]

theorem spells_list {items : List (List Char)} {tokenLists : List (List Token)}
    (h : List.Forall₂ Spells items tokenLists) :
    Spells (writeList items) (listTokens tokenLists) := by
  intro rest _
  have hclose : FollowsValue (']' :: rest) := follows_cons (.inr (.inr (.inl rfl))) _
  rw [writeList, List.cons_append, List.append_assoc, tokens_cons (by decide)]
  show .listOpen :: tokens (separated items ++ ']' :: rest) = _
  rw [spells_separated h _ hclose, tokens_cons (by decide)]
  show .listOpen :: (separatedTokens tokenLists ++ .listClose :: tokens rest) = _
  simp [listTokens]

theorem spells_member {key : String} {cs : List Char} {ts : List Token} (h : Spells cs ts) :
    Spells (writeMember (key, cs)) (memberTokens (key, ts)) := by
  intro rest hrest
  have hcolon : FollowsValue (':' :: (cs ++ rest)) := follows_cons (.inr (.inl rfl)) _
  show tokens (writeText key ++ ':' :: cs ++ rest) = _
  rw [List.append_assoc, List.cons_append, spells_text key _ hcolon, tokens_cons (by decide)]
  show [.text (.ok key.toList)] ++ .colon :: tokens (cs ++ rest) = _
  rw [h rest hrest]
  rfl

/-- Members of objects with the same keys, one written and one as tokens. -/
def MemberSpells (member : String × List Char) (memberTokens : String × List Token) : Prop :=
  member.1 = memberTokens.1 ∧ Spells member.2 memberTokens.2

theorem spells_object {members : List (String × List Char)}
    {tokenMembers : List (String × List Token)}
    (h : List.Forall₂ MemberSpells members tokenMembers) :
    Spells (writeObject members) (objectTokens tokenMembers) := by
  have hm : List.Forall₂ Spells (members.map writeMember) (tokenMembers.map memberTokens) := by
    induction h with
    | nil => exact .nil
    | @cons m t ms ts hmt _ ih =>
      obtain ⟨key, cs⟩ := m
      obtain ⟨key', us⟩ := t
      obtain ⟨rfl, hs⟩ : key = key' ∧ Spells cs us := hmt
      exact .cons (spells_member hs) ih
  intro rest _
  have hclose : FollowsValue ('\x7d' :: rest) := follows_cons (.inr (.inr (.inr rfl))) _
  rw [writeObject, List.cons_append, List.append_assoc, tokens_cons (by decide)]
  show .objectOpen :: tokens (separated (members.map writeMember) ++ '\x7d' :: rest) = _
  rw [spells_separated hm _ hclose, tokens_cons (by decide)]
  show .objectOpen :: (separatedTokens (tokenMembers.map memberTokens) ++
    .objectClose :: tokens rest) = _
  simp [objectTokens]

theorem Spells.tokens_eq {cs : List Char} {ts : List Token} (h : Spells cs ts) :
    tokens cs = ts := by
  have hnil : FollowsValue [] := by
    rintro c ⟨⟩
  have hcs := h [] hnil
  rw [List.append_nil, tokens, List.append_nil] at hcs
  exact hcs

end CommitSearch.Json
