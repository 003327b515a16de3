import CommitSearch.Query.Statement
import Mathlib.Data.List.Forall2

/-!
# What a statement says

The text of a statement is known by the kinds of the predicates and nothing else, its placeholders
count its parameters, and every parameter holds what its predicate was given. The words of a
predicate are held as one text, from which they can be read back.
-/

namespace CommitSearch

open CommitSearch.Calendar

namespace Statement

/-! ### Words as one text -/

/-- The rest of a quoted word, and the words that follow it behind bars. -/
def readRest : List Char → Option (List Char × List String)
  | [] => none
  | ['\''] => some ([], [])
  | '\\' :: '\\' :: rest => (readRest rest).map fun r => ('\\' :: r.1, r.2)
  | '\'' :: '\'' :: rest => (readRest rest).map fun r => ('\'' :: r.1, r.2)
  | '\'' :: ' ' :: '|' :: ' ' :: '\'' :: rest =>
    (readRest rest).map fun r => ([], String.ofList r.1 :: r.2)
  | c :: rest =>
    if c = '\\' ∨ c = '\'' then none else (readRest rest).map fun r => (c :: r.1, r.2)

/-- The words of a text in which each stands between quotation marks. -/
def readWords : List Char → Option (List String)
  | [] => some []
  | '\'' :: rest => (readRest rest).map fun r => String.ofList r.1 :: r.2
  | _ => none

theorem readRest_quoteChar (c : Char) (rest : List Char) :
    readRest (quoteChar c ++ rest) = (readRest rest).map fun r => (c :: r.1, r.2) := by
  unfold quoteChar
  split
  · next hc => simp [readRest, hc]
  · next hc =>
    split
    · next hc => simp [readRest, hc]
    · next hc' => simp [readRest, hc, hc']

theorem readRest_quoted (cs rest : List Char) :
    readRest (cs.flatMap quoteChar ++ rest) = (readRest rest).map fun r => (cs ++ r.1, r.2) := by
  induction cs with
  | nil => simp
  | cons c cs ih =>
    rw [List.flatMap_cons, List.append_assoc, readRest_quoteChar, ih, Option.map_map]
    rfl

theorem readRest_words (w : String) (ws : List String) :
    ∃ rest, (disjunction (w :: ws)).toList = '\'' :: rest ∧
      readRest rest = some (w.toList, ws) := by
  induction ws generalizing w with
  | nil =>
    refine ⟨w.toList.flatMap quoteChar ++ ['\''], by simp [disjunction, quoteWord], ?_⟩
    simp [readRest_quoted, readRest]
  | cons v ws ih =>
    obtain ⟨rest, htext, hread⟩ := ih v
    refine ⟨w.toList.flatMap quoteChar ++ '\'' :: ' ' :: '|' :: ' ' :: '\'' :: rest, ?_, ?_⟩
    · rw [disjunction_cons_cons, htext]
      simp [quoteWord]
    · rw [readRest_quoted, readRest, hread]
      simp

theorem readWords_disjunction (words : List String) :
    readWords (disjunction words).toList = some words := by
  cases words with
  | nil => rfl
  | cons w ws =>
    obtain ⟨rest, htext, hread⟩ := readRest_words w ws
    rw [htext, readWords, hread]
    simp

/-! ### Placeholders -/

/-- The numbers behind the dollar signs of a text, in the order of the text. -/
def placeholders : List Char → List String
  | [] => []
  | c :: rest =>
    if c = '$' then String.ofList (rest.takeWhile Char.isDigit) :: placeholders rest
    else placeholders rest

theorem placeholders_append {cs : List Char} (h : '$' ∉ cs) (rest : List Char) :
    placeholders (cs ++ rest) = placeholders rest := by
  induction cs with
  | nil => rfl
  | cons c cs ih =>
    have hc : c ≠ '$' := fun he => h (he ▸ List.mem_cons_self)
    have hcs : '$' ∉ cs := fun hm => h (List.mem_cons_of_mem _ hm)
    rw [List.cons_append, placeholders, if_neg hc, ih hcs]

theorem isDigit_of_mem_toString {n : Nat} {c : Char} (h : c ∈ (toString n).toList) :
    c.isDigit = true := by
  have hc : c ∈ Nat.toDigits 10 n := by simpa [Nat.toString_eq_ofList_toDigits] using h
  exact Nat.isDigit_of_mem_toDigits (by decide) (by decide) hc

theorem placeholders_number (n : Nat) {rest : List Char}
    (h : rest.takeWhile Char.isDigit = []) :
    placeholders ('$' :: ((toString n).toList ++ rest)) = toString n :: placeholders rest := by
  have hdigits : ∀ c ∈ (toString n).toList, c.isDigit = true := fun c hc =>
    isDigit_of_mem_toString hc
  have hdollar : '$' ∉ (toString n).toList := by
    intro hm
    exact absurd (hdigits _ hm) (by decide)
  rw [placeholders, if_pos rfl, List.takeWhile_append_of_pos hdigits, h, List.append_nil,
    String.ofList_toList, placeholders_append hdollar]

theorem dollar_not_mem_fragment (p : Predicate) : '$' ∉ (fragment p).toList := by
  cases p with
  | anyOf key values => cases key <;> simp [fragment, FilterKey.name]
  | _ => simp [fragment]

theorem placeholders_conditions (number : Nat) (ps : List Predicate) (rest : List Char) :
    placeholders ((conditions number ps).toList ++ rest) =
      (List.range' number ps.length).map toString ++ placeholders rest := by
  induction ps generalizing number with
  | nil => simp [conditions]
  | cons p ps ih =>
    have hsplit : (conditions number (p :: ps)).toList ++ rest =
        ("\n  AND ".toList ++ (fragment p).toList) ++
          '$' :: ((toString number).toList ++
            ([')'] ++ ((conditions (number + 1) ps).toList ++ rest))) := by
      simp [conditions]
    have hstart : '$' ∉ "\n  AND ".toList ++ (fragment p).toList := by
      have hp := dollar_not_mem_fragment p
      simp [hp]
    rw [hsplit, placeholders_append hstart, placeholders_number _ (by rfl),
      placeholders_append (by decide), ih]
    rfl

theorem not_mem_intercalate {c : Char} {s : String} {l : List String} (hs : c ∉ s.toList)
    (hl : ∀ t ∈ l, c ∉ t.toList) : c ∉ (s.intercalate l).toList := by
  induction l with
  | nil => simp
  | cons t l ih =>
    have ht := hl t List.mem_cons_self
    have hrest := ih fun u hu => hl u (List.mem_cons_of_mem _ hu)
    cases l with
    | nil => simpa using ht
    | cons u l =>
      rw [String.intercalate_cons_cons, String.toList_append, String.toList_append]
      simp only [List.mem_append, not_or]
      exact ⟨⟨ht, hs⟩, hrest⟩

theorem dollar_not_mem_head : '$' ∉ head.toList := not_mem_intercalate (by decide) (by simp)

theorem text_ofQuery (q : Query) :
    (ofQuery q).text.toList = head.toList ++ ((conditions 1 q.predicates).toList ++
      ("\nORDER BY\n  date DESC\nLIMIT ".toList ++
        '$' :: ((toString (q.predicates.length + 1)).toList ++ []))) := by
  simp [ofQuery]

theorem placeholders_ofQuery (q : Query) :
    placeholders (ofQuery q).text.toList =
      (List.range' 1 (q.predicates.length + 1)).map toString := by
  rw [text_ofQuery, placeholders_append dollar_not_mem_head, placeholders_conditions,
    placeholders_append (by decide), placeholders_number _ (by rfl), List.range'_1_concat,
    List.map_append, Nat.add_comm 1]
  rfl

/-! ### Texts and the kinds of predicates -/

/-- What a predicate is about, without the values that it compares with. -/
inductive Kind
  | words
  | filter (key : FilterKey)
  | before
  | after
deriving DecidableEq, Repr

def kind : Predicate → Kind
  | .matchesAny _ => .words
  | .anyOf key _ => .filter key
  | .before _ => .before
  | .after _ => .after

theorem fragment_eq_iff (p p' : Predicate) : fragment p = fragment p' ↔ kind p = kind p' := by
  cases p with
  | anyOf key values =>
    cases p' with
    | anyOf key' values' => cases key <;> cases key' <;> simp [fragment, kind, FilterKey.name]
    | _ => cases key <;> simp [fragment, kind, FilterKey.name]
  | _ =>
    cases p' with
    | anyOf key' values' => cases key' <;> simp [fragment, kind, FilterKey.name]
    | _ => simp [fragment, kind]

theorem conditions_congr {ps ps' : List Predicate} (h : ps.map kind = ps'.map kind)
    (number : Nat) : conditions number ps = conditions number ps' := by
  induction ps generalizing ps' number with
  | nil =>
    have hnil : ps' = [] := by simpa using h.symm
    rw [hnil]
  | cons p ps ih =>
    cases ps' with
    | nil => simp at h
    | cons p' ps' =>
      simp only [List.map_cons, List.cons.injEq] at h
      rw [conditions, conditions, (fragment_eq_iff p p').2 h.1, ih h.2]

theorem split_at_dollar {x x' y y' : List Char} (hx : '$' ∉ x) (hx' : '$' ∉ x')
    (h : x ++ '$' :: y = x' ++ '$' :: y') : x = x' ∧ y = y' := by
  induction x generalizing x' with
  | nil =>
    cases x' with
    | nil => exact ⟨rfl, (List.cons.inj h).2⟩
    | cons c' x' => exact absurd ((List.cons.inj h).1 ▸ List.mem_cons_self) hx'
  | cons c x ih =>
    cases x' with
    | nil => exact absurd ((List.cons.inj h).1 ▸ List.mem_cons_self) hx
    | cons c' x' =>
      simp only [List.cons_append, List.cons.injEq] at h
      have hrest := ih (fun hm => hx (List.mem_cons_of_mem _ hm))
        (fun hm => hx' (List.mem_cons_of_mem _ hm)) h.2
      exact ⟨by rw [h.1, hrest.1], hrest.2⟩

theorem kinds_of_conditions {number : Nat} {ps ps' : List Predicate} {x x' : List Char}
    (h : (conditions number ps).toList ++ '\n' :: 'O' :: x =
      (conditions number ps').toList ++ '\n' :: 'O' :: x') : ps.map kind = ps'.map kind := by
  induction ps generalizing ps' number with
  | nil =>
    cases ps' with
    | nil => rfl
    | cons p' ps' => simp [conditions] at h
  | cons p ps ih =>
    cases ps' with
    | nil => simp [conditions] at h
    | cons p' ps' =>
      -- Both texts have the same number behind the dollar sign, so it can be left out with it.
      have hdollar : "$".toList = ['$'] := rfl
      simp only [conditions, String.toList_append, List.append_assoc, List.append_cancel_left_eq,
        hdollar, List.cons_append, List.nil_append] at h
      have hparts := split_at_dollar (dollar_not_mem_fragment p) (dollar_not_mem_fragment p') h
      have hrest := List.append_cancel_left (List.append_cancel_left hparts.2)
      have hkind := (fragment_eq_iff p p').1 (String.toList_inj.1 hparts.1)
      rw [List.map_cons, List.map_cons, hkind, ih hrest]

theorem text_eq_iff (q q' : Query) : (ofQuery q).text = (ofQuery q').text ↔
    q.predicates.map kind = q'.predicates.map kind := by
  refine ⟨fun h => ?_, fun h => ?_⟩
  · have hchars := congrArg String.toList h
    rw [text_ofQuery, text_ofQuery] at hchars
    exact kinds_of_conditions (List.append_cancel_left hchars)
  · have hlength : q.predicates.length = q'.predicates.length := by
      simpa using congrArg List.length h
    simp only [ofQuery, conditions_congr h, hlength]

/-! ### Parameters -/

/-- A parameter holds what a predicate compares with. -/
inductive Holds : Predicate → Parameter → Prop
  | words {words : List String} {text : String} (read : readWords text.toList = some words) :
      Holds (.matchesAny words) (.text text)
  | values (key : FilterKey) (values : List String) : Holds (.anyOf key values) (.texts values)
  | before (bound : Instant) : Holds (.before bound) (.timestamp bound)
  | after (bound : Instant) : Holds (.after bound) (.timestamp bound)

theorem holds_parameter (p : Predicate) : Holds p (parameter p) := by
  cases p with
  | matchesAny words => exact .words (readWords_disjunction words)
  | anyOf key values => exact .values key values
  | before bound => exact .before bound
  | after bound => exact .after bound

theorem Holds.unique {p p' : Predicate} {value : Parameter} (h : Holds p value)
    (h' : Holds p' value) (hkind : kind p = kind p') : p = p' := by
  cases h with
  | words hread =>
    cases h' with
    | words hread' =>
      have hwords := Option.some.inj (hread.symm.trans hread')
      rw [hwords]
  | values key values =>
    cases h' with
    | values key' values' =>
      have hkey : key = key' := by simpa [kind] using hkind
      rw [hkey]
  | before bound =>
    cases h' with
    | before => rfl
    | after => cases hkind
  | after bound =>
    cases h' with
    | before => cases hkind
    | after => rfl

theorem predicates_inj {ps ps' : List Predicate} (hkinds : ps.map kind = ps'.map kind)
    (h : ps.map parameter = ps'.map parameter) : ps = ps' := by
  induction ps generalizing ps' with
  | nil => simpa using hkinds.symm
  | cons p ps ih =>
    cases ps' with
    | nil => simp at hkinds
    | cons p' ps' =>
      simp only [List.map_cons, List.cons.injEq] at hkinds h
      have hhold : Holds p' (parameter p) := h.1 ▸ holds_parameter p'
      rw [(holds_parameter p).unique hhold hkinds.1, ih hkinds.2 h.2]

theorem ofQuery_inj {q q' : Query} (h : ofQuery q = ofQuery q') : q = q' := by
  have hkinds := (text_eq_iff q q').1 (congrArg Statement.text h)
  have hparameters : q.predicates.map parameter ++ [.integer q.limit] =
      q'.predicates.map parameter ++ [.integer q'.limit] := congrArg Statement.parameters h
  have hparts := List.append_inj' hparameters rfl
  have hpredicates := predicates_inj hkinds hparts.1
  have hlimit : q.limit = q'.limit := by
    have hinteger : (q.limit : Int) = q'.limit := by simpa using hparts.2
    omega
  cases q
  cases q'
  simp_all

/-! ### Statements -/

/-- A statement has one parameter for each predicate, holding what it compares with, and one for the
limit, and its placeholders count them. Its text is that of every query with the same kinds of
predicates, and together with the parameters it is that of no other query. -/
theorem statement_carries (q : Query) :
    (ofQuery q).parameters.length = q.predicates.length + 1 ∧
      placeholders (ofQuery q).text.toList =
        (List.range' 1 (ofQuery q).parameters.length).map toString ∧
      (∃ carried, List.Forall₂ Holds q.predicates carried ∧
        (ofQuery q).parameters = carried ++ [.integer q.limit]) ∧
      ∀ q' : Query,
        ((ofQuery q).text = (ofQuery q').text ↔
          q.predicates.map kind = q'.predicates.map kind) ∧
        (ofQuery q = ofQuery q' ↔ q = q') := by
  have hlength : (ofQuery q).parameters.length = q.predicates.length + 1 := by simp [ofQuery]
  have hcarried : List.Forall₂ Holds q.predicates (q.predicates.map parameter) :=
    List.forall₂_map_right_iff.2 (List.forall₂_same.2 fun p _ => holds_parameter p)
  refine ⟨hlength, ?_, ⟨_, hcarried, rfl⟩, fun q' => ⟨text_eq_iff q q', ofQuery_inj, ?_⟩⟩
  · rw [hlength, placeholders_ofQuery]
  · intro h
    rw [h]

end Statement
end CommitSearch
