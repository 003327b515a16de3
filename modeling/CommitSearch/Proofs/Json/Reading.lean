import CommitSearch.Json.Reader
import CommitSearch.Proofs.Json.Spelling

/-!
# Reading tokens of written JSON

A reader that takes the value of each item from its tokens takes the list of all values from the
tokens of the list, and likewise the members of an object.
-/

namespace CommitSearch

/-- What has come out of two computations in sequence has come out of the second. -/
theorem ok_of_bind {ε α β : Type} {x : Except ε α} {f : α → Except ε β} {b : β}
    (h : x >>= f = .ok b) : ∃ a, x = .ok a ∧ f a = .ok b := by
  cases x with
  | error e => cases h
  | ok a => exact ⟨a, rfl, h⟩

namespace Json

variable {α σ : Type}

/-- A reader takes a value from its tokens, whatever comes behind them. -/
def Yields (reader : Reader α) (ts : List Token) (x : α) : Prop :=
  ∀ rest, reader (ts ++ rest) = .ok (x, rest)

/-- Tokens with a first one that closes no list. -/
def OpensValue (ts : List Token) : Prop := ∃ t more, ts = t :: more ∧ t ≠ .listClose

theorem separatedTokens_cons (ts : List Token) (rest : List (List Token)) :
    separatedTokens (ts :: rest) = ts ++ rest.flatMap fun us => .comma :: us := by
  induction rest generalizing ts with
  | nil => simp [separatedTokens]
  | cons us rest ih => rw [separatedTokens, ih, List.flatMap_cons, List.cons_append]

/-! ### Lists -/

theorem nextItem_first {ts : List Token} (h : OpensValue ts) (rest : List Token) :
    nextItem true (ts ++ rest) = .ok (some (ts ++ rest)) := by
  obtain ⟨t, more, rfl, ht⟩ := h
  rw [List.cons_append]
  unfold nextItem
  split
  · next he => cases he
  · next he =>
    cases he
    exact absurd rfl ht
  · next he =>
    cases he
    rfl

theorem nextItem_comma {ts : List Token} (h : OpensValue ts) (rest : List Token) :
    nextItem false (.comma :: (ts ++ rest)) = .ok (some (ts ++ rest)) := by
  obtain ⟨t, more, rfl, ht⟩ := h
  cases t with
  | listClose => exact absurd rfl ht
  | _ => rfl

theorem readItems_after {item : Reader α} {tokenLists : List (List Token)} {xs : List α}
    (h : List.Forall₂ (fun ts x => OpensValue ts ∧ Yields item ts x) tokenLists xs)
    {fuel index : Nat} (hfuel : tokenLists.length < fuel) (hindex : index ≠ 0)
    (rest : List Token) :
    readItems (fun _ => item) fuel index
      (tokenLists.flatMap (fun ts => .comma :: ts) ++ .listClose :: rest) = .ok (xs, rest) := by
  induction h generalizing fuel index with
  | nil =>
    obtain ⟨fuel, rfl⟩ := Nat.exists_eq_succ_of_ne_zero (Nat.ne_of_gt hfuel)
    rfl
  | @cons ts x tss xs hx _ ih =>
    obtain ⟨fuel, rfl⟩ := Nat.exists_eq_succ_of_ne_zero (Nat.ne_zero_of_lt hfuel)
    have hlater : decide (index = 0) = false := decide_eq_false hindex
    rw [List.flatMap_cons, List.cons_append, List.cons_append, List.append_assoc, readItems, hlater,
      nextItem_comma hx.1]
    simp only [bind, Except.bind, hx.2 _]
    rw [ih (by simpa using hfuel) (Nat.succ_ne_zero index)]
    rfl

theorem length_le_flatMap (tokenLists : List (List Token)) :
    tokenLists.length ≤ (tokenLists.flatMap fun ts => Token.comma :: ts).length := by
  induction tokenLists with
  | nil => exact Nat.le_refl _
  | cons ts rest ih =>
    simp only [List.flatMap_cons, List.length_cons, List.length_append]
    omega

theorem yields_list {item : Reader α} {tokenLists : List (List Token)} {xs : List α}
    (h : List.Forall₂ (fun ts x => OpensValue ts ∧ Yields item ts x) tokenLists xs) :
    Yields (readList fun _ => item) (listTokens tokenLists) xs := by
  intro rest
  rw [listTokens, List.cons_append, readList, List.append_assoc, List.singleton_append]
  cases h with
  | nil => rfl
  | @cons ts x tss xs hx hxs =>
    have hlen := length_le_flatMap tss
    have hfirst : decide (0 = 0) = true := rfl
    rw [separatedTokens_cons, List.append_assoc, readItems, hfirst, nextItem_first hx.1]
    simp only [bind, Except.bind, hx.2 _]
    rw [readItems_after hxs (by simp only [List.length_append, List.length_cons]; omega) (by decide)]
    rfl

/-! ### Objects -/

/-- Reading members one after the other leads from one state to another. -/
inductive Fills (member : σ → String → Reader σ) : σ → List (String × List Token) → σ → Prop
  | done (s : σ) : Fills member s [] s
  | member {s t u : σ} {key : String} {ts : List Token} {rest : List (String × List Token)}
      (head : Yields (member s key) (.colon :: ts) t) (tail : Fills member t rest u) :
      Fills member s ((key, ts) :: rest) u

theorem nextKey_first (key : String) (ts : List Token) :
    nextKey true (.text (.ok key.toList) :: ts) = .ok (some (key, ts)) := by
  simp [nextKey, nextKey.key, Except.map]

theorem nextKey_comma (key : String) (ts : List Token) :
    nextKey false (.comma :: .text (.ok key.toList) :: ts) = .ok (some (key, ts)) := by
  simp [nextKey, nextKey.key, Except.map]

theorem readMembers_after {member : σ → String → Reader σ} {s t : σ}
    {members : List (String × List Token)} (h : Fills member s members t) {fuel : Nat}
    (hfuel : members.length < fuel) (rest : List Token) :
    readMembers member fuel false s
      (members.flatMap (fun m => .comma :: memberTokens m) ++ .objectClose :: rest) =
      .ok (t, rest) := by
  induction h generalizing fuel with
  | done s =>
    obtain ⟨fuel, rfl⟩ := Nat.exists_eq_succ_of_ne_zero (Nat.ne_of_gt hfuel)
    rfl
  | @member s t u key ts members head tail ih =>
    obtain ⟨fuel, rfl⟩ := Nat.exists_eq_succ_of_ne_zero (Nat.ne_zero_of_lt hfuel)
    rw [List.flatMap_cons, memberTokens, List.cons_append, List.cons_append, List.cons_append,
      List.cons_append, readMembers, nextKey_comma]
    have hhead := head (members.flatMap (fun m => .comma :: memberTokens m) ++ .objectClose :: rest)
    simp only [bind, Except.bind, List.append_assoc, hhead]
    exact ih (by simpa using hfuel)

theorem readMembers_object {member : σ → String → Reader σ} {s t : σ}
    {members : List (String × List Token)} (h : Fills member s members t) {fuel : Nat}
    (hfuel : members.length < fuel) (rest : List Token) :
    readMembers member fuel true s
      (separatedTokens (members.map memberTokens) ++ .objectClose :: rest) = .ok (t, rest) := by
  cases h with
  | done s =>
    obtain ⟨fuel, rfl⟩ := Nat.exists_eq_succ_of_ne_zero (Nat.ne_of_gt hfuel)
    rfl
  | @member s t u key ts members head tail =>
    obtain ⟨fuel, rfl⟩ := Nat.exists_eq_succ_of_ne_zero (Nat.ne_zero_of_lt hfuel)
    rw [List.map_cons, separatedTokens_cons, List.flatMap_map, memberTokens, List.cons_append,
      List.cons_append, List.cons_append, List.cons_append, readMembers, nextKey_first]
    have hhead := head (members.flatMap (fun m => .comma :: memberTokens m) ++ .objectClose :: rest)
    rw [List.cons_append] at hhead
    simp only [bind, Except.bind, List.append_assoc, hhead]
    exact readMembers_after tail (by simpa using hfuel) rest

end Json
end CommitSearch
