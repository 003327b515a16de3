import CommitSearch.Cache.Server
import Mathlib.Algebra.GroupWithZero.Nat
import Mathlib.Order.OrderIsoNat

/-!
# Deletions in rounds

A server is asked for the keys of a pattern in rounds. In each the scan goes on from the cursor that
the round before was given, and the keys that it brings, if any, are deleted before the next one. The
scan is over with cursor zero and not with a page without keys. Main statement: what is sent is such a
row of rounds, which ends with cursor zero and the sum in 64 bits of the numbers of keys deleted, or
with the first command that fails and an error named after it; and unless the rounds go on forever it
does end.
-/

namespace CommitSearch

/-- Commands in the order in which they are sent, each with its answer. -/
abbrev Talk := List (Command × Reply)

namespace Server

variable {σ : Type} {server : Server σ} {s t u : σ} {pattern : String}

/-- A server in a state answers the commands of a talk as the talk says and is then in another state. -/
def Answers (server : Server σ) : σ → Talk → σ → Prop
  | s, [], t => t = s
  | s, (command, reply) :: rest, t => ∃ u, server s command = (reply, u) ∧ server.Answers u rest t

theorem answers_append {a b : Talk} :
    server.Answers s (a ++ b) t ↔ ∃ u, server.Answers s a u ∧ server.Answers u b t := by
  induction a generalizing s with
  | nil => exact ⟨fun h => ⟨s, rfl, h⟩, fun ⟨u, hu, h⟩ => hu ▸ h⟩
  | cons exchange rest ih =>
    simp only [List.cons_append, Answers, ih]
    constructor
    · rintro ⟨v, hv, u, hrest, hb⟩
      exact ⟨u, ⟨v, hv, hrest⟩, hb⟩
    · rintro ⟨u, ⟨v, hv, hrest⟩, hb⟩
      exact ⟨v, hv, u, hrest, hb⟩

/-! ### Rounds -/

/-- The deletion of some keys that is answered with a number. Nothing is sent if there are none. -/
def deletion (keys : List String) (count : UInt64) : Talk :=
  if keys = [] then [] else [(.delete keys, .removed count)]

/-- A round: the cursor with which it asks, the cursor and the keys that it is given, and the number of
keys that are deleted of these. -/
structure Round where
  cursor : UInt64
  next : UInt64
  keys : List String
  count : UInt64
  none_of_nil : keys = [] → count = 0

namespace Round

def talk (pattern : String) (r : Round) : Talk :=
  (.scan r.cursor pattern, .page r.next r.keys) :: deletion r.keys r.count

def talkOf (pattern : String) (rounds : List Round) : Talk := rounds.flatMap (talk pattern)

/-- The number of keys that rounds delete, by what they are answered with. -/
def total (rounds : List Round) : Nat := (rounds.map fun r => r.count.toNat).sum

/-- Rounds that begin with a cursor and leave the scan at another one: each asks with the cursor that
the one before was given, and none is given cursor zero. -/
def Lead : UInt64 → List Round → UInt64 → Prop
  | cursor, [], last => last = cursor
  | cursor, r :: rest, last => r.cursor = cursor ∧ r.next ≠ 0 ∧ Lead r.next rest last

end Round

open Round

/-- What a failure is in terms of the cache: a refusal keeps what the server says about it. -/
def IsFaultOf (reply : Reply) (fault : CacheFault) : Prop :=
  ∀ detail, reply = .refused detail → fault = .signalled detail

/-- The talks that a scan from a cursor may come to, each with its result: the sum of all numbers in 64
bits, or an error. -/
inductive Outcome (pattern : String) (cursor : UInt64) : Talk → Except Error UInt64 → Prop
  | finished {rounds : List Round} {last : Round} (lead : Lead cursor rounds last.cursor)
      (ended : last.next = 0) :
      Outcome pattern cursor (talkOf pattern (rounds ++ [last]))
        (.ok (.ofNat (total (rounds ++ [last]))))
  | scanFailed {rounds : List Round} {asked : UInt64} {reply : Reply} {fault : CacheFault}
      (lead : Lead cursor rounds asked) (failed : ∀ next keys, reply ≠ .page next keys)
      (why : IsFaultOf reply fault) :
      Outcome pattern cursor (talkOf pattern rounds ++ [(.scan asked pattern, reply)])
        (.error (.cache "scan" fault))
  | deletionFailed {rounds : List Round} {asked next : UInt64} {keys : List String} {reply : Reply}
      {fault : CacheFault} (lead : Lead cursor rounds asked) (some : keys ≠ [])
      (failed : ∀ count, reply ≠ .removed count) (why : IsFaultOf reply fault) :
      Outcome pattern cursor
        (talkOf pattern rounds ++ [(.scan asked pattern, .page next keys), (.delete keys, reply)])
        (.error (.cache "delete" fault))

theorem ofNat_total_cons (r : Round) (rounds : List Round) :
    UInt64.ofNat (total (r :: rounds)) = r.count + .ofNat (total rounds) := by
  rw [total, List.map_cons, List.sum_cons, UInt64.ofNat_add, UInt64.ofNat_toNat, total]

theorem Outcome.cons {r : Round} {talk : Talk} {result : Except Error UInt64} (goesOn : r.next ≠ 0)
    (rest : Outcome pattern r.next talk result) :
    Outcome pattern r.cursor (r.talk pattern ++ talk) (result.map (r.count + ·)) := by
  cases rest with
  | @finished rounds last lead ended =>
    rw [Except.map, ← ofNat_total_cons]
    exact @Outcome.finished pattern _ (r :: rounds) last ⟨rfl, goesOn, lead⟩ ended
  | @scanFailed rounds asked reply fault lead failed why =>
    rw [← List.append_assoc]
    exact @Outcome.scanFailed pattern _ (r :: rounds) asked _ _ ⟨rfl, goesOn, lead⟩ failed why
  | @deletionFailed rounds asked next keys reply fault lead some failed why =>
    rw [← List.append_assoc]
    exact @Outcome.deletionFailed pattern _ (r :: rounds) asked _ _ _ _ ⟨rfl, goesOn, lead⟩ some
      failed why

/-! ### What is sent -/

theorem exists_fault (operation : String) (reply : Reply) :
    ∃ fault, replyError operation reply = .cache operation fault ∧ IsFaultOf reply fault := by
  cases reply with
  | refused detail =>
    exact ⟨.signalled detail, rfl, fun _ h => congrArg CacheFault.signalled (Reply.refused.inj h)⟩
  | _ => exact ⟨_, rfl, fun _ h => nomatch h⟩

theorem deleteBatch_of_failed {keys : List String} {reply : Reply} (some : keys ≠ [])
    (hreply : server s (.delete keys) = (reply, t)) (failed : ∀ count, reply ≠ .removed count) :
    server.deleteBatch s keys = ⟨.error (replyError "delete" reply), [.delete keys], t⟩ := by
  have hbatch : keys.isEmpty = false := by simpa using some
  cases reply with
  | removed count => exact absurd rfl (failed count)
  | _ => simp [deleteBatch, hbatch, hreply]

/-- A batch of keys is deleted with one command and counted, or the command fails. -/
theorem deleteBatch_cases (server : Server σ) (s : σ) (keys : List String) :
    (∃ count t, (keys = [] → count = 0) ∧ server.Answers s (deletion keys count) t ∧
      server.deleteBatch s keys = ⟨.ok count, (deletion keys count).map Prod.fst, t⟩) ∨
    ∃ reply fault t, keys ≠ [] ∧ (∀ count, reply ≠ .removed count) ∧ IsFaultOf reply fault ∧
      server s (.delete keys) = (reply, t) ∧
      server.deleteBatch s keys = ⟨.error (.cache "delete" fault), [.delete keys], t⟩ := by
  by_cases hnone : keys = []
  · refine .inl ⟨0, s, fun _ => rfl, ?_, ?_⟩
    · rw [deletion, if_pos hnone]
      rfl
    · rw [deleteBatch, deletion, if_pos hnone, hnone]
      rfl
  · obtain ⟨reply, t, hreply⟩ : ∃ reply t, server s (.delete keys) = (reply, t) := ⟨_, _, rfl⟩
    by_cases hremoved : ∃ count, reply = .removed count
    · obtain ⟨count, rfl⟩ := hremoved
      refine .inl ⟨count, t, fun h => absurd h hnone, ?_, ?_⟩
      · rw [deletion, if_neg hnone]
        exact ⟨t, hreply, rfl⟩
      · simp [deleteBatch, hreply, deletion, hnone]
    · have failed := not_exists.1 hremoved
      obtain ⟨fault, herror, why⟩ := exists_fault "delete" reply
      refine .inr ⟨reply, fault, t, hnone, failed, why, hreply, ?_⟩
      rw [deleteBatch_of_failed hnone hreply failed, herror]

theorem deleteFrom_of_failed {cursor : UInt64} {reply : Reply}
    (hreply : server s (.scan cursor pattern) = (reply, t))
    (failed : ∀ next keys, reply ≠ .page next keys) (fuel : Nat) (removed : UInt64) :
    server.deleteFrom pattern (fuel + 1) cursor removed s =
      some ⟨.error (replyError "scan" reply), [.scan cursor pattern], t⟩ := by
  cases reply with
  | page next keys => exact absurd rfl (failed next keys)
  | _ => simp [deleteFrom, hreply]

/-- The first round succeeds and is the last one if it is given cursor zero, or a command fails. -/
theorem deleteFrom_cases (server : Server σ) (pattern : String) (cursor : UInt64) (s : σ) :
    (∃ (r : Round) (t : σ), r.cursor = cursor ∧ server.Answers s (r.talk pattern) t ∧
      ∀ fuel removed, server.deleteFrom pattern (fuel + 1) cursor removed s =
        if r.next = 0 then some ⟨.ok (removed + r.count), (r.talk pattern).map Prod.fst, t⟩
        else (server.deleteFrom pattern fuel r.next (removed + r.count) t).map fun rest =>
          { rest with sent := (r.talk pattern).map Prod.fst ++ rest.sent }) ∨
    ∃ talk e t, server.Answers s talk t ∧ Outcome pattern cursor talk (.error e) ∧
      ∀ fuel removed, server.deleteFrom pattern (fuel + 1) cursor removed s =
        some ⟨.error e, talk.map Prod.fst, t⟩ := by
  obtain ⟨reply, u, hscan⟩ : ∃ reply u, server s (.scan cursor pattern) = (reply, u) := ⟨_, _, rfl⟩
  by_cases hpage : ∃ next keys, reply = .page next keys
  · obtain ⟨next, keys, rfl⟩ := hpage
    rcases server.deleteBatch_cases u keys with
      ⟨count, t, hnone, hanswers, hbatch⟩ | ⟨reply, fault, t, hsome, failed, why, hreply, hbatch⟩
    · refine .inl ⟨⟨cursor, next, keys, count, hnone⟩, t, rfl, ⟨u, hscan, hanswers⟩,
        fun fuel removed => ?_⟩
      simp [deleteFrom, hscan, hbatch, Round.talk]
    · refine .inr ⟨[(.scan cursor pattern, .page next keys), (.delete keys, reply)], _, t,
        ⟨u, hscan, t, hreply, rfl⟩, @Outcome.deletionFailed _ _ [] _ _ _ _ _ rfl hsome failed why,
        fun fuel removed => ?_⟩
      simp [deleteFrom, hscan, hbatch]
  · have failed : ∀ next keys, reply ≠ .page next keys := fun next keys h => hpage ⟨next, keys, h⟩
    obtain ⟨fault, herror, why⟩ := exists_fault "scan" reply
    refine .inr ⟨[(.scan cursor pattern, reply)], _, u, ⟨u, hscan, rfl⟩,
      @Outcome.scanFailed _ _ [] _ _ _ rfl failed why, fun fuel removed => ?_⟩
    rw [deleteFrom_of_failed hscan failed, herror]
    rfl

/-- Whatever the scan comes to is told by the talk of the commands that were sent. -/
theorem deleteFrom_talk {fuel : Nat} {cursor removed : UInt64} {x : Exchange σ UInt64}
    (h : server.deleteFrom pattern fuel cursor removed s = some x) :
    ∃ talk result, server.Answers s talk x.server ∧ x.sent = talk.map Prod.fst ∧
      Outcome pattern cursor talk result ∧ x.result = result.map (removed + ·) := by
  -- On the rounds that are left, with what was deleted so far.
  induction fuel generalizing cursor removed s x with
  | zero => cases h
  | succ fuel ih =>
    rcases server.deleteFrom_cases pattern cursor s with
      ⟨r, t, rfl, hanswers, hround⟩ | ⟨talk, e, t, hanswers, houtcome, hfailed⟩
    · rw [hround] at h
      split at h
      · next ended =>
        obtain rfl := Option.some.inj h
        refine ⟨r.talk pattern, .ok r.count, hanswers, rfl, ?_, rfl⟩
        simpa [talkOf, total] using @Outcome.finished pattern _ [] r rfl ended
      · next goesOn =>
        obtain ⟨rest, hrest, rfl⟩ := Option.map_eq_some_iff.1 h
        obtain ⟨talk, result, htalk, hsent, houtcome, hresult⟩ := ih hrest
        refine ⟨r.talk pattern ++ talk, result.map (r.count + ·),
          answers_append.2 ⟨t, hanswers, htalk⟩, ?_, houtcome.cons goesOn, ?_⟩
        · rw [hsent, List.map_append]
        · rw [hresult]
          cases result with
          | error e => rfl
          | ok n => exact congrArg Except.ok (UInt64.add_assoc _ _ _)
    · rw [hfailed] at h
      obtain rfl := Option.some.inj h
      exact ⟨talk, .error e, hanswers, rfl, houtcome, rfl⟩

theorem exists_talk {fuel : Nat} {x : Exchange σ UInt64}
    (h : server.deleteFrom pattern fuel 0 0 s = some x) :
    ∃ talk, server.Answers s talk x.server ∧ x.sent = talk.map Prod.fst ∧
      Outcome pattern 0 talk x.result := by
  obtain ⟨talk, result, hanswers, hsent, houtcome, hresult⟩ := deleteFrom_talk h
  have hsame : x.result = result := by
    rw [hresult]
    cases result with
    | error e => rfl
    | ok n => exact congrArg Except.ok (UInt64.zero_add n)
  exact ⟨talk, hanswers, hsent, hsame ▸ houtcome⟩

-- Three deletions with the number 2 ^ 63 - 1 each.
example :
    let server : Server Nat := fun sent command =>
      match command with
      | .delete _ => (.removed 9223372036854775807, sent + 1)
      | _ => (.page (if sent < 2 then 1 else 0) ["k"], sent)
    (server.deleteFrom "k" 3 0 0 0).map (·.result.toOption) = some (some 9223372036854775805) := by
  decide

/-! ### When it ends -/

/-- A round after which the scan goes on with another cursor and the server as the round leaves it. -/
inductive GoesOn (server : Server σ) (pattern : String) : UInt64 × σ → UInt64 × σ → Prop
  | round {r : Round} {s t : σ} (talk : server.Answers s (r.talk pattern) t) (goesOn : r.next ≠ 0) :
      GoesOn server pattern (r.cursor, s) (r.next, t)

/-- The scan is answered with cursor zero at some time, or a command fails: there is no row of rounds
without an end. -/
def ScanEnds (server : Server σ) (pattern : String) (s : σ) : Prop :=
  ∀ row : Nat → UInt64 × σ, row 0 = (0, s) → ∃ n, ¬ server.GoesOn pattern (row n) (row (n + 1))

theorem deleteFrom_mono {fuel fuel' : Nat} {cursor removed : UInt64} {x : Exchange σ UInt64}
    (h : server.deleteFrom pattern fuel cursor removed s = some x) (more : fuel ≤ fuel') :
    server.deleteFrom pattern fuel' cursor removed s = some x := by
  induction fuel generalizing fuel' cursor removed s x with
  | zero => cases h
  | succ fuel ih =>
    obtain ⟨fuel', rfl⟩ : ∃ k, fuel' = k + 1 := ⟨fuel' - 1, by omega⟩
    rcases server.deleteFrom_cases pattern cursor s with
      ⟨r, t, rfl, -, hround⟩ | ⟨talk, e, t, -, -, hfailed⟩
    · rw [hround] at h ⊢
      split at h
      · next ended => rwa [if_pos ended]
      · next goesOn =>
        obtain ⟨rest, hrest, rfl⟩ := Option.map_eq_some_iff.1 h
        rw [if_neg goesOn, ih hrest (Nat.le_of_succ_le_succ more)]
        rfl
    · rw [hfailed] at h ⊢
      exact h

theorem exists_fuel (ends : server.ScanEnds pattern s) :
    ∃ x enough, ∀ fuel, enough ≤ fuel → server.deleteFrom pattern fuel 0 0 s = some x := by
  have hacc : Acc (fun next now => server.GoesOn pattern now next) (0, s) := by
    by_contra hnot
    obtain ⟨row, hfirst, hrow⟩ := not_acc_iff_exists_descending_chain.1 hnot
    obtain ⟨n, hn⟩ := ends row hfirst
    exact hn (hrow n)
  -- On the rounds that may follow.
  have key : ∀ now, Acc (fun next now => server.GoesOn pattern now next) now →
      ∀ removed, ∃ fuel x, server.deleteFrom pattern fuel now.1 removed now.2 = some x := by
    intro now hnow
    induction hnow with
    | intro now _ ih =>
      intro removed
      rcases server.deleteFrom_cases pattern now.1 now.2 with
        ⟨r, t, hcursor, hanswers, hround⟩ | ⟨talk, e, t, -, -, hfailed⟩
      · by_cases ended : r.next = 0
        · exact ⟨1, _, (hround 0 removed).trans (if_pos ended)⟩
        · have hgoes : server.GoesOn pattern now (r.next, t) := by
            have hnow : now = (r.cursor, now.2) := by rw [hcursor]
            rw [hnow]
            exact .round hanswers ended
          obtain ⟨fuel, x, hx⟩ := ih _ hgoes (removed + r.count)
          refine ⟨fuel + 1, ?_⟩
          rw [hround, if_neg ended, hx]
          exact ⟨_, rfl⟩
      · exact ⟨1, _, hfailed 0 removed⟩
  obtain ⟨fuel, x, hx⟩ := key _ hacc 0
  exact ⟨x, fuel, fun fuel' more => deleteFrom_mono hx more⟩

end Server

/-! ### Given scans -/

namespace ScriptedServer

open Server

variable {s t : ScriptedServer} {pattern : String}

theorem pages_of_round {r : Round} (talk : answer.Answers s (r.talk pattern) t)
    (goesOn : r.next ≠ 0) : t.pages.length < s.pages.length := by
  obtain ⟨u, hscan, hrest⟩ := talk
  have hpages : u.pages.length < s.pages.length := by
    unfold answer at hscan
    split at hscan
    · cases hscan
    · dsimp only at hscan
      split at hscan
      · simp only [Prod.mk.injEq, Reply.page.injEq] at hscan
        exact absurd hscan.1.1.symm goesOn
      · next cursor keys pages hsome =>
        simp only [Prod.mk.injEq] at hscan
        rw [← hscan.2, hsome]
        exact Nat.lt_succ_self _
  by_cases hnone : r.keys = []
  · rw [deletion, if_pos hnone] at hrest
    rwa [show t = u from hrest]
  · rw [deletion, if_neg hnone] at hrest
    obtain ⟨v, hdelete, rfl⟩ := hrest
    unfold answer at hdelete
    split at hdelete
    · cases hdelete
    · simp only [Prod.mk.injEq] at hdelete
      rwa [← hdelete.2]

/-- The given scans are enough for the rounds. -/
theorem exists_deleteFrom {fuel : Nat} {cursor removed : UInt64} (enough : s.pages.length < fuel) :
    ∃ x, answer.deleteFrom pattern fuel cursor removed s = some x := by
  induction fuel generalizing cursor removed s with
  | zero => cases enough
  | succ fuel ih =>
    rcases answer.deleteFrom_cases pattern cursor s with
      ⟨r, t, rfl, hanswers, hround⟩ | ⟨talk, e, t, -, -, hfailed⟩
    · rw [hround]
      split
      · exact ⟨_, rfl⟩
      · next goesOn =>
        have hfewer := pages_of_round hanswers goesOn
        have henough : t.pages.length < fuel := by omega
        obtain ⟨x, hx⟩ := @ih t r.next (removed + r.count) henough
        rw [hx]
        exact ⟨_, rfl⟩
    · exact ⟨_, hfailed fuel removed⟩

/-- Where the scans are given, the deletion that runs is never cut short: what it sends is a whole talk. -/
theorem deletePattern_talk (s : ScriptedServer) (pattern : String) :
    ∃ talk result, answer.Answers s talk (s.deletePattern pattern).server ∧
      (s.deletePattern pattern).sent = talk.map Prod.fst ∧ Outcome pattern 0 talk result ∧
      (s.deletePattern pattern).result = result.map UInt64.toNat := by
  obtain ⟨x, hx⟩ := @exists_deleteFrom s pattern _ 0 0 (Nat.lt_succ_self s.pages.length)
  obtain ⟨talk, hanswers, hsent, houtcome⟩ := exists_talk hx
  rw [deletePattern, hx]
  exact ⟨talk, x.result, hanswers, hsent, houtcome, rfl⟩

end ScriptedServer
end CommitSearch
