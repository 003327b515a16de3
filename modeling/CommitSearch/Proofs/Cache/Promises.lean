import CommitSearch.Cache.Memory
import CommitSearch.Proofs.Cache.Rounds
import Mathlib.Data.Finset.Card
import Mathlib.Data.Finset.SDiff

/-!
# Promises of a cache server

While a deletion asks for the keys of a pattern in rounds, others set and remove keys of the server.
What the server promises of its scans is that one from cursor zero to cursor zero brings every key of
the pattern that is there all the time, in any page and any number of times. A server on shelves keeps
this promise.
-/

namespace CommitSearch

/-! ### Keys in the course of time -/

/-- What happens to the keys of a server: somebody sets one, somebody else removes one or it expires,
or the deletion at hand removes some. -/
inductive KeyAct
  | set (key : String)
  | drop (key : String)
  | delete (keys : List String)
deriving DecidableEq, Repr

namespace KeyAct

def isForeign : KeyAct → Bool
  | delete _ => false
  | _ => true

def Removes (key : String) : KeyAct → Prop
  | set _ => False
  | drop dropped => dropped = key
  | delete keys => key ∈ keys

/-- The keys that are there after an act. -/
def apply (present : Finset String) : KeyAct → Finset String
  | set key => insert key present
  | drop key => present.erase key
  | delete keys => present \ keys.toFinset

end KeyAct

/-- The keys that are there after some acts. -/
def keysAfter (present : Finset String) (acts : List KeyAct) : Finset String :=
  acts.foldl KeyAct.apply present

/-- The number of keys that the deletion at hand removes: those that are there right before one of its
acts and not right after it. -/
def removals (present : Finset String) : List KeyAct → Nat
  | [] => 0
  | act :: rest =>
    (if act.isForeign then 0 else (present \ act.apply present).card) +
      removals (act.apply present) rest

variable {present : Finset String} {acts a b : List KeyAct} {act : KeyAct} {key : String}

@[simp] theorem keysAfter_cons : keysAfter present (act :: acts) = keysAfter (act.apply present) acts :=
  rfl

theorem keysAfter_append : keysAfter present (a ++ b) = keysAfter (keysAfter present a) b :=
  List.foldl_append

theorem removals_append : removals present (a ++ b) =
    removals present a + removals (keysAfter present a) b := by
  induction a generalizing present with
  | nil => exact (Nat.zero_add _).symm
  | cons act rest ih => rw [List.cons_append, removals, removals, ih, keysAfter_cons, Nat.add_assoc]

theorem removals_of_foreign (foreign : ∀ act ∈ acts, act.isForeign = true) :
    removals present acts = 0 := by
  induction acts generalizing present with
  | nil => rfl
  | cons act rest ih =>
    rw [removals, if_pos (foreign act List.mem_cons_self),
      ih fun other hother => foreign other (List.mem_cons_of_mem _ hother)]

/-- A deletion among acts of others removes the keys that are there of those it names. -/
theorem removals_of_deletion (before : ∀ act ∈ a, act.isForeign = true)
    (after : ∀ act ∈ b, act.isForeign = true) (keys : List String) :
    removals present (a ++ .delete keys :: b) = (keysAfter present a ∩ keys.toFinset).card := by
  rw [removals_append, removals_of_foreign before, removals, removals_of_foreign after]
  simp [KeyAct.isForeign, KeyAct.apply]

theorem KeyAct.not_mem_apply (removes : act.Removes key) : key ∉ act.apply present := by
  cases act with
  | set other => cases removes
  | drop dropped => simp [apply, show dropped = key from removes]
  | delete keys => simp [apply, show key ∈ keys from removes]

theorem KeyAct.mem_apply (there : key ∈ present) (kept : ¬ act.Removes key) :
    key ∈ act.apply present := by
  cases act with
  | set other => exact Finset.mem_insert_of_mem there
  | drop dropped => exact Finset.mem_erase.2 ⟨fun h => kept h.symm, there⟩
  | delete keys => exact Finset.mem_sdiff.2 ⟨there, fun h => kept (List.mem_toFinset.1 h)⟩

theorem mem_keysAfter_of_kept (there : key ∈ present) (kept : ∀ act ∈ acts, ¬ act.Removes key) :
    key ∈ keysAfter present acts := by
  induction acts generalizing present with
  | nil => exact there
  | cons act rest ih =>
    exact ih (KeyAct.mem_apply there (kept act List.mem_cons_self))
      fun other hother => kept other (List.mem_cons_of_mem _ hother)

/-- A key that is gone is there again only if it is set. -/
theorem exists_set_of_mem (gone : key ∉ present) (back : key ∈ keysAfter present acts) :
    ∃ before rest, acts = before ++ .set key :: rest ∧ key ∉ keysAfter present before := by
  induction acts generalizing present with
  | nil => exact absurd back gone
  | cons act rest ih =>
    by_cases hset : act = .set key
    · exact ⟨[], rest, by rw [hset]; rfl, gone⟩
    · have gone' : key ∉ act.apply present := by
        cases act with
        | set other =>
          have hne : key ≠ other := fun h => hset (by rw [h])
          simp [KeyAct.apply, hne, gone]
        | drop dropped => simp [KeyAct.apply, gone]
        | delete keys => simp [KeyAct.apply, gone]
      obtain ⟨before, rest', hrest, hgone⟩ := ih gone' back
      exact ⟨act :: before, rest', by rw [hrest]; rfl, hgone⟩

theorem exists_set_of_removed (hact : act ∈ acts) (removes : act.Removes key)
    (back : key ∈ keysAfter present acts) :
    ∃ before rest, acts = before ++ .set key :: rest ∧ key ∉ keysAfter present before := by
  obtain ⟨front, tail, rfl⟩ := List.append_of_mem hact
  rw [keysAfter_append, keysAfter_cons] at back
  obtain ⟨before, rest, rfl, hgone⟩ := exists_set_of_mem (KeyAct.not_mem_apply removes) back
  refine ⟨front ++ act :: before, rest, by simp, ?_⟩
  rwa [keysAfter_append, keysAfter_cons]

/-- Where nobody else acts, the keys that are removed are those that are there no more. -/
theorem removals_eq_card (own : ∀ act ∈ acts, act.isForeign = false) :
    removals present acts = (present \ keysAfter present acts).card ∧
      keysAfter present acts ⊆ present := by
  induction acts generalizing present with
  | nil => simp [removals, keysAfter]
  | cons act rest ih =>
    have hact := own act List.mem_cons_self
    obtain ⟨hcard, hsub⟩ := @ih (act.apply present) fun other hother =>
      own other (List.mem_cons_of_mem _ hother)
    have hless : act.apply present ⊆ present := by
      cases act with
      | delete keys => exact Finset.sdiff_subset
      | _ => cases hact
    refine ⟨?_, hsub.trans hless⟩
    rw [removals, hact, if_neg Bool.false_ne_true, hcard, keysAfter_cons,
      ← Finset.card_union_of_disjoint (Finset.disjoint_of_subset_right Finset.sdiff_subset
        Finset.sdiff_disjoint)]
    congr 1
    ext k
    have := @hless k
    have := @hsub k
    simp only [Finset.mem_union, Finset.mem_sdiff]
    tauto

/-! ### Promises of a server -/

namespace Server

open Round

variable {σ : Type} {server : Server σ} {s t u : σ} {pattern : String} {cursor : UInt64}
  {talk : Talk} {history : σ → List KeyAct} {Wanted : String → Prop} {rounds : List Round}

/-- A scan that goes on from a cursor until it is over, with any commands between. -/
inductive IsScan (pattern : String) : UInt64 → Talk → Prop
  | last {cursor : UInt64} {keys : List String} :
      IsScan pattern cursor [(.scan cursor pattern, .page 0 keys)]
  | more {cursor next : UInt64} {keys : List String} (between : Talk) {rest : Talk} (goesOn : next ≠ 0)
      (scan : IsScan pattern next rest) :
      IsScan pattern cursor ((.scan cursor pattern, .page next keys) :: (between ++ rest))

/-- What a server promises, where its states keep what has happened to the keys so far. Others may act
during every command. A deletion removes the keys that are there of those it names and answers with
their number in 64 bits. A scan that is over has brought every key of the pattern that was there when it began
and was not removed until its end. -/
structure KeepsPromises (server : Server σ) (pattern : String) (history : σ → List KeyAct)
    (Wanted : String → Prop) : Prop where
  scan : ∀ {s cursor reply t}, server s (.scan cursor pattern) = (reply, t) →
    ∃ others, (∀ act ∈ others, act.isForeign = true) ∧ history t = history s ++ others
  delete : ∀ {s keys count t}, server s (.delete keys) = (.removed count, t) →
    ∃ before after, (∀ act ∈ before ++ after, act.isForeign = true) ∧
      history t = history s ++ (before ++ .delete keys :: after) ∧
      count = .ofNat (keysAfter ∅ (history s ++ before) ∩ keys.toFinset).card
  complete : ∀ {s talk t acts key}, server.Answers s talk t → IsScan pattern 0 talk →
    history t = history s ++ acts → Wanted key → key ∈ keysAfter ∅ (history s) →
    (∀ act ∈ acts, ¬ act.Removes key) →
    ∃ cursor next keys, (.scan cursor pattern, .page next keys) ∈ talk ∧ key ∈ keys

end Server

/-! ### Shelves -/

/-- A server that keeps keys without texts on three shelves, by the lengths of the keys. Its scans
bring a shelf at a time, a key as often as it was set. Before every command somebody else sets a key,
as long as there are any to come. -/
structure ShelfServer where
  history : List KeyAct
  arrivals : List String
deriving DecidableEq, Repr

namespace ShelfServer

open Server

def shelf (key : String) : Nat := key.length % 3

def arrive (s : ShelfServer) : ShelfServer :=
  ⟨s.history ++ (s.arrivals.take 1).map .set, s.arrivals.drop 1⟩

def setKeys (history : List KeyAct) : List String :=
  history.filterMap fun
    | .set key => some key
    | _ => none

def onShelf (history : List KeyAct) (number : Nat) (pattern : String) : List String :=
  (setKeys history).filter fun key =>
    key ∈ keysAfter ∅ history && shelf key == number && patternMatches pattern key

/-- The cursor behind a shelf: that of the next one, zero behind the last. -/
def following (number : Nat) : UInt64 := if number < 2 then .ofNat (number + 1) else 0

def answer : Server ShelfServer := fun s command =>
  let s := s.arrive
  match command with
  | .get key => (.value (if key ∈ keysAfter ∅ s.history then some "" else none), s)
  | .setWithLifetime key _ _ => (.done, { s with history := s.history ++ [.set key] })
  | .scan cursor pattern =>
    (.page (following cursor.toNat) (onShelf s.history cursor.toNat pattern), s)
  | .delete keys =>
    (.removed (.ofNat (keysAfter ∅ s.history ∩ keys.toFinset).card),
      { s with history := s.history ++ [.delete keys] })

variable {s t : ShelfServer} {pattern key : String} {talk : Talk} {cursor : UInt64}

theorem foreign_of_arrive (s : ShelfServer) :
    ∀ act ∈ (s.arrivals.take 1).map KeyAct.set, act.isForeign = true := by
  intro act hact
  obtain ⟨key, -, rfl⟩ := List.mem_map.1 hact
  rfl

theorem there_of_arrive (there : key ∈ keysAfter ∅ s.history) :
    key ∈ keysAfter ∅ s.arrive.history := by
  rw [arrive, keysAfter_append]
  refine mem_keysAfter_of_kept there fun act hact hremoves => ?_
  obtain ⟨other, -, rfl⟩ := List.mem_map.1 hact
  exact hremoves

theorem history_of_answers (h : answer.Answers s talk t) : ∃ acts, t.history = s.history ++ acts := by
  induction talk generalizing s with
  | nil => exact ⟨[], by rw [show t = s from h, List.append_nil]⟩
  | cons exchange rest ih =>
    obtain ⟨command, reply⟩ := exchange
    obtain ⟨u, hreply, hrest⟩ := h
    obtain ⟨acts, hacts⟩ := ih hrest
    obtain ⟨more, hmore⟩ : ∃ more, u.history = s.history ++ more := by
      rw [← (Prod.mk.inj hreply).2]
      cases command with
      | get | scan => exact ⟨_, rfl⟩
      | setWithLifetime | delete => exact ⟨_, List.append_assoc _ _ _⟩
    exact ⟨more ++ acts, by rw [hacts, hmore, List.append_assoc]⟩

theorem mem_onShelf {history : List KeyAct} (there : key ∈ keysAfter ∅ history)
    (wanted : patternMatches pattern key = true) : key ∈ onShelf history (shelf key) pattern := by
  obtain ⟨before, rest, rfl, -⟩ := exists_set_of_mem (Finset.notMem_empty key) there
  refine List.mem_filter.2 ⟨List.mem_filterMap.2 ⟨.set key, by simp, rfl⟩, ?_⟩
  simp [there, wanted]

theorem following_cases (number : Nat) :
    2 ≤ number ∧ following number = 0 ∨ number < 2 ∧ (following number).toNat = number + 1 := by
  unfold following
  split
  · next hlt =>
    exact .inr ⟨hlt, UInt64.toNat_ofNat_of_lt' (by show number + 1 < 2 ^ 64; omega)⟩
  · next hlast => exact .inl ⟨by omega, rfl⟩

/-- The shelves that a scan has yet to bring are those from its cursor on. -/
theorem exists_page (scan : IsScan pattern cursor talk) (h : answer.Answers s talk t)
    {acts : List KeyAct} (hacts : t.history = s.history ++ acts)
    (wanted : patternMatches pattern key = true) (there : key ∈ keysAfter ∅ s.history)
    (kept : ∀ act ∈ acts, ¬ act.Removes key) (ahead : cursor.toNat ≤ shelf key) :
    ∃ cursor next keys, (.scan cursor pattern, .page next keys) ∈ talk ∧ key ∈ keys := by
  have hshelf : shelf key < 3 := Nat.mod_lt _ (by decide)
  induction scan generalizing s acts with
  | @last cursor keys =>
    obtain ⟨u, hreply, -⟩ := h
    obtain ⟨hnext, rfl⟩ := Reply.page.inj (Prod.mk.inj hreply).1
    have hlast : shelf key = cursor.toNat := by
      rcases following_cases cursor.toNat with ⟨hlow, -⟩ | ⟨-, hnumber⟩
      · omega
      · rw [hnext] at hnumber
        cases hnumber
    refine ⟨cursor, 0, _, List.mem_cons_self, ?_⟩
    rw [← hlast]
    exact mem_onShelf (there_of_arrive there) wanted
  | @more cursor next keys between rest goesOn scan ih =>
    obtain ⟨u, hreply, hrest⟩ := h
    obtain ⟨v, hbetween, hrest⟩ := answers_append.1 hrest
    have hfirst : answer.Answers s ((.scan cursor pattern, .page next keys) :: between) v :=
      ⟨u, hreply, hbetween⟩
    obtain ⟨before, hv⟩ := history_of_answers hfirst
    obtain ⟨after, ht⟩ := history_of_answers hrest
    obtain rfl : acts = before ++ after := by
      rw [ht, hv, List.append_assoc] at hacts
      exact (List.append_cancel_left hacts).symm
    obtain ⟨hnext, rfl⟩ := Reply.page.inj (Prod.mk.inj hreply).1
    by_cases hhere : shelf key = cursor.toNat
    · refine ⟨cursor, next, _, List.mem_cons_self, ?_⟩
      rw [← hhere]
      exact mem_onShelf (there_of_arrive there) wanted
    · have there' : key ∈ keysAfter ∅ v.history := by
        rw [hv, keysAfter_append]
        exact mem_keysAfter_of_kept there fun act hact => kept act (List.mem_append_left _ hact)
      have ahead' : next.toNat ≤ shelf key := by
        rcases following_cases cursor.toNat with ⟨-, hzero⟩ | ⟨-, hnumber⟩
        · exact absurd (hnext.symm.trans hzero) goesOn
        · rw [← hnext, hnumber]
          omega
      obtain ⟨cursor', next', keys', hpage, hkey⟩ := ih hrest ht there'
        (fun act hact => kept act (List.mem_append_right _ hact)) ahead'
      exact ⟨cursor', next', keys', List.mem_cons_of_mem _ (List.mem_append_right _ hpage), hkey⟩

theorem keepsPromises (pattern : String) :
    answer.KeepsPromises pattern history (fun key => patternMatches pattern key = true) where
  scan := by
    intro s cursor reply t h
    rw [← (Prod.mk.inj h).2]
    exact ⟨_, s.foreign_of_arrive, rfl⟩
  delete := by
    intro s keys count t h
    obtain ⟨hreply, rfl⟩ := Prod.mk.inj h
    refine ⟨_, [], ?_, List.append_assoc _ _ _, (Reply.removed.inj hreply).symm⟩
    rw [List.append_nil]
    exact s.foreign_of_arrive
  complete := fun h scan hacts wanted there kept =>
    exists_page scan h hacts wanted there kept (Nat.zero_le _)

theorem scanEnds (pattern : String) (s : ShelfServer) : answer.ScanEnds pattern s := by
  intro row hfirst
  by_contra hnone
  have hall : ∀ n, answer.GoesOn pattern (row n) (row (n + 1)) := fun n =>
    Classical.not_not.1 fun hn => hnone ⟨n, hn⟩
  -- Every round goes on with the next shelf, but there are only three.
  have hstep : ∀ n, (row n).1.toNat < 2 ∧ (row (n + 1)).1.toNat = (row n).1.toNat + 1 := by
    intro n
    have hround := hall n
    generalize row n = now at hround ⊢
    generalize row (n + 1) = later at hround ⊢
    obtain ⟨⟨u, hreply, -⟩, goesOn⟩ := hround
    have hnext := (Reply.page.inj (Prod.mk.inj hreply).1).1
    rw [← hnext] at goesOn ⊢
    exact (following_cases _).resolve_left fun h => goesOn h.2
  have hcursor : ∀ n, (row n).1.toNat = n := by
    intro n
    induction n with
    | zero =>
      rw [hfirst]
      rfl
    | succ n ih => rw [(hstep n).2, ih]
  exact absurd (hstep 2).1 (by simp [hcursor])

end ShelfServer
end CommitSearch
