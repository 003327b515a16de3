import CommitSearch.Proofs.Cache.Promises

/-!
# What a deletion leaves

A deletion asks a server for the keys of a pattern in rounds and deletes what each of them brings.
Main statement: after a deletion that succeeds, a key of the pattern that was there before it is there
only if it was gone in the meantime and set again, and the number that the deletion comes to is that
of the keys it removed.
-/

namespace CommitSearch
namespace Server

open Round

variable {σ : Type} {server : Server σ} {s t u : σ} {pattern : String} {cursor : UInt64}
  {talk : Talk} {history : σ → List KeyAct} {Wanted : String → Prop} {rounds : List Round}

/-! ### What happens during a talk -/

/-- A command of a deletion that was answered as it should be. -/
def Succeeds (pattern : String) : Command × Reply → Prop
  | (.scan _ asked, .page _ _) => asked = pattern
  | (.delete _, .removed _) => True
  | _ => False

/-- The number with which a deletion was answered. -/
def deleted : Command × Reply → Nat
  | (_, .removed count) => count.toNat
  | _ => 0

/-- The deletions of a talk are among what happens to the keys, and remove as many as they are
answered with, in 64 bits. -/
theorem KeepsPromises.history_of_talk (promises : server.KeepsPromises pattern history Wanted)
    (succeeds : ∀ exchange ∈ talk, Succeeds pattern exchange) (h : server.Answers s talk t) :
    ∃ acts, history t = history s ++ acts ∧
      (∀ keys count, (.delete keys, .removed count) ∈ talk → .delete keys ∈ acts) ∧
      UInt64.ofNat (removals (keysAfter ∅ (history s)) acts) = .ofNat (talk.map deleted).sum := by
  induction talk generalizing s with
  | nil => exact ⟨[], by rw [show t = s from h, List.append_nil], nofun, rfl⟩
  | cons exchange rest ih =>
    obtain ⟨command, reply⟩ := exchange
    obtain ⟨u, hreply, hrest⟩ := h
    have hsucceeds := succeeds _ List.mem_cons_self
    obtain ⟨acts, hhistory, hdeletes, hcount⟩ :=
      ih (fun exchange he => succeeds exchange (List.mem_cons_of_mem _ he)) hrest
    cases command with
    | scan cursor asked =>
      cases reply with
      | page next keys =>
        obtain rfl : asked = pattern := hsucceeds
        obtain ⟨others, foreign, hstep⟩ := promises.scan hreply
        refine ⟨others ++ acts, by rw [hhistory, hstep, List.append_assoc], fun keys count hmem => ?_,
          ?_⟩
        · rcases List.mem_cons.1 hmem with h | hmem
          · cases h
          · exact List.mem_append_right _ (hdeletes keys count hmem)
        · have hnone : deleted (.scan cursor asked, .page next keys) = 0 := rfl
          rw [hstep, keysAfter_append] at hcount
          rw [removals_append, removals_of_foreign foreign, Nat.zero_add, hcount, List.map_cons,
            List.sum_cons, hnone, Nat.zero_add]
      | _ => cases hsucceeds
    | delete keys =>
      cases reply with
      | removed count =>
        obtain ⟨before, after, foreign, hstep, hnumber⟩ := promises.delete hreply
        have hbefore : ∀ act ∈ before, act.isForeign = true := fun act hact =>
          foreign act (List.mem_append_left _ hact)
        have hafter : ∀ act ∈ after, act.isForeign = true := fun act hact =>
          foreign act (List.mem_append_right _ hact)
        refine ⟨before ++ .delete keys :: after ++ acts, by rw [hhistory, hstep, List.append_assoc],
          fun keys count hmem => ?_, ?_⟩
        · rcases List.mem_cons.1 hmem with h | hmem
          · cases h
            simp
          · exact List.mem_append_right _ (hdeletes keys count hmem)
        · rw [hstep, keysAfter_append] at hcount
          rw [keysAfter_append] at hnumber
          rw [removals_append, UInt64.ofNat_add, hcount, removals_of_deletion hbefore hafter, ← hnumber,
            List.map_cons, List.sum_cons, UInt64.ofNat_add, deleted, UInt64.ofNat_toNat]
      | _ => cases hsucceeds
    | _ => cases hsucceeds

/-! ### Talks of rounds -/

theorem sum_deleted_talk (pattern : String) (r : Round) :
    ((r.talk pattern).map deleted).sum = r.count.toNat := by
  by_cases hnone : r.keys = []
  · simp [Round.talk, deletion, hnone, deleted, r.none_of_nil hnone]
  · simp [Round.talk, deletion, hnone, deleted]

theorem sum_deleted_talkOf (pattern : String) (rounds : List Round) :
    ((talkOf pattern rounds).map deleted).sum = total rounds := by
  induction rounds with
  | nil => rfl
  | cons r rest ih =>
    have hparts : talkOf pattern (r :: rest) = r.talk pattern ++ talkOf pattern rest := rfl
    rw [hparts, List.map_append, List.sum_append, ih, sum_deleted_talk, total, total, List.map_cons,
      List.sum_cons]

theorem succeeds_talkOf : ∀ exchange ∈ talkOf pattern rounds, Succeeds pattern exchange := by
  intro exchange hmem
  obtain ⟨r, -, hr⟩ := List.mem_flatMap.1 hmem
  rcases List.mem_cons.1 hr with rfl | hr
  · rfl
  · unfold deletion at hr
    split at hr
    · cases hr
    · rw [List.mem_singleton.1 hr]
      trivial

/-- Every page of keys is followed by their deletion. -/
theorem deleted_of_page {next : UInt64} {keys : List String}
    (hmem : (.scan cursor pattern, .page next keys) ∈ talkOf pattern rounds) (some : keys ≠ []) :
    ∃ count, (.delete keys, .removed count) ∈ talkOf pattern rounds := by
  obtain ⟨r, hround, hr⟩ := List.mem_flatMap.1 hmem
  rcases List.mem_cons.1 hr with h | hr
  · obtain ⟨-, hreply⟩ := Prod.mk.inj h
    obtain ⟨-, rfl⟩ := Reply.page.inj hreply
    refine ⟨r.count, List.mem_flatMap.2 ⟨r, hround, List.mem_cons_of_mem _ ?_⟩⟩
    rw [deletion, if_neg some]
    exact List.mem_singleton_self _
  · unfold deletion at hr
    split at hr
    · cases hr
    · cases List.mem_singleton.1 hr

theorem isScan_of_lead {last : Round} (lead : Lead cursor rounds last.cursor) (ended : last.next = 0) :
    IsScan pattern cursor
      (talkOf pattern rounds ++ [(.scan last.cursor pattern, .page last.next last.keys)]) := by
  induction rounds generalizing cursor with
  | nil =>
    obtain rfl : last.cursor = cursor := lead
    rw [ended]
    exact .last
  | cons r rest ih =>
    obtain ⟨rfl, goesOn, lead⟩ := lead
    have hparts : talkOf pattern (r :: rest) = (.scan r.cursor pattern, .page r.next r.keys) ::
        (deletion r.keys r.count ++ talkOf pattern rest) := rfl
    rw [hparts, List.cons_append, List.append_assoc]
    exact .more _ goesOn (ih lead)

theorem talkOf_concat (pattern : String) (rounds : List Round) (last : Round) :
    talkOf pattern (rounds ++ [last]) =
      (talkOf pattern rounds ++ [(.scan last.cursor pattern, .page last.next last.keys)]) ++
        deletion last.keys last.count := by
  simp [talkOf, Round.talk]

/-! ### What is left -/

/-- A key of the pattern that nothing removes before the scan is over has been deleted. -/
theorem KeepsPromises.removed_of_present (promises : server.KeepsPromises pattern history Wanted)
    {last : Round} (lead : Lead 0 rounds last.cursor) (ended : last.next = 0)
    (h : server.Answers s (talkOf pattern (rounds ++ [last])) t) {acts : List KeyAct}
    (hacts : history t = history s ++ acts)
    (hdeletes : ∀ keys count,
      (.delete keys, .removed count) ∈ talkOf pattern (rounds ++ [last]) → .delete keys ∈ acts)
    {key : String} (wanted : Wanted key) (there : key ∈ keysAfter ∅ (history s)) :
    ∃ act ∈ acts, act.Removes key := by
  by_contra hnone
  have kept : ∀ act ∈ acts, ¬ act.Removes key := fun act hact hremoves => hnone ⟨act, hact, hremoves⟩
  have hsucceeds := @succeeds_talkOf pattern (rounds ++ [last])
  rw [talkOf_concat] at h hsucceeds
  obtain ⟨u, hscan, hlast⟩ := answers_append.1 h
  obtain ⟨acts₁, hu, -, -⟩ := promises.history_of_talk
    (fun exchange he => hsucceeds exchange (List.mem_append_left _ he)) hscan
  obtain ⟨acts₂, ht, -, -⟩ := promises.history_of_talk
    (fun exchange he => hsucceeds exchange (List.mem_append_right _ he)) hlast
  have hparts : acts = acts₁ ++ acts₂ := by
    rw [ht, hu, List.append_assoc] at hacts
    exact (List.append_cancel_left hacts).symm
  obtain ⟨cursor, next, keys, hpage, hkey⟩ := promises.complete hscan (isScan_of_lead lead ended) hu
    wanted there fun act hact => kept act (hparts ▸ List.mem_append_left _ hact)
  have hpage' : (.scan cursor pattern, .page next keys) ∈ talkOf pattern (rounds ++ [last]) := by
    rw [talkOf_concat]
    exact List.mem_append_left _ hpage
  obtain ⟨count, hdeleted⟩ := deleted_of_page hpage' (List.ne_nil_of_mem hkey)
  exact kept _ (hdeletes keys count hdeleted) hkey

/-- A deletion whose scan ends comes to a result, and what it has sent is a row of rounds up to that.
If it succeeds and the server keeps its promises, each key of the pattern that was there before and is
there after it was gone in the meantime and set again, and the result is the number of keys that it
has removed, in 64 bits; where nobody else acts, that of the keys that are there no more. -/
theorem deletion_sweeps {σ : Type} {server : Server σ} {pattern : String} {s : σ}
    (ends : server.ScanEnds pattern s) :
    ∃ x : Exchange σ UInt64,
      (∃ enough, ∀ fuel, enough ≤ fuel → server.deleteFrom pattern fuel 0 0 s = some x) ∧
      (∃ talk, server.Answers s talk x.server ∧ x.sent = talk.map Prod.fst ∧
        Outcome pattern 0 talk x.result) ∧
      ∀ (history : σ → List KeyAct) (Wanted : String → Prop) (n : UInt64),
        server.KeepsPromises pattern history Wanted → x.result = .ok n →
        ∃ acts, history x.server = history s ++ acts ∧
          (∀ key, Wanted key → key ∈ keysAfter ∅ (history s) →
            key ∈ keysAfter ∅ (history x.server) →
            ∃ before rest, acts = before ++ .set key :: rest ∧
              key ∉ keysAfter ∅ (history s ++ before)) ∧
          n = .ofNat (removals (keysAfter ∅ (history s)) acts) ∧
          (removals (keysAfter ∅ (history s)) acts < 2 ^ 64 →
            n.toNat = removals (keysAfter ∅ (history s)) acts) ∧
          ((∀ act ∈ acts, act.isForeign = false) →
            n = .ofNat (keysAfter ∅ (history s) \ keysAfter ∅ (history x.server)).card) := by
  obtain ⟨x, enough, hfuel⟩ := exists_fuel ends
  obtain ⟨talk, hanswers, hsent, houtcome⟩ := exists_talk (hfuel enough le_rfl)
  refine ⟨x, ⟨enough, hfuel⟩, ⟨talk, hanswers, hsent, houtcome⟩,
    fun history Wanted n promises hresult => ?_⟩
  rw [hresult] at houtcome
  cases houtcome with
  | @finished rounds last lead ended =>
    obtain ⟨acts, hacts, hdeletes, hcount⟩ := promises.history_of_talk succeeds_talkOf hanswers
    rw [sum_deleted_talkOf] at hcount
    refine ⟨acts, hacts, fun key wanted there back => ?_, hcount.symm, fun few => ?_, fun own => ?_⟩
    · obtain ⟨act, hact, hremoves⟩ :=
        promises.removed_of_present lead ended hanswers hacts hdeletes wanted there
      rw [hacts, keysAfter_append] at back
      simp only [keysAfter_append]
      exact exists_set_of_removed hact hremoves back
    · rw [← hcount, UInt64.toNat_ofNat_of_lt' few]
    · rw [hacts, keysAfter_append, ← (removals_eq_card own).1, hcount]

/-- The first page has no keys, and the second one has a key twice, which is set again before the third
is asked for. -/
theorem deletion_sweeps_shelves :
    let s : ShelfServer := ⟨[.set "s:22", .set "s:22", .set "s:333", .set "t:1"],
      ["t:2", "t:3", "t:4", "s:22", "t:5"]⟩
    ShelfServer.answer.ScanEnds "s:*" s ∧
      ShelfServer.answer.KeepsPromises "s:*" ShelfServer.history
        (fun key => patternMatches "s:*" key = true) ∧
      ∃ x, ShelfServer.answer.deleteFrom "s:*" 3 0 0 s = some x ∧
        x.sent = [.scan 0 "s:*", .scan 1 "s:*", .delete ["s:22", "s:22"], .scan 2 "s:*",
          .delete ["s:333"]] ∧
        x.result = .ok 2 ∧ keysAfter ∅ x.server.history = {"s:22", "t:1", "t:2", "t:3", "t:4", "t:5"} ∧
        ∃ acts, x.server.history = s.history ++ acts ∧
          (2 : UInt64) = .ofNat (removals (keysAfter ∅ s.history) acts) ∧
          ∃ before rest, acts = before ++ .set "s:22" :: rest ∧
            "s:22" ∉ keysAfter ∅ (s.history ++ before) := by
  intro s
  have ends : ShelfServer.answer.ScanEnds "s:*" s := ShelfServer.scanEnds "s:*" s
  have promises := ShelfServer.keepsPromises "s:*"
  obtain ⟨x, ⟨enough, hfuel⟩, -, hsweeps⟩ := deletion_sweeps ends
  have hrun : ((ShelfServer.answer.deleteFrom "s:*" 3 0 0 s).map fun y =>
      (y.sent, y.result.toOption, keysAfter ∅ y.server.history)) =
      some ([.scan 0 "s:*", .scan 1 "s:*", .delete ["s:22", "s:22"], .scan 2 "s:*",
        .delete ["s:333"]], some 2, {"s:22", "t:1", "t:2", "t:3", "t:4", "t:5"}) := by
    decide +kernel
  obtain ⟨y, hy, hparts⟩ := Option.map_eq_some_iff.1 hrun
  obtain rfl : x = y := Option.some.inj
    ((hfuel (enough + 3) (by omega)).symm.trans (deleteFrom_mono hy (by omega)))
  simp only [Prod.mk.injEq] at hparts
  obtain ⟨hsent, hresult, hkeys⟩ := hparts
  have hok : x.result = .ok 2 := by
    cases hx : x.result with
    | error e =>
      rw [hx] at hresult
      cases hresult
    | ok n =>
      rw [hx] at hresult
      exact congrArg Except.ok (Option.some.inj hresult)
  obtain ⟨acts, hacts, hleft, hcount, -, -⟩ := hsweeps _ _ 2 promises hok
  refine ⟨ends, promises, x, hy, hsent, hok, hkeys, acts, hacts, hcount, ?_⟩
  exact hleft "s:22" (by decide +kernel) (by decide +kernel) (by rw [hkeys]; decide +kernel)

end Server
end CommitSearch
