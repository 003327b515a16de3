import CommitSearch.Proofs.Commit.RoundTrip
import CommitSearch.Proofs.Service.History
import CommitSearch.Proofs.Service.Searches

/-!
# What hits return

A search that missed the cache writes its page there as text and returns the page. Main statement: the
text is read back as the page, whatever its commits hold, so every search that finds the text returns
what the one that wrote it returns.
-/

namespace CommitSearch.Service

variable {s s' u : State} {acts before : List Act} {count m : Nat} {a : Act} {i j : Nat} {t t' : Task}
  {e : Effect} {fault : Option Error} {r q : SearchRequest} {g : UInt64} {p : Page} {store : Store}

/-- A search that has its page, from the attempt to cache it on. -/
inductive Returning (p : Page) : Task → Prop
  | write {r : SearchRequest} {g : UInt64} : Returning p (.search r (.write g p))
  | written {r : SearchRequest} {g : UInt64} : Returning p (.search r (.written g p))
  | recheck {r : SearchRequest} {g : UInt64} : Returning p (.search r (.recheck g p))
  | discard {r : SearchRequest} : Returning p (.search r (.discard p))
  | land {r : SearchRequest} : Returning p (.search r (.land (.ok p)))
  | ended : Returning p (.ended (.ok (.page p)))
  | dropped : Returning p .dropped

theorem returning_goes (h : Returning p t) (goes : Goes s i fault t t' e) : Returning p t' := by
  cases h with
  | write =>
    cases goes with
    | failWrite => exact .land
    | write => exact .written
  | written =>
    cases goes with
    | failWritten => exact .land
    | written => exact .recheck
  | recheck =>
    cases goes with
    | keep => exact .land
    | reject => exact .discard
  | discard =>
    cases goes with
    | failDiscard | discard => exact .land
  | land =>
    cases goes with
    | land => exact .ended
  | ended | dropped => cases goes

theorem Returning.nudged (h : Returning p t) (hn : Nudged t t') : Returning p t' := by
  cases hn with
  | same => exact h
  | _ => cases h

theorem returning_step (hl : LockFits s) (hs : s.Stands i t) (h : Returning p t)
    (hstep : Step s a s') : ∃ t', s'.Stands i t' ∧ Returning p t' := by
  rcases stands_after hl hstep hs with ⟨fault, t', e, -, goes, hs'⟩ | ⟨e, -, -, hs'⟩ |
    ⟨t', -, nudged, hs'⟩
  · exact ⟨t', hs', returning_goes h goes⟩
  · exact ⟨_, hs', .dropped⟩
  · exact ⟨t', hs', h.nudged nudged⟩

theorem returning_run (hl : LockFits s) (hs : s.Stands i t) (h : Returning p t)
    (run : Run s acts count u) : ∃ t', u.Stands i t' ∧ Returning p t' := by
  induction run with
  | nothing => exact ⟨t, hs, h⟩
  | act run next ih =>
    obtain ⟨t', ht', h'⟩ := ih
    exact returning_step (run.lockFits hl) ht' h' (step_of_act next)

theorem cached_of_text (storable : p.IsStorable)
    (text : (s.cache.get s.now r.key).1 = some p.encode) : s.cached r = some p := by
  rw [State.cached, text]
  simp only [decode_encode storable]
  rfl

/-! ### Single steps -/

theorem act_search {stage : SearchStage} (stands : s.Stands i (.search r stage)) :
    s.act (.step i fault) = (s.stepSearch i fault r stage).map Move.state := by
  have ht : s.tasks[i]? = some (.search r stage) := stands
  simp only [State.act, State.step, ht]

theorem act_write (stands : s.Stands i (.search r (.write g p))) :
    s.act (.step i none) = some (State.place
      { s with cache := s.cache.set s.now r.key p.encode resultLifetime } i
      (.search r (.written g p))) :=
  act_search stands

theorem act_hit (stands : s.Stands i (.search r .lookup)) (cached : s.cached r = some p) :
    s.act (.step i none) = some ((s.touched r).place i (.ended (.ok (.page p)))) := by
  rw [act_search stands, State.stepSearch, cached]
  rfl

theorem act_hitAgain (stands : s.Stands i (.search r .lookupAgain)) (cached : s.cached r = some p) :
    s.act (.step i none) = some ((s.touched r).place i (.search r (.land (.ok p)))) := by
  rw [act_search stands, State.stepSearch, cached]
  rfl

theorem stands_touched (stands : s.Stands i t) (q : SearchRequest) (t' : Task) :
    ((s.touched q).place i t').Stands i t' :=
  (stands_place (s := s.touched q) stands t' i t').2 (.inl ⟨rfl, rfl⟩)

/-! ### Main statement -/

theorem isStorable_of_bounds (whole : ∀ c ∈ p.commits, c.date.nanos = 0)
    (legal : ∀ c ∈ p.commits, -8334601228800 ≤ c.date.seconds ∧ c.date.seconds ≤ 8210266876799)
    (total : p.total < 2 ^ 64) : p.IsStorable := by
  refine ⟨fun c hc => ⟨?_, ?_⟩, total⟩
  · rw [Calendar.Instant.isWhole, whole c hc]
    rfl
  · obtain ⟨hlow, hhigh⟩ := legal c hc
    exact Bool.and_eq_true_iff.2 ⟨decide_eq_true hlow, decide_eq_true hhigh⟩

/-- Whatever its commits hold, a page is read from its text as it was. The search that writes the text
into the cache returns the page, and so does every search that finds the text there. -/
theorem hit_returns_miss (whole : ∀ c ∈ p.commits, c.date.nanos = 0)
    (legal : ∀ c ∈ p.commits, -8334601228800 ≤ c.date.seconds ∧ c.date.seconds ≤ 8210266876799)
    (total : p.total < 2 ^ 64) :
    Page.decode p.encode = .ok p ∧
      ∀ {store before m s i r g}, Run (fresh store) before m s →
        s.Stands i (.search r (.write g p)) →
        (∃ s', s.act (.step i none) = some s' ∧
          ∀ now < s.now + resultLifetime, (s'.cache.get now r.key).1 = some p.encode) ∧
        ∀ {acts n u}, Run s acts n u →
          (∀ {answer}, u.Stands i (.ended answer) → answer = .ok (.page p)) ∧
          ∀ {j q stage}, u.Stands j (.search q stage) →
            (u.cache.get u.now q.key).1 = some p.encode →
            (stage = .lookup → ∃ v, u.act (.step j none) = some v ∧
              v.Stands j (.ended (.ok (.page p)))) ∧
            (stage = .lookupAgain → ∃ v, u.act (.step j none) = some v ∧
              v.Stands j (.search q (.land (.ok p)))) := by
  have storable := isStorable_of_bounds whole legal total
  refine ⟨decode_encode storable, fun {store before m s i r g} run writes => ⟨?_, ?_⟩⟩
  · refine ⟨_, act_write writes, fun now hnow => ?_⟩
    exact congrArg Prod.fst (MemoryCache.get_set s.cache s.now now r.key p.encode _ hnow)
  · intro acts n u later
    constructor
    · intro answer ended
      obtain ⟨t, ht, h⟩ := returning_run (lockFits_run run) writes .write later
      obtain rfl := ht.inj ended
      cases h with
      | ended => rfl
    · intro j q stage stands text
      have hcached := cached_of_text storable text
      constructor
      · rintro rfl
        exact ⟨_, act_hit stands hcached, stands_touched stands q _⟩
      · rintro rfl
        exact ⟨_, act_hitAgain stands hcached, stands_touched stands q _⟩

/-- Commits of the last and the first second of the calendar, with characters that have to be escaped
and characters outside the first plane. -/
def unusualCommits : List Commit :=
  [⟨⟨8210266876799, 0⟩, "\x7b\x7d", "[,]", "\u2028", "ſ\u0301", "\u007f", "/", false, true⟩,
    ⟨⟨-8334601228800, 0⟩, "\"\\", "\x00\x1f", "", "\t\r\n", "\x08\x0c", "𝄞🦀", true, false⟩]

def unusualPage : Page := ⟨unusualCommits, 2⟩

/-- A search up to its write. -/
def searchUntilWrite : List Act := .call (.search .all) :: List.replicate 8 (.step 0 none)

/-- A second search, called after the write, up to its look into the cache. -/
def writeThenSearch : List Act := [.step 0 none, .call (.search .all), .step 1 none]

theorem execute_unusual : Contents.execute ⟨unusualCommits, .empty⟩ ⟨[], 20⟩ = unusualPage := by
  have hsorted : unusualCommits.Pairwise fun a b => Contents.newerFirst a b = true := by decide
  have hselected : Contents.selected ⟨unusualCommits, .empty⟩ ⟨[], 20⟩ = unusualCommits :=
    List.mergeSort_of_pairwise hsorted
  rw [Contents.execute, hselected]
  rfl

theorem searchUntilWrite_after :
    ∃ s u, (fresh (.memory ⟨unusualCommits, .empty⟩)).after searchUntilWrite = some s ∧
      s.Stands 0 (.search .all (.write 0 unusualPage)) ∧ s.after writeThenSearch = some u ∧
      u.Stands 1 (.search .all .lookup) ∧
      u.cache = MemoryCache.empty.set 0 SearchRequest.all.key unusualPage.encode resultLifetime ∧
      u.now = 0 := by
  rw [← execute_unusual]
  exact ⟨_, _, rfl, rfl, rfl, rfl, rfl, rfl⟩

theorem hit_returns_miss_unusual :
    ∃ m s u v, Run (fresh (.memory ⟨unusualCommits, .empty⟩)) searchUntilWrite m s ∧
      s.Stands 0 (.search .all (.write 0 unusualPage)) ∧
      Page.decode unusualPage.encode = .ok unusualPage ∧ s.after writeThenSearch = some u ∧
      u.act (.step 1 none) = some v ∧ v.Stands 1 (.ended (.ok (.page unusualPage))) := by
  obtain ⟨s, u, hs, hwrites, hu, hlookup, hcache, hnow⟩ := searchUntilWrite_after
  obtain ⟨m, -, run⟩ := run_of_after hs
  obtain ⟨n, -, later⟩ := run_of_after hu
  have whole : ∀ c ∈ unusualPage.commits, c.date.nanos = 0 := by decide
  have legal : ∀ c ∈ unusualPage.commits,
      -8334601228800 ≤ c.date.seconds ∧ c.date.seconds ≤ 8210266876799 := by decide
  have text : (u.cache.get u.now SearchRequest.all.key).1 = some unusualPage.encode := by
    rw [hcache, hnow, MemoryCache.get_set]
    decide
  obtain ⟨hdecode, hreads⟩ := hit_returns_miss whole legal (by decide)
  obtain ⟨v, hv, hended⟩ := (((hreads run hwrites).2 later).2 hlookup text).1 rfl
  exact ⟨m, s, u, v, run, hwrites, hdecode, hu, hv, hended⟩

end CommitSearch.Service
