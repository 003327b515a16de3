import CommitSearch.Http.Site
import CommitSearch.Proofs.Service.Freshness
import CommitSearch.Proofs.Service.Settling

/-!
# Rejected requests

At a site at rest every request is handled to its end, and the site is at rest again. Main statement: a
request that is not answered with success leaves the service as it was but for the end of its own
call, and writing without the secret is answered alike whatever the body holds.
-/

namespace CommitSearch.Http

open CommitSearch.Service

variable {s s' : Site} {r : Request} {answer : Except Error Answer}

/-! ### Sites at rest -/

/-- No request is in progress, nothing is held or fails, and no cached result has expired. -/
structure Site.AtRest (s : Site) : Prop where
  reached : ∃ store acts count, Run (Service.fresh store) acts count s.script.service
  resting : s.script.service.IsResting
  live : s.script.service.IsLive
  held : s.script.held = []
  failing : s.script.failing = []
  ready : s.script.ready = []

theorem atRest_fresh (secret : String) (store : Store) : (Site.fresh secret store []).AtRest where
  reached := ⟨store, [], 0, .nothing⟩
  resting := fun _ h => nomatch h
  live := fun _ h => nomatch h
  held := rfl
  failing := rfl
  ready := rfl

theorem isResting_of_returned {before after : State} (resting : before.IsResting)
    (returned : Returned before answer after) : after.IsResting := by
  obtain ⟨more, tasks, hover⟩ := returned.tasks
  intro t ht
  rw [tasks] at ht
  rcases List.mem_append.1 ht with hold | hnew
  · exact resting t hold
  · exact .inl (hover t hnew)

theorem exists_call (call : Call) : ∃ c : Service.Call, c.task = call.task := by
  cases call with
  | save c => exact ⟨.save c, rfl⟩
  | search r => exact ⟨.search r, rfl⟩
  | refresh => exact ⟨.refresh, rfl⟩
  | listFilters => exact ⟨.list none, rfl⟩
  | listFilter key => exact ⟨.list (some key), rfl⟩

theorem perform_atRest (rest : s.AtRest) (call : Call) :
    ∃ answer s', s.perform call = (some answer, s') ∧ s'.AtRest ∧
      Returned s.script.service answer s'.script.service := by
  obtain ⟨store, acts, count, run⟩ := rest.reached
  obtain ⟨c, hc⟩ := exists_call call
  obtain ⟨service, log, answer, more, hoccur, returned, hmore⟩ := Script.occur_call
    (s := { s.script with log := [] }) rest.held rest.failing rest.ready
    (isIdle_of_resting run rest.resting) rest.live c
  have hscript : s.script.step (.call call.task) = { s.script with service, log } := by
    rw [Script.step, ← hc, hoccur]
  refine ⟨answer, { s with script := { s.script with service, log } }, ?_, ?_, returned⟩
  · have hended : service.tasks[s.script.service.tasks.length]? = some (.ended answer) :=
      returned.stands
    simp only [Site.perform, hscript, hended]
  · obtain ⟨n, -, reached⟩ := run.after hmore
    exact ⟨⟨store, _, n, reached⟩, isResting_of_returned rest.resting returned, returned.live,
      rest.held, rest.failing, rest.ready⟩

/-! ### Requests that are handled at rest -/

/-- How a request is handled: its response is known at once, or the call that it asks for returns. -/
inductive Handled (s : Site) (r : Request) : Response → Site → Prop
  | known (response : Response) :
    Handled s r (response.sent r) { s with script := { s.script with log := [] } }
  | called (call : Call) {answer : Except Error Answer} {s' : Site} (rest : s'.AtRest)
      (returned : Returned s.script.service answer s'.script.service) :
    Handled s r ((call.response answer).sent r) s'

theorem exists_handled (rest : s.AtRest) (r : Request) :
    ∃ response s', s.handle r = (response, s') ∧ Handled s r response s' := by
  by_cases options : r.method = .options
  · exact ⟨_, _, by rw [Site.handle, if_pos options], .known (preflight r)⟩
  · cases asked : plan s.secret r with
    | respond response =>
      exact ⟨_, _, by simp only [Site.handle, if_neg options, asked], .known response⟩
    | call call =>
      obtain ⟨answer, s', performed, rest', returned⟩ := perform_atRest rest call
      refine ⟨_, s', ?_, .called call rest' returned⟩
      simp only [Site.handle, if_neg options, asked, performed]

theorem atRest_handle (rest : s.AtRest) (r : Request) : (s.handle r).2.AtRest := by
  obtain ⟨response, s', hhandle, handled⟩ := exists_handled rest r
  rw [hhandle]
  cases handled with
  | known => exact ⟨rest.reached, rest.resting, rest.live, rest.held, rest.failing, rest.ready⟩
  | called call rest' => exact rest'

/-- A site after requests that came one after the other. -/
def Site.after (s : Site) (rs : List Request) : Site := rs.foldl (fun s r => (s.handle r).2) s

theorem atRest_after (rest : s.AtRest) (rs : List Request) : (s.after rs).AtRest := by
  induction rs generalizing s with
  | nil => exact rest
  | cons r rs ih => exact ih (atRest_handle rest r)

theorem secret_perform (s : Site) (call : Call) : (s.perform call).2.secret = s.secret := by
  dsimp only [Site.perform]
  split <;> rfl

theorem secret_handle (s : Site) (r : Request) : (s.handle r).2.secret = s.secret := by
  by_cases options : r.method = .options
  · simp only [Site.handle, if_pos options]
  · cases asked : plan s.secret r with
    | respond response => simp only [Site.handle, if_neg options, asked]
    | call call =>
      have hperform := secret_perform s call
      rcases performed : s.perform call with ⟨answer | answer, s'⟩ <;>
        rw [performed] at hperform <;>
        simpa only [Site.handle, if_neg options, asked, performed] using hperform

@[simp] theorem secret_after (s : Site) (rs : List Request) : (s.after rs).secret = s.secret := by
  induction rs generalizing s with
  | nil => rfl
  | cons r rs ih => exact (ih _).trans (secret_handle s r)

/-! ### Responses -/

def Response.IsSuccess (response : Response) : Prop :=
  200 ≤ response.status ∧ response.status < 300

@[simp] theorem status_sent (response : Response) (r : Request) :
    (response.sent r).status = response.status := by
  unfold Response.sent
  split <;> rfl

theorem isSuccess_of_ok (call : Call) (a : Answer) : (call.response (.ok a)).IsSuccess := by
  cases a with
  | done => cases call <;> exact ⟨Nat.le_of_ble_eq_true rfl, Nat.le_of_ble_eq_true rfl⟩
  | page | filters | values => exact ⟨Nat.le_refl _, Nat.le_of_ble_eq_true rfl⟩

theorem authorize_of_ne {secret : String} (wrong : r.header "authorization" ≠ some secret) :
    authorize secret r = .error .unauthorized := by
  unfold authorize
  refine if_pos ?_
  cases hsent : r.header "authorization" with
  | none => exact .inl rfl
  | some sent =>
    refine .inr fun heq => wrong ?_
    rw [hsent]
    exact congrArg some heq

theorem plan_of_unauthorized {secret : String} (post : r.method = .post)
    (writes : (Target.read r.target).path = "/commits" ∨ (Target.read r.target).path = "/refresh")
    (wrong : r.header "authorization" ≠ some secret) :
    plan secret r = .respond (.ofError .unauthorized) := by
  have hauthorize := authorize_of_ne wrong
  rcases writes with hpath | hpath
  · have hroute : Route.ofPath (Target.read r.target).path = some .commits := by
      rw [hpath]
      rfl
    have hknown : r.method ∈ Route.commits.methods := by simp [post, Route.methods]
    simp only [plan, hroute, if_pos hknown, planRoute, if_pos post, hauthorize]
    rfl
  · have hroute : Route.ofPath (Target.read r.target).path = some .refresh := by
      rw [hpath]
      rfl
    have hknown : r.method ∈ Route.refresh.methods := by simp [post, Route.methods]
    simp only [plan, hroute, if_pos hknown, planRoute, hauthorize]
    rfl

/-- A request that is answered without success changes nothing: the service is as before but for the
ended call, and no sweep was begun. Writing without the secret is never authorized, whatever the body
is. -/
theorem rejected_changes_nothing (rest : s.AtRest) (r : Request) :
    (¬ (s.handle r).1.IsSuccess →
      (s.handle r).2.script.service = s.script.service ∨
      ∃ e, (s.handle r).2.script.service =
        { s.script.service with tasks := s.script.service.tasks ++ [.ended (.error e)] }) ∧
    (r.method = .post →
      ((Target.read r.target).path = "/commits" ∨ (Target.read r.target).path = "/refresh") →
      r.header "authorization" ≠ some s.secret →
      (s.handle r).1 = ⟨401, ("content-type", "application/json") :: originHeaders,
        "\x7b\"error\":\"Invalid secret provided\"\x7d"⟩) := by
  constructor
  · intro failed
    obtain ⟨response, s', hhandle, handled⟩ := exists_handled rest r
    rw [hhandle] at failed ⊢
    cases handled with
    | known => exact .inl rfl
    | @called call answer _ _ returned =>
      cases answer with
      | ok a =>
        refine absurd ?_ failed
        rw [Response.IsSuccess, status_sent]
        exact isSuccess_of_ok call a
      | error e => exact .inr ⟨e, returned.rejected e rfl⟩
  · intro post writes wrong
    have hresponse : (s.handle r).1 = (Response.ofError .unauthorized).sent r := by
      have hmethod : r.method ≠ .options := by simp [post]
      simp only [Site.handle, if_neg hmethod, plan_of_unauthorized post writes wrong]
    have hmethod : r.method ≠ .head := by simp [post]
    rw [hresponse, Response.sent, if_neg hmethod]
    rfl

/-! ### A site with a snapshot and a cached result -/

/-- A site over one commit after a refresh and a search. -/
def searchedSite : Site :=
  (Site.fresh "s3cr3t" (.memory oneCommit) []).after
    [⟨.post, "/refresh", [("authorization", "s3cr3t")], ""⟩, ⟨.get, "/commits", [], ""⟩]

def unknownWords : Request := ⟨.get, "/commits?q=zzqxv", [], ""⟩

def wrongSecret : Request := ⟨.post, "/refresh", [("Authorization", "secret")], "ignored"⟩

/-- The search for unknown words comes to its error behind the cache and the flight. -/
theorem rejected_unknown_words :
    searchedSite.AtRest ∧ searchedSite.script.service.cache.entries.length = 1 ∧
    (searchedSite.handle unknownWords).1.status = 404 ∧
    ((searchedSite.handle unknownWords).2.script.service = searchedSite.script.service ∨
      ∃ e, (searchedSite.handle unknownWords).2.script.service = { searchedSite.script.service with
        tasks := searchedSite.script.service.tasks ++ [.ended (.error e)] }) ∧
    (searchedSite.handle wrongSecret).1 =
      ⟨401, ("content-type", "application/json") :: originHeaders,
        "\x7b\"error\":\"Invalid secret provided\"\x7d"⟩ := by
  have rest : searchedSite.AtRest := atRest_after (atRest_fresh _ _) _
  have cached : searchedSite.script.service.cache.entries.length = 1 := by decide +kernel
  have missing : (searchedSite.handle unknownWords).1.status = 404 := by decide +kernel
  have failed : ¬ (searchedSite.handle unknownWords).1.IsSuccess := by
    rw [Response.IsSuccess, missing]
    decide
  have wrong : wrongSecret.header "authorization" ≠ some searchedSite.secret := by
    have hsecret : searchedSite.secret = "s3cr3t" := secret_after _ _
    rw [hsecret]
    decide +kernel
  exact ⟨rest, cached, missing, (rejected_changes_nothing rest unknownWords).1 failed,
    (rejected_changes_nothing rest wrongSecret).2 rfl (.inr (by decide +kernel)) wrong⟩

end CommitSearch.Http
