import CommitSearch.Proofs.Http.Rejections
import CommitSearch.Proofs.Service.Holdings
import CommitSearch.Proofs.Service.Redaction

/-!
# Traffic

Requests that come while others are in progress, their steps in any order, over a store and a cache of
any kind. Main statement: no response tells more of an error of the server than that there was one.
Over two backends that differ in the details of their errors alone, all traffic has the same responses,
those of searches with a share in another's error included.
-/

namespace CommitSearch.Http

open CommitSearch.Service

/-- How a request is handled: its response is known at once, or made from the answer to a call. -/
inductive Handling
  | known (response : Response)
  | called (call : Call) (id : Nat)

/-- A service with a secret, the requests so far and how each is handled. -/
structure Traffic (σ : Type) where
  secret : String
  service : State
  backend : σ
  handled : List (Request × Handling)

/-- What can happen at a site: requests and scheduled refreshes come, tasks take their steps, calls are
given up for their time, and time passes. -/
inductive Traffic.Event
  | request (r : Request)
  | refresh
  | step (id : Nat)
  | drop (id : Nat)
  | wait (duration : Nat)

namespace Traffic

variable {σ τ : Type}

def fresh (secret : String) (x : σ) : Traffic σ := ⟨secret, Service.fresh .disconnected, x, []⟩

/-- What a request comes to before anything is done. -/
def planned (t : Traffic σ) (r : Request) : Plan :=
  if r.method = .options then .respond (preflight r) else plan t.secret r

def receive (t : Traffic σ) (r : Request) : Traffic σ :=
  match t.planned r with
  | .respond response => { t with handled := t.handled ++ [(r, .known response)] }
  | .call call =>
    let started := t.service.start call.task
    { t with service := started.1, handled := t.handled ++ [(r, .called call started.2)] }

/-- What a backend replies to a task. -/
def replies (b : Backend σ) (t : Traffic σ) (id : Nat) : Replies := fun op => b.reply id op t.backend

def step (b : Backend σ) (t : Traffic σ) (id : Nat) : Traffic σ :=
  match t.service.stepOn (t.replies b id) id with
  | none => t
  | some m =>
    { t with service := m.state, backend := b.afterStep id (t.service.asked id) t.backend }

def drop (t : Traffic σ) (id : Nat) : Traffic σ :=
  match t.service.drop id with
  | none => t
  | some m => { t with service := m.state }

/-- An event that is not possible changes nothing. -/
def occur (b : Backend σ) (t : Traffic σ) : Event → Traffic σ
  | .request r => t.receive r
  | .refresh => { t with service := (t.service.start refreshing).1 }
  | .step id => t.step b id
  | .drop id => t.drop id
  | .wait duration => { t with backend := b.wait duration t.backend }

def after (b : Backend σ) (t : Traffic σ) (events : List Event) : Traffic σ :=
  events.foldl (occur b) t

/-! ### Responses -/

/-- The response that is made of a call where it stands. -/
def responseOf (call : Call) : Task → Option Response
  | .ended answer => some (call.response answer)
  | .dropped => some (.bare 408)
  | _ => none

/-- The response to a request, if it has one. -/
def response (t : Traffic σ) : Request × Handling → Option Response
  | (r, .known response) => some (response.sent r)
  | (r, .called call id) =>
    ((t.service.tasks[id]?).bind (responseOf call)).map fun response => response.sent r

/-- The responses to all requests so far, in the order of the requests. -/
def responses (t : Traffic σ) : List (Option Response) := t.handled.map t.response

theorem ofError_redacted (e : Error) : Response.ofError e.redacted = Response.ofError e := by
  rw [Response.ofError, Error.status_redacted, Error.clientText_redacted]
  rfl

theorem response_redact (call : Call) (answer : Except Error Answer) :
    call.response (redact answer) = call.response answer := by
  cases answer with
  | ok => rfl
  | error e => exact ofError_redacted e

theorem responseOf_redacted (call : Call) (t : Task) :
    responseOf call t.redacted = responseOf call t := by
  cases t with
  | ended answer => exact congrArg some (response_redact call answer)
  | _ => rfl

/-! ### Traffic that agrees -/

/-- Two sites have come to the same, but for the details of errors. -/
structure Agree (related : σ → τ → Prop) (t : Traffic σ) (u : Traffic τ) : Prop where
  secret : t.secret = u.secret
  service : t.service.redacted = u.service.redacted
  backend : related t.backend u.backend
  handled : t.handled = u.handled

variable {a : Backend σ} {b : Backend τ} {related : σ → τ → Prop} {t : Traffic σ} {u : Traffic τ}

theorem Agree.standing (h : Agree related t u) (id : Nat) :
    (t.service.tasks[id]?).map Task.redacted = (u.service.tasks[id]?).map Task.redacted := by
  rw [← getElem_redacted, ← getElem_redacted, h.service]

theorem Agree.asked (h : Agree related t u) (id : Nat) : t.service.asked id = u.service.asked id := by
  have hasks : ∀ o : Option Task, o.bind Task.asks = (o.map Task.redacted).bind Task.asks := by
    rintro (- | t) <;> simp
  rw [State.asked, State.asked, hasks, h.standing, ← hasks]

theorem Agree.responses (h : Agree related t u) : t.responses = u.responses := by
  have hcalled : ∀ (call : Call) (o : Option Task),
      o.bind (responseOf call) = (o.map Task.redacted).bind (responseOf call) := by
    rintro call (- | t) <;> simp [responseOf_redacted]
  have hresponse : ∀ handled, t.response handled = u.response handled := by
    rintro ⟨r, response | ⟨call, id⟩⟩
    · rfl
    · rw [response, response, hcalled, h.standing, ← hcalled]
  rw [Traffic.responses, Traffic.responses, h.handled]
  exact List.map_congr_left fun handled _ => hresponse handled

theorem Agree.start (h : Agree related t u) (task : Task) :
    (t.service.start task).1.redacted = (u.service.start task).1.redacted ∧
      (t.service.start task).2 = (u.service.start task).2 := by
  have hlength : ∀ s : State, s.tasks.length = s.redacted.tasks.length := fun s => by
    simp [State.redacted]
  refine ⟨by rw [redacted_start, redacted_start, h.service], ?_⟩
  rw [State.start, State.start, hlength, hlength u.service, h.service]

theorem Agree.receive (h : Agree related t u) (r : Request) :
    Agree related (t.receive r) (u.receive r) := by
  have hplanned : t.planned r = u.planned r := by rw [planned, planned, h.secret]
  unfold Traffic.receive
  rw [hplanned]
  cases u.planned r with
  | respond response => exact ⟨h.secret, h.service, h.backend, by rw [h.handled]⟩
  | call call =>
    obtain ⟨hservice, hid⟩ := h.start call.task
    exact ⟨h.secret, hservice, h.backend, by simp only [hid, h.handled]⟩

theorem moves_of_redacted {o o' : Option Move}
    (same : o.map Move.redacted = o'.map Move.redacted) :
    o = none ∧ o' = none ∨
      ∃ m m', o = some m ∧ o' = some m' ∧ m.state.redacted = m'.state.redacted := by
  cases o with
  | none =>
    cases o' with
    | none => exact .inl ⟨rfl, rfl⟩
    | some m' => cases same
  | some m =>
    cases o' with
    | none => cases same
    | some m' => exact .inr ⟨m, m', rfl, rfl, congrArg Move.state (Option.some.inj same)⟩

/-- A step leads sites that agree to sites that agree. -/
theorem Agree.step (h : Agree related t u) (alike : Backend.Alike a b related) (id : Nat) :
    Agree related (t.step a id) (u.step b id) := by
  have hreplies : (t.replies a id).redacted = (u.replies b id).redacted :=
    funext fun op => alike.reply h.backend id op
  -- Redacted, the states and the replies are the same, and so are the steps.
  have hstep : (t.service.stepOn (t.replies a id) id).map Move.redacted =
      (u.service.stepOn (u.replies b id) id).map Move.redacted := by
    rw [redacted_stepOn, hreplies, h.service, ← redacted_stepOn]
  unfold Traffic.step
  rcases moves_of_redacted hstep with ⟨ht, hu⟩ | ⟨m, m', ht, hu, hservice⟩
  · rw [ht, hu]
    exact h
  · rw [ht, hu]
    refine ⟨h.secret, hservice, ?_, h.handled⟩
    rw [h.asked]
    exact alike.afterStep h.backend id _

theorem Agree.drop (h : Agree related t u) (id : Nat) :
    Agree related (t.drop id) (u.drop id) := by
  have hdrop : (t.service.drop id).map Move.redacted = (u.service.drop id).map Move.redacted := by
    rw [redacted_drop, h.service, ← redacted_drop]
  unfold Traffic.drop
  rcases moves_of_redacted hdrop with ⟨ht, hu⟩ | ⟨m, m', ht, hu, hservice⟩
  · rw [ht, hu]
    exact h
  · rw [ht, hu]
    exact ⟨h.secret, hservice, h.backend, h.handled⟩

theorem Agree.occur (h : Agree related t u) (alike : Backend.Alike a b related) (e : Event) :
    Agree related (t.occur a e) (u.occur b e) := by
  cases e with
  | request r => exact h.receive r
  | refresh => exact ⟨h.secret, (h.start refreshing).1, h.backend, h.handled⟩
  | step id => exact h.step alike id
  | drop id => exact h.drop id
  | wait duration => exact ⟨h.secret, h.service, alike.wait h.backend duration, h.handled⟩

theorem Agree.after (h : Agree related t u) (alike : Backend.Alike a b related)
    (events : List Event) : Agree related (t.after a events) (u.after b events) := by
  induction events generalizing t u with
  | nil => exact h
  | cons e rest ih => exact ih (h.occur alike e)

end Traffic

open Traffic

/-- Over backends that do alike but for the details of their errors, the same requests have the same
responses, whatever happens in between. -/
theorem details_never_sent {σ τ : Type} {a : Backend σ} {b : Backend τ} {related : σ → τ → Prop}
    (alike : Backend.Alike a b related) {x : σ} {y : τ} (start : related x y) (secret : String)
    (events : List Traffic.Event) :
    ((Traffic.fresh secret x).after a events).responses =
      ((Traffic.fresh secret y).after b events).responses := by
  have h : Agree related (Traffic.fresh secret x) (Traffic.fresh secret y) := ⟨rfl, rfl, start, rfl⟩
  exact (h.after alike events).responses

/-- Two requests for all commits; the second waits while the first reads the store. -/
def sharedSearch : List Traffic.Event :=
  let search : Traffic.Event := .request ⟨.get, "/commits", [], ""⟩
  [search, search] ++ [0, 0, 0, 1, 1, 1, 0, 0, 0, 0, 1].map .step

/-- An empty store whose first read fails. -/
def failing (e : Error) : Holdings := ⟨.memory .empty, .empty, 0, [none, none, none, some e]⟩

def timedOut : Error := .storage "search commits" .poolTimedOut

def diskFull : Error := .internal "disk full"

def shared (e : Error) : Traffic Holdings :=
  (Traffic.fresh "" (failing e)).after Holdings.backend sharedSearch

def errorOf : Task → Option Error
  | .ended (.error e) => some e
  | _ => none

/-- The second search ends with a copy of the error of the first, text and all, and its response is
the same over a store that fails otherwise. -/
theorem details_never_sent_shared :
    ((shared timedOut).service.tasks.map errorOf = [some timedOut, some timedOut.replica] ∧
      (shared diskFull).service.tasks.map errorOf = [some diskFull, some diskFull.replica]) ∧
      (shared timedOut).responses = (shared diskFull).responses ∧
      (shared diskFull).responses.map (Option.map Response.status) = [some 500, some 500] := by
  have same : (failing timedOut).redacted = (failing diskFull).redacted := rfl
  have hresponses := details_never_sent alike_holdings same "" sharedSearch
  exact ⟨⟨by decide +kernel, by decide +kernel⟩, hresponses, by decide +kernel⟩

/-! ### Traffic over the own store and cache -/

/-- The service with what it holds itself. -/
def Traffic.served (t : Traffic Holdings) : State := t.service.holding t.backend

theorem exists_run_of_occur {store : Store} {t : Traffic Holdings}
    (reached : ∃ acts count, Run (Service.fresh store) acts count t.served) (e : Traffic.Event) :
    ∃ acts count, Run (Service.fresh store) acts count (t.occur Holdings.backend e).served := by
  obtain ⟨acts, count, run⟩ := reached
  cases e with
  | request r =>
    dsimp only [occur, receive]
    cases t.planned r with
    | respond response => exact ⟨acts, count, run⟩
    | call call =>
      obtain ⟨c, hc⟩ := exists_call call
      have next : t.served.act (.call c) =
          some ((t.service.start call.task).1.holding t.backend) := by
        rw [State.act, hc]
        rfl
      exact ⟨_, _, run.act next⟩
  | refresh => exact ⟨_, _, run.act (a := .call .refresh) rfl⟩
  | step id =>
    have hstep : t.served.step id t.backend.nextFault =
        (t.service.stepOn (t.replies Holdings.backend id) id).map fun m =>
          m.holding (Holdings.backend.afterStep id (t.service.asked id) t.backend) :=
      step_holding run id
    dsimp only [occur, Traffic.step]
    cases hm : t.service.stepOn (t.replies Holdings.backend id) id with
    | none => exact ⟨acts, count, run⟩
    | some m =>
      have next : t.served.act (.step id t.backend.nextFault) =
          some (m.state.holding (Holdings.backend.afterStep id (t.service.asked id) t.backend)) := by
        rw [State.act, hstep, hm]
        rfl
      exact ⟨_, _, run.act next⟩
  | drop id =>
    have hdrop : t.served.drop id = (t.service.drop id).map fun m => m.holding t.backend :=
      drop_holding t.service t.backend id
    dsimp only [occur, Traffic.drop]
    cases hm : t.service.drop id with
    | none => exact ⟨acts, count, run⟩
    | some m =>
      have next : t.served.act (.drop id) = some (m.state.holding t.backend) := by
        rw [State.act, hdrop, hm]
        rfl
      exact ⟨_, _, run.act next⟩
  | wait duration => exact ⟨_, _, run.act (a := .wait duration) rfl⟩

/-- Traffic over the store and cache that the service holds itself is a run of the service. -/
theorem exists_run_of_traffic (secret : String) (store : Store) (faults : List (Option Error))
    (events : List Traffic.Event) :
    ∃ acts count, Run (Service.fresh store) acts count
      ((Traffic.fresh secret ⟨store, .empty, 0, faults⟩).after Holdings.backend events).served := by
  have hafter : ∀ t : Traffic Holdings,
      (∃ acts count, Run (Service.fresh store) acts count t.served) →
      ∃ acts count, Run (Service.fresh store) acts count (t.after Holdings.backend events).served := by
    induction events with
    | nil => exact fun t reached => reached
    | cons e rest ih => exact fun t reached => ih _ (exists_run_of_occur reached e)
  exact hafter _ ⟨[], 0, .nothing⟩

end CommitSearch.Http
