import CommitSearch.Http.Plan
import CommitSearch.Service.Script

/-!
# The site

A site is a service with a secret. A request is handled while no other is in progress: the call that
it asks for is made, everything that the call leaves behind is done, and the answer becomes the
response.
-/

namespace CommitSearch.Http

open CommitSearch.Service

structure Site where
  secret : String
  script : Script

namespace Site

/-- A site over a store that has answered nothing yet; some points of its service fail. -/
def fresh (secret : String) (store : Store) (failing : List Point) : Site :=
  ⟨secret, .fresh store failing⟩

/-- Makes a call, and gives its answer, if it comes to one. -/
def perform (s : Site) (call : Call) : Option (Except Error Answer) × Site :=
  let id := s.script.service.tasks.length
  let script := s.script.step (.call call.task)
  match script.service.tasks[id]? with
  | some (.ended answer) => (some answer, { s with script })
  | _ => (none, { s with script })

def handle (s : Site) (r : Request) : Response × Site :=
  let idle : Site := { s with script := { s.script with log := [] } }
  let (response, s) :=
    if r.method = .options then (preflight r, idle)
    else match plan s.secret r with
      | .respond response => (response, idle)
      | .call call =>
        match s.perform call with
        | (some answer, s) => (call.response answer, s)
        | (none, s) => (.bare 408, s)
  (response.sent r, s)

end Site
end CommitSearch.Http
