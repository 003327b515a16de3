import CommitSearch.Commit.Json
import CommitSearch.Http.MediaType
import CommitSearch.Http.Message
import CommitSearch.Http.SearchParameters
import CommitSearch.Service

/-!
# Calls and plans

What a request asks for is found before anything is done: either its response is known at once, or
it is a call of the service, whose answer is made into the response. Writing needs the secret, which
is looked at before the body.
-/

namespace CommitSearch.Http

open CommitSearch.Json CommitSearch.Text

/-! ### Calls of the service -/

/-- What a request can ask of the service. -/
inductive Call
  | save (commit : Commit)
  | search (request : SearchRequest)
  | refresh
  | listFilters
  | listFilter (key : FilterKey)
deriving Repr

def Call.task : Call → Service.Task
  | save c => Service.saving c
  | search r => Service.searching r
  | refresh => Service.refreshing
  | listFilters => Service.listing none
  | listFilter key => Service.listing (some key)

/-- The values of all filters as JSON, in the order of the keys. -/
def encodeFilterValues (values : FilterValues) : String :=
  String.ofList (writeObject (values.map fun (key, vs) => (key.name, writeTexts vs)))

def Call.response (call : Call) (answer : Except Error Answer) : Response :=
  match answer with
  | .error e => .ofError e
  | .ok (.page p) => .json 200 p.answer
  | .ok (.filters values) => .json 200 (encodeFilterValues values)
  | .ok (.values values) => .json 200 (String.ofList (writeTexts values))
  | .ok .done => match call with
    | save _ => .bare 201
    | _ => .bare 204

/-! ### Plans -/

inductive Plan
  | respond (response : Response)
  | call (call : Call)
deriving Repr

/-- The plan of what was found out to be a call or an error. -/
def Plan.ofResult : Except Error Call → Plan
  | .ok asked => .call asked
  | .error e => .respond (.ofError e)

/-! ### Reading requests -/

def authorize (secret : String) (r : Request) : Except Error Unit :=
  let sent := (r.header "authorization").getD ""
  if sent.isEmpty ∨ sent ≠ secret then .error .unauthorized else .ok ()

def maxBodySize : Nat := 2 * 1024 * 1024

/-- Whether the body of a request is declared to be JSON. -/
def Request.hasJsonBody (r : Request) : Bool :=
  match (r.header "content-type").bind MediaType.read with
  | some m => m.isJson
  | none => false

def Request.commit (r : Request) : Except Error Commit :=
  if !r.hasJsonBody then .error (.refused .contentType)
  else if maxBodySize < r.body.utf8ByteSize then .error (.refused .bodyTooLong)
  else (Commit.decode r.body).mapError fun e => .refused (.unreadableBody e)

/-- The response to a parameter that is given twice where it can be given once. -/
def duplicateParameter (name : String) : Response :=
  .text 400 ("Failed to deserialize query string: duplicate field `" ++ name ++ "`")

/-- The plan of listing the values of filters: of the one that is named, or else of all. -/
def planFilters (parameters : List Parameter) : Plan :=
  let names := (parameters.filter fun p => p.1 = "name").map Prod.snd
  match names with
  | _ :: _ :: _ => .respond (duplicateParameter "name")
  | _ =>
    let name := trim (names.headD "")
    if name.isEmpty then .call .listFilters
    else .ofResult ((FilterKey.ofName name).map .listFilter)

/-- The plan of a request for a route that knows its method. -/
def planRoute (secret : String) (r : Request) (target : Target) : Route → Plan
  | .health => .respond (.bare 204)
  | .commits =>
    if r.method = .post then
      .ofResult do
        authorize secret r
        return .save (← r.commit)
    else .ofResult ((SearchRequest.ofParameters target.parameters).map .search)
  | .filters => planFilters target.parameters
  | .refresh =>
    .ofResult do
      authorize secret r
      return .refresh

def plan (secret : String) (r : Request) : Plan :=
  let target := Target.read r.target
  match Route.ofPath target.path with
  | none => .respond (.bare 404)
  | some route =>
    if r.method ∈ route.methods then planRoute secret r target route
    else .respond ((Response.bare 405).withHeaders [route.allow])

/-! ### Cross-origin access -/

def originHeaders : List Header :=
  [("access-control-allow-origin", "*"),
    ("vary", "origin, access-control-request-method, access-control-request-headers")]

def preflightHeaders : List Header :=
  [("access-control-allow-methods", "*"), ("access-control-allow-headers", "*")]

/-- The response to a question for what may be sent; on a route it names the methods, too. -/
def preflight (r : Request) : Response :=
  let allowed := match Route.ofPath (Target.read r.target).path with
    | some route => [route.allow]
    | none => []
  (Response.bare 200).withHeaders (preflightHeaders ++ allowed)

/-- A response as it is sent: those to requests for the head have no body. -/
def Response.sent (response : Response) (r : Request) : Response :=
  let response := response.withHeaders originHeaders
  if r.method = .head then response.withoutBody else response

end CommitSearch.Http
