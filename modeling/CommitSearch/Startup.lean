import CommitSearch.Settings
import CommitSearch.Store
import CommitSearch.Text.CodeRanges

/-!
# Starting the program

A start goes through its steps in order and stops at the first that fails: the one-time refresh
instead of all else when it is asked for, then secret, schedule, store, cache and port. What is
outside of the program, databases and cache servers that are reached by their URLs and the ports in
use, is given as `Surroundings`.
-/

namespace CommitSearch

open CommitSearch.Text

inductive StartFault
  | secretMissing
  | databaseMissing
  | schedule (e : Error)
  | database (e : Error)
  | refresh (e : Error)
  | cache (e : Error)
  | portTaken (port : Nat)
deriving DecidableEq, Repr

namespace StartFault

/-- The chain of messages from a fault to its innermost source. -/
def chain : StartFault → List String
  | secretMissing => ["a non-blank secret is required (--secret or HTTP_SECRET)"]
  | databaseMissing => ["refresh requires a database (--database-url or DATABASE_URL)"]
  | schedule e => e.chain
  | database e => "unable to connect to database" :: e.chain
  | refresh e => "refresh failed" :: e.chain
  | cache e => "unable to connect to redis" :: e.chain
  | portTaken port =>
    ["unable to bind to port " ++ toString port, "Address already in use (os error 98)"]

end StartFault

/-- The lines about causes: a single one is not numbered. -/
def causeLines : List String → List String
  | [] => []
  | [cause] => ["", "Caused by:", "    " ++ cause]
  | causes =>
    ["", "Caused by:"] ++ causes.mapIdx fun i cause => "    " ++ toString i ++ ": " ++ cause

/-- The report about a fault with its causes, from a chain of messages. -/
def reportChain : List String → String
  | [] => ""
  | message :: causes =>
    String.join ((("Error: " ++ message) :: causeLines causes).map fun line => line ++ "\n")

def StartFault.report (f : StartFault) : String := reportChain f.chain

/-- What a start lets be known. -/
inductive Notice
  | storeInMemory
  | cacheInMemory
  | notRefreshedDaily
  | listening (port : Nat)
  | shuttingDown
deriving DecidableEq, Repr

namespace Notice

def level : Notice → String
  | storeInMemory => "WARN"
  | _ => "INFO"

def text : Notice → String
  | storeInMemory => "no database configured, commits are kept in memory"
  | cacheInMemory => "no redis configured, searches are cached in memory"
  | notRefreshedDaily => "daily lexeme refresh disabled"
  | listening port => "changelog listening addr=0.0.0.0:" ++ toString port
  | shuttingDown => "shutting down"

def line (n : Notice) : String := n.level ++ " " ++ n.text

end Notice

/-! ### Where databases and cache servers are -/

/-- What is outside of the program. -/
structure Surroundings where
  database : Url → Except Error Store
  isTaken : Nat → Bool

inductive CachePlace
  | memory
  | server (url : Url)
deriving DecidableEq, Repr

def Surroundings.connect (s : Surroundings) (text : String) : Except StartFault Store :=
  match Url.read text with
  | .error f => .error (.database (.storage "connect" (.unreadableUrl f)))
  | .ok url => (s.database url).mapError .database

def cacheHostSchemes : List String := ["redis", "rediss"]

/-- The schemes of servers that are reached through a local socket. -/
def cacheSocketSchemes : List String := ["redis+unix", "unix"]

/-- The URL of a cache server has one of some schemes. One that is not for a local socket names a
host. -/
def readCacheLocation (text : String) : Except Error Url :=
  match Url.read text with
  | .error _ => .error (.cache "open" .unreadableUrl)
  | .ok url =>
    if cacheSocketSchemes.contains url.scheme then .ok url
    else if !cacheHostSchemes.contains url.scheme then .error (.cache "open" .unreadableUrl)
    else if url.host.isNone then .error (.cache "open" .missingHostname)
    else .ok url

/-! ### Steps of a start -/

def refreshOnce (s : Surroundings) (settings : Settings) : Except StartFault Store :=
  match settings.databaseUrl with
  | none => .error .databaseMissing
  | some text =>
    match s.connect text with
    | .error f => .error f
    | .ok store => store.refresh.mapError .refresh

def openStore (s : Surroundings) (settings : Settings) : Except StartFault Store :=
  match settings.databaseUrl with
  | none => .ok (.memory .empty)
  | some text => s.connect text

def openCache (settings : Settings) : Except StartFault CachePlace :=
  match settings.cacheUrl with
  | none => .ok .memory
  | some text =>
    match readCacheLocation text with
    | .ok url => .ok (.server url)
    | .error e => .error (.cache e)

/-- What a program that has started works with. -/
structure Running where
  store : Store
  cache : CachePlace
  secret : String
  schedule : Option Schedule.Daily
  port : Nat
deriving Repr

/-- What a start came to: what it let be known, and what it ended with. -/
structure Start (α : Type) where
  notices : List Notice
  result : Except StartFault α

namespace Start

def ofResult {α : Type} (result : Except StartFault α) : Start α := ⟨[], result⟩

def andThen {α β : Type} (a : Start α) (next : α → Start β) : Start β :=
  match a.result with
  | .error f => ⟨a.notices, .error f⟩
  | .ok x => ⟨a.notices ++ (next x).notices, (next x).result⟩

instance : Monad Start where
  pure x := ⟨[], .ok x⟩
  bind := andThen

def noticeIf (condition : Bool) (n : Notice) : Start Unit := ⟨if condition then [n] else [], .ok ()⟩

end Start

/-- The secret without the blanks around it; there has to be one. -/
def readSecret (settings : Settings) : Except StartFault String :=
  let secret := trim settings.secret
  if secret.isEmpty then .error .secretMissing else .ok secret

/-- The schedule of the settings, which has to be readable even if it is not kept. -/
def readSchedule (settings : Settings) : Except StartFault (Option Schedule.Daily) :=
  match Schedule.Daily.read settings.refreshTime settings.refreshZone with
  | .error e => .error (.schedule e)
  | .ok d => .ok (if settings.refreshesDaily then some d else none)

def listen (s : Surroundings) (port : Nat) : Except StartFault Unit :=
  if s.isTaken port then .error (.portTaken port) else .ok ()

def start (s : Surroundings) (settings : Settings) : Start Running := do
  let secret ← .ofResult (readSecret settings)
  let schedule ← .ofResult (readSchedule settings)
  Start.noticeIf settings.databaseUrl.isNone .storeInMemory
  let store ← .ofResult (openStore s settings)
  Start.noticeIf settings.cacheUrl.isNone .cacheInMemory
  let cache ← .ofResult (openCache settings)
  Start.noticeIf schedule.isNone .notRefreshedDaily
  .ofResult (listen s settings.port)
  Start.noticeIf true (.listening settings.port)
  return { store, cache, secret, schedule, port := settings.port }

/-- How a run of the program ended: its code, what it logged, and its report. -/
structure Outcome where
  code : Nat
  notices : List Notice
  report : String
deriving Repr

/-- The outcome of a start that is interrupted as soon as it is over. -/
def Start.outcome {α : Type} (a : Start α) (last : List Notice) : Outcome :=
  match a.result with
  | .ok _ => ⟨0, a.notices ++ last, ""⟩
  | .error f => ⟨1, a.notices, f.report⟩

def runUntilInterrupt (s : Surroundings) (settings : Settings) : Outcome :=
  if settings.refreshesOnce then (Start.ofResult (refreshOnce s settings)).outcome []
  else (start s settings).outcome [.shuttingDown]

end CommitSearch
