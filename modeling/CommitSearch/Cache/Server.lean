import CommitSearch.Error

/-!
# The cache on a server

The operations of the cache as commands to a server. A value is written together with its lifetime,
in whole seconds and at least one. Keys of a pattern are found by scanning: the server answers with
some of them and a cursor, and the scan ends when the cursor is zero. Every batch is deleted before
the scan goes on, and the first refused command ends the operation.

The server is a step function on commands, so that nothing is assumed about it. Cursors and numbers
of keys have 64 bits, and the sum of such numbers wraps around. `ScriptedServer` is one whose scans are
given in advance.
-/

namespace CommitSearch

inductive Command
  | get (key : String)
  | setWithLifetime (key : String) (seconds : Nat) (value : String)
  | scan (cursor : UInt64) (pattern : String)
  | delete (keys : List String)
deriving DecidableEq, Repr

/-- The number of keys that a scan asks for at a time. -/
def scanBatch : Nat := 100

def Command.name : Command → String
  | get _ => "GET"
  | setWithLifetime _ _ _ => "SETEX"
  | scan _ _ => "SCAN"
  | delete _ => "DEL"

def Command.words : Command → List String
  | get key => ["GET", key]
  | setWithLifetime key seconds value => ["SETEX", key, toString seconds, value]
  | scan cursor pattern =>
    ["SCAN", toString cursor, "MATCH", pattern, "COUNT", toString scanBatch]
  | delete keys => "DEL" :: keys

/-- The answer of a server to a command. -/
inductive Reply
  | value (value : Option String)
  | done
  | page (cursor : UInt64) (keys : List String)
  | removed (count : UInt64)
  | refused (detail : String)
deriving DecidableEq, Repr

/-- A server: how it answers a command in a state. -/
abbrev Server (σ : Type) := σ → Command → Reply × σ

/-- What an operation came to: its result, the commands it sent, and the server after it. -/
structure Exchange (σ α : Type) where
  result : Except Error α
  sent : List Command
  server : σ

namespace Server

variable {σ : Type}

/-- The error of an operation whose command was not answered as it should be. -/
def replyError (operation : String) : Reply → Error
  | .refused detail => .cache operation (.signalled detail)
  | _ => .cache operation (.badReply "")

def get (server : Server σ) (s : σ) (key : String) : Exchange σ (Option String) :=
  let command := Command.get key
  match server s command with
  | (.value v, s) => ⟨.ok v, [command], s⟩
  | (reply, s) => ⟨.error (replyError "get" reply), [command], s⟩

/-- The whole seconds of a lifetime in milliseconds, at least one. -/
def wholeSeconds (milliseconds : Nat) : Nat := max 1 (milliseconds / 1000)

/-- Puts a text under a key for a time in milliseconds. -/
def set (server : Server σ) (s : σ) (key value : String) (lifetime : Nat) : Exchange σ Unit :=
  let command := Command.setWithLifetime key (wholeSeconds lifetime) value
  match server s command with
  | (.done, s) => ⟨.ok (), [command], s⟩
  | (reply, s) => ⟨.error (replyError "set" reply), [command], s⟩

/-- Deletes a batch of keys, if it holds any, and gives their number. -/
def deleteBatch (server : Server σ) (s : σ) (keys : List String) : Exchange σ UInt64 :=
  if keys.isEmpty then ⟨.ok 0, [], s⟩
  else
    let command := Command.delete keys
    match server s command with
    | (.removed count, s) => ⟨.ok count, [command], s⟩
    | (reply, s) => ⟨.error (replyError "delete" reply), [command], s⟩

/-- Scans on from a cursor with `removed` keys deleted so far, at most `fuel` times; nothing if the
scan is not over by then. -/
def deleteFrom (server : Server σ) (pattern : String) :
    Nat → UInt64 → UInt64 → σ → Option (Exchange σ UInt64)
  | 0, _, _, _ => none
  | fuel + 1, cursor, removed, s =>
    let command := Command.scan cursor pattern
    match server s command with
    | (.page next keys, s) =>
      let batch := server.deleteBatch s keys
      match batch.result with
      | .error e => some ⟨.error e, command :: batch.sent, batch.server⟩
      | .ok count =>
        if next = 0 then some ⟨.ok (removed + count), command :: batch.sent, batch.server⟩
        else (deleteFrom server pattern fuel next (removed + count) batch.server).map fun rest =>
          { rest with sent := command :: batch.sent ++ rest.sent }
    | (reply, s) => some ⟨.error (replyError "scan" reply), [command], s⟩

end Server

/-! ### A server with given scans -/

/-- A server that keeps texts without lifetimes, answers scans from a list, and refuses the commands
of some names. -/
structure ScriptedServer where
  entries : List (String × String)
  pages : List (Nat × List String)
  refused : List String
deriving Repr

namespace ScriptedServer

/-- Removes keys one after the other and counts those that were there. -/
def remove : List String → List (String × String) → Nat × List (String × String)
  | [], entries => (0, entries)
  | key :: keys, entries =>
    let kept := entries.filter fun e => e.1 != key
    let (count, rest) := remove keys kept
    (count + if kept.length < entries.length then 1 else 0, rest)

/-- The answer to a scan with a given cursor. One that has more than 64 bits cannot be read. -/
def page (cursor : Nat) (keys : List String) : Reply :=
  if cursor < UInt64.size then .page (.ofNat cursor) keys else .done

/-- The answer to a command. A refused command has no effect. -/
def answer : Server ScriptedServer := fun s command =>
  if s.refused.contains command.name then (.refused "refused", s)
  else match command with
    | .get key => (.value ((s.entries.find? fun e => e.1 == key).map Prod.snd), s)
    | .setWithLifetime key _ value =>
      (.done, { s with entries := (key, value) :: s.entries.filter fun e => e.1 != key })
    | .scan _ _ =>
      match s.pages with
      | [] => (.page 0 [], s)
      | (cursor, keys) :: pages => (page cursor keys, { s with pages })
    | .delete keys =>
      let (count, entries) := remove keys s.entries
      (.removed (.ofNat count), { s with entries })

/-- Deletes the keys of a pattern. The given scans are over before their number and one more. -/
def deletePattern (s : ScriptedServer) (pattern : String) : Exchange ScriptedServer Nat :=
  let x := (Server.deleteFrom answer pattern (s.pages.length + 1) 0 0 s).getD ⟨.ok 0, [], s⟩
  ⟨x.result.map UInt64.toNat, x.sent, x.server⟩

end ScriptedServer
end CommitSearch
