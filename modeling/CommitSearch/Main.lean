import CommitSearch.Http.Site
import CommitSearch.Http.Wire
import CommitSearch.Settings.CommandLine
import CommitSearch.Startup
import CommitSearch.Text.Utf8

/-!
# The program

Reads the settings, starts, and then answers the requests that come on standard input, one after the
other, on standard output, until the input ends. Whoever starts the program connects the two. What
the program lets be known goes to standard error.
-/

namespace CommitSearch.Program

open CommitSearch.Http

/-- The options and what they are for, shown when help is wanted or an argument cannot be read. -/
def usage : String :=
  "Usage: changelog [OPTIONS] [refresh | help]\n\nOptions:\n" ++
    String.join (Setting.all.map fun s =>
      "      --" ++ s.option ++ " <VALUE>  [env: " ++ s.variableName ++ "]\n") ++
    "      --no-refresh-schedule\n  -h, --help\n"

def environment : IO (List (String × String)) :=
  Setting.all.filterMapM fun s => do
    return (← IO.getEnv s.variableName).map fun value => (s.variableName, value)

/-- No database is reached from here and no port is taken. -/
def surroundings : Surroundings := ⟨fun _ => .ok .disconnected, fun _ => false⟩

/-- The lines up to the next empty one, the newest first. -/
partial def readLines (input : IO.FS.Stream) (lines : List String) : IO (List String) := do
  let line ← input.getLine
  if (trimLine line).isEmpty then return lines else readLines input (line :: lines)

/-- The bytes of a body, or as many of them as there are. -/
partial def readBody (input : IO.FS.Stream) (length : Nat) (bytes : ByteArray) : IO ByteArray := do
  if length ≤ bytes.size then return bytes
  let more ← input.read (length - bytes.size).toUSize
  if more.isEmpty then return bytes else readBody input length (bytes ++ more)

/-- Answers requests until the input ends. -/
partial def serve (input output : IO.FS.Stream) (site : Site) : IO Unit := do
  let lines ← readLines input []
  if lines.isEmpty then return
  match readHead lines.reverse with
  | none =>
    output.putStr (Response.bare 400).write
    output.flush
  | some head =>
    let body ← readBody input head.bodyLength .empty
    let (response, site) := site.handle { head with body := Text.ofUtf8 body.toList }
    output.putStr response.write
    output.flush
    serve input output site

def report (notices : List Notice) : IO Unit := notices.forM fun n => IO.eprintln n.line

/-- Runs the program, and gives the code that it ends with. -/
def run (arguments : List String) : IO UInt32 := do
  match Settings.read arguments (← environment) with
  | .error f =>
    IO.eprint usage
    return f.exitCode.toUInt32
  | .ok settings =>
    if settings.refreshesOnce then
      let outcome := runUntilInterrupt surroundings settings
      IO.eprint outcome.report
      return outcome.code.toUInt32
    let started := start surroundings settings
    report started.notices
    match started.result with
    | .error f =>
      IO.eprint f.report
      return 1
    | .ok running =>
      serve (← IO.getStdin) (← IO.getStdout) (.fresh running.secret running.store [])
      report [.shuttingDown]
      return 0

end CommitSearch.Program

def main (arguments : List String) : IO UInt32 := CommitSearch.Program.run arguments
