import CommitSearch.Settings

/-!
# Command lines

A command line holds options and, behind them, at most one command. An option has two dashes and its
name; its value follows an equals sign or is the next argument, which then does not begin with a
dash. The port has a short option with one dash, whose value can follow directly.

A value in an argument of its own is looked at when the next known option is met, or else at the
end. What is unknown meanwhile is found first.
-/

namespace CommitSearch

/-- What was found on a command line so far. An option whose value is still to be looked at is
opened: its value may be the next argument. -/
structure CommandLine where
  values : SettingValues
  unscheduled : Bool
  opened : Option (Setting × Option String)
deriving DecidableEq, Repr

inductive Argument
  | dashes
  | long (name : String) (value : Option String)
  | short (letter : Char) (rest : List Char)
  | plain (text : String)
deriving DecidableEq, Repr

/-- The form of an argument, from the dashes at its head. -/
def Argument.ofText (text : String) : Argument :=
  match text.toList with
  | ['-', '-'] => .dashes
  | '-' :: '-' :: rest =>
    let name := String.ofList (rest.takeWhile (· != '='))
    match rest.dropWhile (· != '=') with
    | _ :: value => .long name (some (String.ofList value))
    | [] => .long name none
  | '-' :: letter :: rest => .short letter rest
  | _ => .plain text

namespace CommandLine

def empty : CommandLine := ⟨[], false, none⟩

def give (c : CommandLine) (s : Setting) (value : String) : Except UsageFault CommandLine :=
  if (c.values.value? s).isSome then .error .givenTwice
  else if s.accepts value then .ok { c with values := c.values ++ [(s, value)] }
  else .error .unreadableValue

def close (c : CommandLine) : Except UsageFault CommandLine :=
  match c.opened with
  | none => .ok c
  | some (_, none) => .error .valueMissing
  | some (s, some value) => { c with opened := none }.give s value

/-- Takes an option of a setting, with its value if it stands in the same argument. -/
def meet (c : CommandLine) (s : Setting) (value : Option String) :
    Except UsageFault CommandLine := do
  let c ← c.close
  match value with
  | some value => c.give s value
  | none => return { c with opened := some (s, none) }

/-- Asking for help, by the name of the option or by its letter. -/
def help (c : CommandLine) : Except UsageFault CommandLine := do
  let _ ← c.close
  throw .helpWanted

/-- Takes the option without value that turns the daily refresh off. -/
def unschedule (c : CommandLine) : Except UsageFault CommandLine := do
  let c ← c.close
  if c.unscheduled then throw .givenTwice else return { c with unscheduled := true }

def readLong (c : CommandLine) (name : String) (value : Option String) :
    Except UsageFault CommandLine :=
  match Setting.ofOption name with
  | some s => c.meet s value
  | none =>
    if name = "no-refresh-schedule" then
      if value.isSome then .error .valueUnwanted else c.unschedule
    else if name = "help" then
      if value.isSome then .error .valueUnwanted else c.help
    else .error .unknownArgument

/-- Takes an option by its letter; an equals sign before its value does not count. -/
def readShort (c : CommandLine) (letter : Char) (rest : List Char) :
    Except UsageFault CommandLine :=
  if letter = 'p' then
    match rest with
    | [] => c.meet .port none
    | '=' :: value => c.meet .port (some (String.ofList value))
    | value => c.meet .port (some (String.ofList value))
  else if letter = 'h' then c.help
  else .error .unknownArgument

/-- What follows the command to refresh: nothing, or a wish for help. -/
def readRefresh : List String → Except UsageFault Unit
  | [] => .ok ()
  | argument :: rest =>
    match Argument.ofText argument with
    | .dashes => if rest.isEmpty then .ok () else .error .unknownArgument
    | .long "help" none | .short 'h' _ => .error .helpWanted
    | .long "help" (some _) => .error .valueUnwanted
    | _ => .error .unknownArgument

/-- What follows the command for help: a command, or nothing. -/
def readHelp : List String → UsageFault
  | [] | ["refresh"] | ["help"] => .helpWanted
  | _ => .unknownCommand

def readCommand (command : String) (rest : List String) : Except UsageFault Unit :=
  if command = "refresh" then readRefresh rest
  else if command = "help" then .error (readHelp rest)
  else .error .unknownCommand

/-- Reads arguments; the answer tells whether the command to refresh was given, too. -/
def readArguments : CommandLine → List String → Except UsageFault (CommandLine × Bool)
  | c, [] => c.close.map fun c => (c, false)
  | c, argument :: rest =>
    match Argument.ofText argument with
    | .dashes =>
      if rest.isEmpty then c.close.map fun c => (c, false) else .error .unknownArgument
    | .long name value =>
      match c.readLong name value with
      | .ok c => readArguments c rest
      | .error f => .error f
    | .short letter letters =>
      match c.readShort letter letters with
      | .ok c => readArguments c rest
      | .error f => .error f
    | .plain text =>
      match c.opened with
      | some (s, none) => readArguments { c with opened := some (s, some text) } rest
      | _ =>
        match readCommand text rest with
        | .ok _ => c.close.map fun c => (c, true)
        | .error f => .error f

end CommandLine

def Settings.read (arguments : List String) (environment : List (String × String)) :
    Except UsageFault Settings := do
  let (c, refreshesOnce) ← CommandLine.empty.readArguments arguments
  Settings.resolve c.values environment (!c.unscheduled) refreshesOnce

end CommitSearch
