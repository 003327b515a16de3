import CommitSearch.Schedule
import CommitSearch.Text.Numeral
import CommitSearch.Url

/-!
# Settings

What the program can be told when it is started. Every setting with a value has an option on the
command line and a variable in the environment; the option wins, and a variable that loses is not
looked at.
-/

namespace CommitSearch

open CommitSearch.Text

inductive Setting
  | port
  | databaseUrl
  | maxConnections
  | cacheUrl
  | secret
  | requestTimeout
  | refreshTime
  | refreshZone
deriving DecidableEq, Repr

/-- What a program that is started is to do. -/
structure Settings where
  port : Nat
  databaseUrl : Option String
  maxConnections : Nat
  cacheUrl : Option String
  secret : String
  requestTimeout : Nat
  refreshTime : String
  refreshZone : String
  refreshesDaily : Bool
  refreshesOnce : Bool
deriving DecidableEq, Repr

/-- Why settings cannot be read. Asking for help ends the program, too. -/
inductive UsageFault
  | helpWanted
  | unknownArgument
  | unknownCommand
  | unreadableValue
  | valueMissing
  | valueUnwanted
  | givenTwice
deriving DecidableEq, Repr

def UsageFault.exitCode : UsageFault → Nat
  | helpWanted => 0
  | _ => 2

namespace Setting

def all : List Setting :=
  [port, databaseUrl, maxConnections, cacheUrl, secret, requestTimeout, refreshTime, refreshZone]

def option : Setting → String
  | port => "port"
  | databaseUrl => "database-url"
  | maxConnections => "max-connections"
  | cacheUrl => "redis-url"
  | secret => "secret"
  | requestTimeout => "request-timeout-secs"
  | refreshTime => "refresh-at"
  | refreshZone => "refresh-timezone"

def variableName : Setting → String
  | port => "PORT"
  | databaseUrl => "DATABASE_URL"
  | maxConnections => "DATABASE_MAX_CONNECTIONS"
  | cacheUrl => "REDIS_URL"
  | secret => "HTTP_SECRET"
  | requestTimeout => "REQUEST_TIMEOUT_SECS"
  | refreshTime => "REFRESH_AT"
  | refreshZone => "REFRESH_TIMEZONE"

def ofOption (name : String) : Option Setting := all.find? fun s => s.option == name

/-- The number that a text gives a setting; nothing for settings that are no numbers. -/
def number (s : Setting) (text : String) : Option Nat :=
  match s with
  | port => readSignedCount Url.maxPort text
  | maxConnections => readSignedCount (Nat.pow 2 32 - 1) text
  | requestTimeout => readCount (Nat.pow 2 64 - 1) text
  | _ => none

def accepts (s : Setting) (text : String) : Bool :=
  match s with
  | port | maxConnections | requestTimeout => (s.number text).isSome
  | _ => true

theorem ofOption_option (s : Setting) : ofOption s.option = some s := by
  cases s <;> simp [ofOption, all, option]

end Setting

/-! ### Values from options and variables -/

abbrev SettingValues := List (Setting × String)

def SettingValues.value? (values : SettingValues) (s : Setting) : Option String :=
  (values.find? fun entry => entry.1 = s).map Prod.snd

/-- The values of the settings that have variables in an environment. -/
def valuesOfEnvironment (environment : List (String × String)) : SettingValues :=
  Setting.all.filterMap fun s =>
    (environment.find? fun entry => entry.1 == s.variableName).map fun entry => (s, entry.2)

namespace Settings

def ofValues (values : SettingValues) (refreshesDaily refreshesOnce : Bool) : Settings :=
  let text (s : Setting) (default : String) : String := (values.value? s).getD default
  let number (s : Setting) (default : Nat) : Nat := ((values.value? s).bind s.number).getD default
  { port := number .port 1080
    databaseUrl := values.value? .databaseUrl
    maxConnections := number .maxConnections 5
    cacheUrl := values.value? .cacheUrl
    secret := text .secret ""
    requestTimeout := number .requestTimeout 30
    refreshTime := text .refreshTime Schedule.defaultTime
    refreshZone := text .refreshZone Schedule.defaultZone
    refreshesDaily
    refreshesOnce }

/-- The settings of the values given by options and, where there are none, by variables. -/
def resolve (given : SettingValues) (environment : List (String × String))
    (refreshesDaily refreshesOnce : Bool) : Except UsageFault Settings :=
  let absent := (valuesOfEnvironment environment).filter fun entry => (given.value? entry.1).isNone
  if absent.all fun entry => entry.1.accepts entry.2 then
    .ok (ofValues (given ++ absent) refreshesDaily refreshesOnce)
  else .error .unreadableValue

end Settings
end CommitSearch
