import CommitSearch.Calendar.Reader
import CommitSearch.Json.Reader
import CommitSearch.Url

/-!
# Errors

Every error of the service is a cause with one message. Three kinds are the client's: a request that
is refused, something that is not found, and a wrong secret. The others are the server's; their
details are logged and never answered.
-/

namespace CommitSearch

open CommitSearch.Calendar CommitSearch.Json

/-- A field that every commit has to have. -/
inductive RequiredField
  | hash
  | type
  | content
  | date
  | remote
  | repository
deriving DecidableEq, Repr

inductive Refusal
  | fieldRequired (field : RequiredField)
  | unreadableDay (text : String) (fault : DateFault)
  | unreadableCursor (text : String) (fault : DateFault)
  | unreadableTime (text : String) (fault : DateFault)
  | unknownTimezone (name : String)
  | pageSizeNoNumber (text : String)
  | pageSizeOutOfRange
  | contentType
  | bodyTooLong
  | unreadableBody (error : ReadError)
  | other (text : String)
deriving DecidableEq, Repr

inductive Missing
  | filter (name : String)
  | knownWords
  | other (text : String)
deriving DecidableEq, Repr

/-- What went wrong in a database. -/
inductive StorageFault
  | rowNotFound
  | poolTimedOut
  | poolClosed
  | columnNotFound (name : String)
  | unreadableUrl (fault : UrlFault)
deriving DecidableEq, Repr

/-- What went wrong in a cache server. -/
inductive CacheFault
  | badReply (detail : String)
  | signalled (detail : String)
  | unreadableUrl
  | missingHostname
deriving DecidableEq, Repr

inductive Error
  | refused (why : Refusal)
  | notFound (what : Missing)
  | unauthorized
  | storage (operation : String) (fault : StorageFault)
  | cache (operation : String) (fault : CacheFault)
  | undecodable (fault : Fault)
  | internal (text : String)
deriving DecidableEq, Repr

def RequiredField.message : RequiredField → String
  | .hash => "commit's hash is required (e.g. `1ab2c3f4d`)"
  | .type => "commit's type is required (e.g. `feat`)"
  | .content => "commit's content is required (e.g. `Add README.md`)"
  | .date => "commit's date is required (e.g. `1596913344`)"
  | .remote => "repository's remote is required (e.g. `github.com`)"
  | .repository => "repository's name is required (e.g. `acme/changelog`)"

def maxPageSize : Nat := 100

/-- The message about a request body that could not be read. -/
def unreadableBodyMessage (e : ReadError) : String :=
  (if e.fault.isOfContent then "Failed to deserialize the JSON body into the target type: "
  else "Failed to parse the request body as JSON: ") ++ e.message

def Refusal.message : Refusal → String
  | .fieldRequired field => field.message
  | .unreadableDay text fault => "unable to parse date `" ++ text ++ "`: " ++ fault.message
  | .unreadableCursor text fault => "invalid cursor `" ++ text ++ "`: " ++ fault.message
  | .unreadableTime text fault => "invalid refresh time `" ++ text ++ "`: " ++ fault.message
  | .unknownTimezone name => "invalid timezone `" ++ name ++ "`: failed to parse timezone"
  | .pageSizeNoNumber text => "pageSize must be a positive integer, got `" ++ text ++ "`"
  | .pageSizeOutOfRange => "pageSize must be between 1 and " ++ toString maxPageSize
  | .contentType => "Expected request with `Content-Type: application/json`"
  | .bodyTooLong => "Failed to buffer the request body: length limit exceeded"
  | .unreadableBody error => unreadableBodyMessage error
  | .other text => text

def Missing.message : Missing → String
  | .filter name => "unknown filter `" ++ name ++ "`"
  | .knownWords => "query doesn't match any known words"
  | .other text => text

def StorageFault.message : StorageFault → String
  | .rowNotFound => "no rows returned by a query that expected to return at least one row"
  | .poolTimedOut => "pool timed out while waiting for an open connection"
  | .poolClosed => "attempted to acquire a connection on a closed pool"
  | .columnNotFound name => "no column found for name: " ++ name
  | .unreadableUrl fault => "error with configuration: " ++ fault.message

def CacheFault.message : CacheFault → String
  | .badReply detail => "bad reply - ResponseError: " ++ detail
  | .signalled detail => "An error was signalled by the server - ResponseError: " ++ detail
  | .unreadableUrl => "Redis URL did not parse- InvalidClientConfig"
  | .missingHostname => "Missing hostname- InvalidClientConfig"

namespace Error

def message : Error → String
  | refused why => "Invalid input: " ++ why.message
  | notFound what => "Not found: " ++ what.message
  | unauthorized => "Invalid secret provided"
  | storage operation fault => "Storage error during " ++ operation ++ ": " ++ fault.message
  | cache operation fault => "Cache error during " ++ operation ++ ": " ++ fault.message
  | undecodable fault => "Serialization error: " ++ fault.message
  | internal text => "Internal error: " ++ text

def isClientError : Error → Bool
  | refused _ | notFound _ | unauthorized => true
  | _ => false

/-- The error as it is handed to a second recipient: the client's errors as they are, of the
server's the message alone. -/
def replica (e : Error) : Error := if e.isClientError then e else internal e.message

/-- The status of the answer to a request that ends with the error. -/
def status : Error → Nat
  | refused _ => 400
  | notFound _ => 404
  | unauthorized => 401
  | _ => 500

def clientText (e : Error) : String :=
  if e.isClientError then e.message else "Internal server error"

/-- The chain of messages from an error to its innermost source. -/
def chain : Error → List String
  | storage operation (.unreadableUrl fault) =>
    [message (storage operation (.unreadableUrl fault)), (StorageFault.unreadableUrl fault).message,
      fault.message]
  | storage operation fault => [message (storage operation fault), fault.message]
  | cache operation fault => [message (cache operation fault), fault.message]
  | undecodable fault => [message (undecodable fault), fault.message]
  | e => [e.message]

theorem status_replica (e : Error) : e.replica.status = e.status := by
  cases e <;> rfl

end Error
end CommitSearch
