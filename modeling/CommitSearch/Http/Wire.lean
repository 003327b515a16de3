import CommitSearch.Http.Message
import CommitSearch.Text.Lists
import CommitSearch.Text.Numeral

/-!
# Messages as lines

A request comes as a line with method, target and version, then a line for every header, then an
empty line, then its body, whose length a header gives in bytes. A response goes out in the same
form.
-/

namespace CommitSearch.Http

open CommitSearch.Text

def trimLine (s : String) : String :=
  let isMargin (c : Char) : Bool := c = ' ' || c = '\t' || c = '\r' || c = '\n'
  String.ofList ((s.toList.dropWhile isMargin).reverse.dropWhile isMargin).reverse

/-- The method and the target in the first line of a request. -/
def readRequestLine (line : String) : Option (Method × String) :=
  match fieldsAt ' ' (trimLine line) with
  | [method, target, "HTTP/1.1"] | [method, target, "HTTP/1.0"] => some (.ofName method, target)
  | _ => none

def readHeader (line : String) : Option Header :=
  let cs := line.toList
  match cs.takeWhile (· != ':'), cs.dropWhile (· != ':') with
  | [], _ | _, [] => none
  | name, _ :: value => some (String.ofList name, trimLine (String.ofList value))

def readHead : List String → Option Request
  | [] => none
  | first :: lines => do
    let (method, target) ← readRequestLine first
    let headers ← lines.mapM readHeader
    return ⟨method, target, headers, ""⟩

/-- The number of bytes of the body that follows the lines of a request. -/
def Request.bodyLength (r : Request) : Nat :=
  ((r.header "content-length").bind (readCount (Nat.pow 2 64 - 1))).getD 0

def statusText : Nat → String
  | 200 => "OK"
  | 201 => "Created"
  | 204 => "No Content"
  | 400 => "Bad Request"
  | 401 => "Unauthorized"
  | 404 => "Not Found"
  | 405 => "Method Not Allowed"
  | 408 => "Request Timeout"
  | _ => "Internal Server Error"

def Response.write (r : Response) : String :=
  let length := ("content-length", toString r.body.utf8ByteSize)
  let first := "HTTP/1.1 " ++ toString r.status ++ " " ++ statusText r.status
  let lines := (r.headers ++ [length]).map fun h => h.1 ++ ": " ++ h.2
  String.join ((first :: lines).map fun line => line ++ "\r\n") ++ "\r\n" ++ r.body

end CommitSearch.Http
