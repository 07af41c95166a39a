import Matchmaker.Api.Identity
import Matchmaker.Api.Issue
import Matchmaker.Failure

/-!
# Responses

* `Response`: what a request is answered with;
* `Problem`: why a request is not served, with the response that tells so (`Problem.response`).
-/

namespace Matchmaker.Api

/-- What a response carries. -/
inductive Content where
  | empty
  | json (v : Json.Value)
  | text (s : String)
  deriving Repr

/-- A response. -/
structure Response where
  status : Nat
  content : Content
  headers : List (String × String)
  deriving Repr

namespace Response

/-- A JSON response. -/
def json (status : Nat) (members : Json.Members) : Response :=
  ⟨status, .json (.obj members), []⟩

/-- A JSON response with an explanation only. -/
def detail (status : Nat) (s : String) : Response :=
  json status [("detail", .str s)]

/-- A JSON response with the code of an error and an explanation. -/
def error (status : Nat) (code s : String) : Response :=
  json status [("error", .str code), ("detail", .str s)]

/-- A response without content. -/
def empty (status : Nat) : Response :=
  ⟨status, .empty, []⟩

/-- A response with one more header. -/
def withHeader (r : Response) (name text : String) : Response :=
  { r with headers := (name, text) :: r.headers }

/-- A response without its content. -/
def withoutContent (r : Response) : Response :=
  { r with content := .empty }

end Response

/-- How many seconds a caller waits before trying again. -/
def retryAfter : Nat := 1

/-- The response to a refused call. -/
def refusalResponse (why : Refusal) : Response :=
  let r := Response.error why.kind.status why.kind.code why.message
  if why.kind = .transient then r.withHeader "retry-after" (toString retryAfter) else r

/-- The response to what nothing handles. -/
def faultResponse : Response :=
  ⟨500, .text "Internal Server Error", []⟩

/-- The response to a call that fails. -/
def failureResponse : Failure → Response
  | .refused why => refusalResponse why
  | .fault _ => faultResponse

/-- The response when a request takes too long. -/
def timeoutResponse : Response :=
  Response.error 504 "timeout" "Request timed out"

/-- Why a request is not served. -/
inductive Problem where
  /-- Nothing is found at the path. -/
  | unknownPath
  /-- The path takes another method. -/
  | wrongMethod (allowed : String)
  /-- The path has a slash too many. -/
  | moved (location : String)
  /-- The body cannot be read at all. -/
  | unreadable
  | unidentified (header : String) (fault : IdentityFault)
  | invalid (issue : Issue)
  | failed (why : Failure)
  deriving Repr

/-- The response that tells a problem. -/
def Problem.response : Problem → Response
  | unknownPath => Response.detail 404 "Not Found"
  | wrongMethod allowed => (Response.detail 405 "Method Not Allowed").withHeader "allow" allowed
  | moved location => (Response.empty 307).withHeader "location" location
  | unreadable => Response.detail 400 "There was an error parsing the body"
  | unidentified header fault => Response.detail 401 (fault.message header)
  | invalid issue => Response.error 400 Kind.invalid.code issue.message
  | failed why => failureResponse why

end Matchmaker.Api
