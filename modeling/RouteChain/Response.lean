import RouteChain.Http.Headers

/-!
# Responses

A response as it is written: its status, its header fields and its body.

## Main definitions

* `Response` — a response; a new one has the status 404 and nothing else.
* `Edit`, `Response.edit` — the changes that can be made to a response.
* `Response.withLength` — the response as it is sent, with its length among its fields.
* `WriteError` — why a response could not be ended.
-/

namespace RouteChain

/-! ## Writing -/

/-- The status of a response until an action says otherwise. -/
def initialStatus : Nat := 404

structure Response where
  status : Nat := initialStatus
  headers : Headers := {}
  body : Bytes := []
  deriving Repr, DecidableEq

inductive Edit where
  | status (status : Nat)
  | header (name : String) (value : Bytes)
  | append (bytes : Bytes)
  | clear
  deriving Repr, DecidableEq

namespace Response

/-- The response after a change. A header replaces all values of its name. -/
def edit (response : Response) : Edit → Response
  | .status status => { response with status }
  | .header name value => { response with headers := response.headers.set name value }
  | .append bytes => { response with body := response.body ++ bytes }
  | .clear => { response with body := [] }

/-- The response with the length of its body among its fields. A length that was set stays. -/
def withLength (response : Response) : Response :=
  if response.headers.contains contentLength then response
  else response.edit (.header contentLength (.ofText (toString response.body.length)))

end Response

/-! ## Ending -/

inductive WriteError where
  | alreadyEnded
  | closed
  deriving Repr, DecidableEq

def WriteError.message : WriteError → String
  | .alreadyEnded => "response has already been ended"
  | .closed => "connection closed before the response was delivered"

end RouteChain
