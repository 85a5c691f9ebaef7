import RouteChain.Http.Headers
import RouteChain.Http.Method
import RouteChain.Http.Target
import RouteChain.Params

/-!
# Requests

A request as the router and the actions see it.

## Main definitions

* `Request` — a request.
* `Request.arrived` — a request with a body, as it comes in.
-/

namespace RouteChain

/-- A request. Besides the message it carries what the router found out about it: the parameters
that the entry being invoked has bound, and the pattern of that entry. Actions may leave a note for
one another, and the body can be taken once. -/
structure Request where
  method : Method
  path : String
  headers : Headers := {}
  note : Option String := none
  body : Option Bytes := none
  params : Params := .empty
  route : Option String := none
  deriving Repr, DecidableEq

/-- A request as it comes in: for the path of its target, with a body that waits to be taken. -/
def Request.arrived (method : Method) (target : String) (headers : Headers) (body : Bytes) :
    Request :=
  { method, path := targetPath target, headers, body := some body }

end RouteChain
