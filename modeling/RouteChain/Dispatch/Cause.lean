import RouteChain.Response

/-!
# Causes of failure

## Main definitions

* `Cause` — why a request failed.
-/

namespace RouteChain

/-- Why a request failed: an action said so in its own words, a response could not be ended, or an
action panicked. -/
inductive Cause where
  | raised (text : String)
  | write (error : WriteError)
  | panicked
  deriving Repr, DecidableEq

def Cause.message : Cause → String
  | .raised text => text
  | .write error => error.message
  | .panicked => "request handler panicked"

end RouteChain
