import RouteChain.Dispatch.Cause
import RouteChain.Http.Method
import RouteChain.Pattern.Compiled

/-!
# Diagnostic events

What the router tells its operator while routes are registered and requests run.

## Main definitions

* `Event` — the events.
* `Event.level`, `Event.message`, `Event.fields` — how an event is written.
-/

namespace RouteChain

inductive Level where
  | debug
  | warn
  | error
  deriving Repr, DecidableEq

def Level.label : Level → String
  | .debug => "DEBUG"
  | .warn => "WARN"
  | .error => "ERROR"

/-- The role of an action: a handler answers a request, a middleware sees it on its way. The two are
invoked alike, and the role is kept for diagnostics. -/
inductive Role where
  | handler
  | middleware
  deriving Repr, DecidableEq

def Role.describe : Role → String
  | .handler => "Handler"
  | .middleware => "Middleware"

inductive Event where
  /-- A pattern failed to compile, and its route is disabled. -/
  | patternDisabled (error : PatternError)
  /-- An entry was registered. -/
  | registered (methods : Methods) (source : Option String) (role : Role)
  /-- A router was mounted that has a fallback. -/
  | fallbackIgnored (mountedAt : String)
  /-- An entry matched a request. -/
  | matched (method : Method) (path : String) (index : Nat) (methods : Methods)
      (source : Option String)
  /-- A request failed. -/
  | aborted (method : Method) (path : String) (route : Option String) (cause : Cause)
  /-- A request failed whose response had already been ended. -/
  | errorNotDelivered (path : String)
  /-- The response to a request could not be ended. -/
  | endFailed (method : Method) (path : String) (error : WriteError)
  /-- A panic left the dispatch of a request that a service had accepted. -/
  | servicePanicked
  deriving Repr, DecidableEq

namespace Event

def level : Event → Level
  | .patternDisabled _ | .errorNotDelivered _ | .endFailed _ _ _ => .warn
  | .registered _ _ _ | .fallbackIgnored _ | .matched _ _ _ _ _ => .debug
  | .aborted _ _ _ _ | .servicePanicked => .error

def message : Event → String
  | .patternDisabled _ => "route pattern failed to compile; route disabled"
  | .registered _ _ _ => "route registered"
  | .fallbackIgnored _ => "fallback of a mounted router is ignored"
  | .matched _ _ _ _ _ => "route entry matched"
  | .aborted _ _ _ _ => "request chain aborted"
  | .errorNotDelivered _ => "response already ended; error not delivered"
  | .endFailed _ _ _ => "failed to end response"
  | .servicePanicked => "request handler panicked inside the router service"

def fields : Event → List (String × String)
  | .patternDisabled e => [("pattern", e.pattern), ("error", e.message)]
  | .registered methods source role =>
    [("method", methods.label), ("pattern", Text.quoteOption source), ("kind", role.describe)]
  | .fallbackIgnored mountedAt => [("prefix", mountedAt)]
  | .matched method path index methods source =>
    [("method", method.name), ("path", path), ("index", toString index),
      ("entry", methods.label), ("pattern", Text.quoteOption source)]
  | .aborted method path route cause =>
    [("method", method.name), ("path", path), ("route", Text.quoteOption route),
      ("error", cause.message)]
  | .errorNotDelivered path => [("path", path)]
  | .endFailed method path error =>
    [("method", method.name), ("path", path), ("error", error.message)]
  | .servicePanicked => []

end Event

end RouteChain
