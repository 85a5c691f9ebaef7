import RouteChain.Dispatcher

/-!
# Services

A service takes requests from outside and runs them through a dispatcher. A panic stops at the
service.

## Main definitions

* `Service` — a dispatcher that serves.
* `Service.call` — serving a request.
-/

namespace RouteChain

/-- A dispatcher that serves requests from outside. -/
structure Service (ρ : Type) where
  dispatcher : Dispatcher ρ

namespace Service

variable {σ ρ : Type}

def isReady (_ : Service ρ) : Bool :=
  true

/-- Serves a request. A panic is reported and goes no further. -/
def call [ResponseWriter σ] (service : Service ρ) (request : Request) (response : σ) : Run σ ρ :=
  (service.dispatcher.dispatch request response).contain [.raised .servicePanicked]

def describe (service : Service ρ) : String :=
  "RouterService \x7b dispatcher: " ++ service.dispatcher.describe ++ " \x7d"

end Service

end RouteChain
