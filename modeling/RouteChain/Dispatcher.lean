import RouteChain.Dispatch.Advance
import RouteChain.Router

/-!
# Dispatchers

A dispatcher is what a router becomes when registration is over.

## Main definitions

* `Dispatcher` — the entries and the fallback.
* `Dispatcher.dispatch` — serving a request.
-/

namespace RouteChain

/-- The entries and the fallback of a router to which nothing is added any more. -/
structure Dispatcher (ρ : Type) where
  entries : List (RouteEntry ρ)
  fallback : Option (Fallback ρ)

/-- Ends registration. -/
def Router.dispatcher {ρ : Type} (router : Router ρ) : Dispatcher ρ :=
  ⟨router.entries, router.fallback⟩

namespace Dispatcher

variable {σ ρ : Type}

def start (dispatcher : Dispatcher ρ) (request : Request) (response : σ) : Chain σ ρ where
  ahead := dispatcher.entries
  fallback := dispatcher.fallback
  request := request
  response := response

def dispatch [ResponseWriter σ] (dispatcher : Dispatcher ρ) (request : Request) (response : σ) :
    Run σ ρ :=
  (dispatcher.start request response).next

def describe (dispatcher : Dispatcher ρ) : String :=
  "Dispatcher \x7b entries: " ++ Router.describeEntries dispatcher.entries ++
    ", fallback: " ++ toString dispatcher.fallback.isSome ++ " \x7d"

end Dispatcher

end RouteChain
