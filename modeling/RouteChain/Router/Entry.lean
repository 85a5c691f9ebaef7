import RouteChain.Dispatch.Behaviour
import RouteChain.Pattern.Route

/-!
# Entries

## Main definitions

* `RouteEntry` — a registered action with the requests that it is for.
* `RouteEntry.fit` — how a request fits an entry.
-/

namespace RouteChain

structure RouteEntry (ρ : Type) where
  methods : Methods
  pattern : RoutePattern
  role : Role
  action : Behaviour ρ

namespace RouteEntry

variable {ρ : Type}

def fit (entry : RouteEntry ρ) (method : Method) (path : String) : Fit :=
  if entry.methods.allows method then entry.pattern.fit path else .misses

def describe (entry : RouteEntry ρ) : String :=
  "RouteEntry \x7b method: " ++ entry.methods.describe ++
    ", pattern: " ++ Text.quoteOption entry.pattern.source ++
    ", kind: " ++ entry.role.describe ++ " \x7d"

end RouteEntry

end RouteChain
