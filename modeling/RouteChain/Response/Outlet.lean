import RouteChain.Response.Delivery
import RouteChain.Response.Recorder

/-!
# Outlets

The writers that a request can be given. Besides recorders and deliveries there are two that do not
keep to the rules: a closed one cannot be ended, and a blind one never sees that it has been ended.

## Main definitions

* `Outlet` — the writers.
* `Outlet.recorder?`, `Outlet.delivery?` — what has been recorded, or delivered.
-/

namespace RouteChain

inductive Outlet where
  | recording (recorder : Recorder)
  | closed (recorder : Recorder)
  | blind (recorder : Recorder)
  | delivering (delivery : Delivery)
  deriving Repr, DecidableEq

namespace Outlet

def status : Outlet → Nat
  | .recording recorder | .closed recorder | .blind recorder => recorder.response.status
  | .delivering delivery => delivery.response.status

def isEnded : Outlet → Bool
  | .recording recorder => recorder.ended
  | .closed _ | .blind _ => false
  | .delivering delivery => delivery.ended

def edit (outlet : Outlet) (change : Edit) : Outlet :=
  match outlet with
  | .recording recorder => .recording (recorder.edit change)
  | .closed recorder => .closed (recorder.edit change)
  | .blind recorder => .blind (recorder.edit change)
  | .delivering delivery => .delivering (delivery.edit change)

def finish : Outlet → Option WriteError × Outlet
  | .recording recorder => recorder.finish.map id .recording
  | .closed recorder => (some .closed, .closed recorder)
  | .blind recorder => recorder.finish.map id .blind
  | .delivering delivery => delivery.finish.map id .delivering

instance : ResponseWriter Outlet where
  status := status
  isEnded := isEnded
  edit := edit
  finish := finish

def recorder? : Outlet → Option Recorder
  | .recording recorder | .closed recorder | .blind recorder => some recorder
  | .delivering _ => none

def delivery? : Outlet → Option Delivery
  | .delivering delivery => some delivery
  | _ => none

def leave : Outlet → Outlet
  | .delivering delivery => .delivering delivery.leave
  | outlet => outlet

end Outlet

end RouteChain
