import RouteChain.Response.Writer

/-!
# Recorders

A recorder is a writer that keeps the response, so that it can be looked at at any time.

## Main definitions

* `Recorder` — a response with the fact whether it has been ended.
* `Recorder.finish` — ends it, once.
-/

namespace RouteChain

/-- A response that is kept, and whether it has been ended. -/
structure Recorder where
  response : Response := {}
  ended : Bool := false
  deriving Repr, DecidableEq

namespace Recorder

/-- Changes the response. It can be changed even after it has been ended. -/
def edit (recorder : Recorder) (change : Edit) : Recorder :=
  { recorder with response := recorder.response.edit change }

/-- Ends the response, unless it has been ended before. -/
def finish (recorder : Recorder) : Option WriteError × Recorder :=
  if recorder.ended then (some .alreadyEnded, recorder)
  else (none, ⟨recorder.response.withLength, true⟩)

/-- After an attempt to end it a response is ended. -/
@[simp] theorem ended_finish (recorder : Recorder) : recorder.finish.2.ended = true := by
  by_cases h : recorder.ended <;> simp [finish, h]

instance : ResponseWriter Recorder where
  status recorder := recorder.response.status
  isEnded := Recorder.ended
  edit := edit
  finish := finish

end Recorder

end RouteChain
