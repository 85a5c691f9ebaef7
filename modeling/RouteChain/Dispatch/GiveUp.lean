import RouteChain.Dispatch.Chain

/-!
# Giving a chain up

However a chain is given up, its request is brought to an end in the same way. A failed request is
answered with its error, a request that nobody matched is left to the fallback, and in all other
cases the response is ended as it is.

## Main definitions

* `Closing` — what comes of bringing a request to an end.
* `Answer.run` — what comes of a fallback.
* `Chain.close` — how the request of a chain is brought to an end.
* `Chain.giveUp` — what comes of a chain that is given up.
-/

namespace RouteChain

/-- What comes of bringing a request to an end: what happened, the writer as it was left, and
whether there was a panic. -/
structure Closing (σ ρ : Type) where
  log : List (Happening ρ) := []
  response : σ
  panicked : Bool := false

namespace Closing

variable {σ ρ : Type}

def after (log : List (Happening ρ)) (closing : Closing σ ρ) : Closing σ ρ :=
  { closing with log := log ++ closing.log }

@[simp] theorem log_after (log : List (Happening ρ)) (closing : Closing σ ρ) :
    (closing.after log).log = log ++ closing.log := rfl

@[simp] theorem response_after (log : List (Happening ρ)) (closing : Closing σ ρ) :
    (closing.after log).response = closing.response := rfl

@[simp] theorem panicked_after (log : List (Happening ρ)) (closing : Closing σ ρ) :
    (closing.after log).panicked = closing.panicked := rfl

end Closing

/-! ## The fallback -/

def Answer.run {σ ρ : Type} [ResponseWriter σ] : Answer ρ → σ → Closing σ ρ
  | .write call next, response =>
    let (reply, response) := call.apply response
    (next reply).run response
  | .tell note next, response => (next.run response).after [.told note]
  | .done, response => { response }
  | .panic, response => { response, panicked := true }

/-! ## The end of a request -/

namespace Chain

variable {σ ρ : Type} [ResponseWriter σ]

/-- Ends the response. If that fails, a warning tells why. -/
def finish (chain : Chain σ ρ) : Closing σ ρ :=
  let (failure, response) := ResponseWriter.finish chain.response
  let warnings :=
    match failure with
    | none => []
    | some error => [.raised (.endFailed chain.request.method chain.request.path error)]
  { log := .finished failure :: warnings, response }

/-- The response that tells an error. All that has been written to its body before is discarded. -/
def errorResponse (cause : Cause) : List Edit :=
  [.clear, .status 500, .header contentType (.ofText "text/plain; charset=utf-8"),
    .append (.ofText cause.message)]

/-- Ends a failed request: its response tells the error, unless it has been ended already. -/
def abort (chain : Chain σ ρ) (cause : Cause) : Closing σ ρ :=
  let request := chain.request
  let aborted := .raised (.aborted request.method request.path request.route cause)
  if ResponseWriter.isEnded chain.response then
    { log := [aborted, .raised (.errorNotDelivered request.path)], response := chain.response }
  else (chain.edit (errorResponse cause)).finish.after [aborted]

/-- Ends a request that did not fail. The fallback is called if no entry matched and nobody changed
the status. If it panics, the response is not ended any more. -/
def complete (chain : Chain σ ρ) : Closing σ ρ :=
  let response := chain.response
  if ResponseWriter.isEnded response then { response }
  else if chain.matched || ResponseWriter.status response != initialStatus then chain.finish
  else
    match chain.fallback with
    | none => chain.finish
    | some fallback =>
      let answered := ((fallback chain.request).run response).after [.fellBack chain.request]
      if answered.panicked || ResponseWriter.isEnded answered.response then answered
      else { chain with response := answered.response }.finish.after answered.log

/-- Brings the request of a chain that is given up to an end. -/
def close (chain : Chain σ ρ) : Closing σ ρ :=
  match chain.error with
  | some cause => chain.abort cause
  | none => chain.complete

/-- Ends the request of a chain that is given up. -/
def giveUp (chain : Chain σ ρ) : Run σ ρ where
  early := .givenUp chain.error :: chain.close.log
  fate := .gone chain chain.close.response
  panicked := chain.close.panicked

theorem log_giveUp (chain : Chain σ ρ) :
    chain.giveUp.log = .givenUp chain.error :: chain.close.log :=
  List.append_nil _

end Chain

end RouteChain
