import RouteChain.Response

/-!
# Writers of responses

A request has a writer, to which its actions and the chain itself address their calls. What becomes
of a response that is ended is the writer's affair.

## Main definitions

* `ResponseWriter` — what a writer does.
* `WriterCall`, `Reply`, `WriterCall.apply` — the calls on a writer and what they reply.
* `WriterCall.applyAll` — calls in order.
-/

namespace RouteChain

/-- What a writer of states `σ` does. Ending a response adds its length if no call has set it. -/
class ResponseWriter (σ : Type) where
  /-- The status of the response. -/
  status : σ → Nat
  /-- Has the response been ended? -/
  isEnded : σ → Bool
  /-- Changes the response. -/
  edit : σ → Edit → σ
  /-- Ends the response, and tells what went wrong with that. -/
  finish : σ → Option WriteError × σ

inductive WriterCall where
  | edit (change : Edit)
  | finish
  | status
  | isEnded
  deriving Repr, DecidableEq

inductive Reply where
  | done
  | finished (failure : Option WriteError)
  | status (status : Nat)
  | isEnded (ended : Bool)
  deriving Repr, DecidableEq

namespace WriterCall

variable {σ : Type} [ResponseWriter σ]

def apply (writer : σ) : WriterCall → Reply × σ
  | .edit change => (.done, ResponseWriter.edit writer change)
  | .finish =>
    let (failure, writer) := ResponseWriter.finish writer
    (.finished failure, writer)
  | .status => (.status (ResponseWriter.status writer), writer)
  | .isEnded => (.isEnded (ResponseWriter.isEnded writer), writer)

def applyAll (writer : σ) : List WriterCall → List Reply × σ
  | [] => ([], writer)
  | call :: calls =>
    let (reply, writer) := call.apply writer
    let (replies, writer) := applyAll writer calls
    (reply :: replies, writer)

/-- Calls in two parts are made in order. -/
theorem applyAll_append (writer : σ) (calls others : List WriterCall) :
    applyAll writer (calls ++ others) =
      ((applyAll writer calls).1 ++ (applyAll (applyAll writer calls).2 others).1,
        (applyAll (applyAll writer calls).2 others).2) := by
  induction calls generalizing writer with
  | nil => rfl
  | cons call calls ih => simp [applyAll, ih]

end WriterCall

end RouteChain
