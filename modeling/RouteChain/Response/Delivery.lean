import RouteChain.Response.Writer

/-!
# Deliveries

A delivery is a writer that keeps the response back until it is ended and then hands it to one
receiver, who may have left in the meantime.

## Main definitions

* `Mailbox` — what the receiver has or does.
* `Delivery` — a response that is kept back, with its mailbox.
* `Delivery.finish`, `Delivery.leave`, `Delivery.receive` — handing the response over.
-/

namespace RouteChain

/-- The receiver waits, has a response that it has not yet looked at, or is gone. -/
inductive Mailbox where
  | waiting
  | full (response : Response)
  | gone
  deriving Repr, DecidableEq

/-- A response that is kept back until it is ended. -/
structure Delivery where
  response : Response := {}
  ended : Bool := false
  mailbox : Mailbox := .waiting
  deriving Repr, DecidableEq

/-- What a receiver finds when it looks into its mailbox. -/
inductive Receipt where
  | response (response : Response)
  | empty
  | noReceiver
  deriving Repr, DecidableEq

namespace Delivery

/-- Changes the response. What is changed after the end reaches nobody. -/
def edit (delivery : Delivery) (change : Edit) : Delivery :=
  { delivery with response := delivery.response.edit change }

/-- Ends the response and hands it over, unless it has been ended before. That fails if the receiver
is gone, but the response has then been ended all the same. The fields and the body stay where they
are although they have been handed over. Nobody can tell: once a response is ended a delivery shows
its status and that it is ended, and it is not handed over again. -/
def finish (delivery : Delivery) : Option WriteError × Delivery :=
  if delivery.ended then (some .alreadyEnded, delivery)
  else
    match delivery.mailbox with
    | .gone => (some .closed, { delivery with ended := true })
    | _ => (none, { delivery with ended := true, mailbox := .full delivery.response.withLength })

/-- After an attempt to end it a response is ended, whether or not it was delivered. -/
@[simp] theorem ended_finish (delivery : Delivery) : delivery.finish.2.ended = true := by
  by_cases h : delivery.ended
  · simp [finish, h]
  · cases hm : delivery.mailbox <;> simp [finish, h, hm]

instance : ResponseWriter Delivery where
  status delivery := delivery.response.status
  isEnded := Delivery.ended
  edit := edit
  finish := finish

def leave (delivery : Delivery) : Delivery :=
  { delivery with mailbox := .gone }

/-- The receiver looks into its mailbox. It leaves with the response that it finds. -/
def receive (delivery : Delivery) : Receipt × Delivery :=
  match delivery.mailbox with
  | .waiting => (.empty, delivery)
  | .full response => (.response response, delivery.leave)
  | .gone => (.noReceiver, delivery)

end Delivery

end RouteChain
