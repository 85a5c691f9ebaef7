import RouteChain.Response.Outlet
import RouteChain.Service

/-!
# Servers

A server has many requests under way at once. Some have been dispatched with a writer of the
caller's, others have been called for, and their callers wait for the response. Chains that are put
by stand in slots until somebody goes on with them.

## Main definitions

* `Server` — a service with the requests that it has taken.
* `Server.dispatch`, `Server.call` — taking a request.
* `Server.resume` — going on with a chain in a slot.
* `Server.poll`, `Server.abandon` — asking for the response of a call, and asking no more.
-/

namespace RouteChain

/-- The number of a request among those dispatched or among those called for. -/
inductive Ticket where
  | dispatched (id : Nat)
  | called (id : Nat)
  deriving Repr, DecidableEq

structure HeldChain (ρ : Type) where
  slot : Nat
  ticket : Ticket
  chain : Chain Outlet ρ

/-- A response that is waited for, until it has been taken or nobody waits any more. -/
structure PendingCall where
  outlet : Outlet
  closed : Bool
  deriving Repr, DecidableEq

inductive Poll where
  | response (response : Response)
  | pending
  | gone
  | failed (error : WriteError)
  deriving Repr, DecidableEq

/-- A service with the requests that it has taken and the chains that have been put by. Of every
request it knows the writer as the last run has left it. -/
structure Server (ρ : Type) where
  service : Service ρ
  dispatched : List Outlet := []
  called : List PendingCall := []
  held : List (HeldChain ρ) := []

/-- What comes of a step: what happened, the server afterwards, and whether a panic goes on. -/
structure Outcome (ρ : Type) where
  log : List (Happening ρ) := []
  server : Server ρ
  panicked : Bool := false

namespace Server

variable {ρ : Type}

/-! ## The books -/

/-- Keeps the writer of a request as a run has left it. -/
def record (server : Server ρ) (ticket : Ticket) (outlet : Outlet) : Server ρ :=
  match ticket with
  | .dispatched id => { server with dispatched := server.dispatched.set id outlet }
  | .called id =>
    { server with called := server.called.modify id (fun call => { call with outlet }) }

def held? (server : Server ρ) (slot : Nat) : Option (HeldChain ρ) :=
  server.held.find? (fun held => held.slot = slot)

def vacate (server : Server ρ) (slot : Nat) : Server ρ :=
  { server with held := server.held.filter (fun held => held.slot ≠ slot) }

def isHeld (server : Server ρ) (ticket : Ticket) : Bool :=
  server.held.any (fun held => held.ticket = ticket)

/-- Puts a chain into a slot. A chain that stands there is given up. -/
def putBy (server : Server ρ) (new : HeldChain ρ) : List (Happening ρ) × Server ρ :=
  let vacant := server.vacate new.slot
  let filled := { vacant with held := vacant.held ++ [new] }
  match server.held? new.slot with
  | none => ([], filled)
  | some old =>
    let run := old.chain.giveUp
    (run.log, filled.record old.ticket run.fate.response)

/-- Enters a run of a request into the books. -/
def settle (server : Server ρ) (ticket : Ticket) (run : Run Outlet ρ) : Outcome ρ :=
  let server := server.record ticket run.fate.response
  match run.fate with
  | .gone _ _ => { log := run.log, server, panicked := run.unwinds }
  | .held slot chain =>
    let (log, server) := server.putBy ⟨slot, ticket, chain⟩
    { log := run.early ++ log ++ run.late, server, panicked := run.unwinds }

/-! ## Requests -/

/-- Dispatches a request with a writer. The new request has the first number that is free. -/
def dispatch (server : Server ρ) (request : Request) (outlet : Outlet) : Outcome ρ :=
  let booked : Server ρ := { server with dispatched := server.dispatched ++ [outlet] }
  booked.settle (.dispatched server.dispatched.length)
    (server.service.dispatcher.dispatch request outlet)

/-- Calls for the response to a request. The new call has the first number that is free. -/
def call (server : Server ρ) (request : Request) : Outcome ρ :=
  let outlet := .delivering {}
  let booked : Server ρ := { server with called := server.called ++ [⟨outlet, false⟩] }
  booked.settle (.called server.called.length) (server.service.call request outlet)

/-- Goes on with the chain in a slot, if there is one. -/
def resume (server : Server ρ) (slot : Nat) (behaviour : Behaviour ρ) : Option (Outcome ρ) :=
  (server.held? slot).map (fun held =>
    (server.vacate slot).settle held.ticket (held.chain.resume behaviour))

/-! ## Responses -/

def recorder? (server : Server ρ) (id : Nat) : Option Recorder :=
  server.dispatched[id]?.bind Outlet.recorder?

/-- The server when nobody waits for a response any more. -/
def close (server : Server ρ) (id : Nat) : Server ρ :=
  { server with
    called := server.called.modify id (fun call => { call with closed := true }) }

/-- Asks for the response of a call. It can be had once. If the chain is gone and has left none,
there will be none. -/
def poll (server : Server ρ) (id : Nat) : Option (Poll × Server ρ) :=
  server.called[id]?.map (fun call =>
    if call.closed then (.gone, server)
    else
      match call.outlet.delivery?.map Delivery.mailbox with
      | some (.full response) => (.response response, server.close id)
      | _ =>
        if server.isHeld (.called id) then (.pending, server)
        else (.failed .closed, server.close id))

/-- Stops waiting for the response of a call. Its chain goes on, but cannot deliver. -/
def abandon (server : Server ρ) (id : Nat) : Server ρ :=
  let leave (held : HeldChain ρ) : HeldChain ρ :=
    if held.ticket = .called id then
      { held with chain := { held.chain with response := held.chain.response.leave } }
    else held
  { server.close id with held := server.held.map leave }

end Server

end RouteChain
