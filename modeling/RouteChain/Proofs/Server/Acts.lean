import RouteChain.Server

/-!
# What goes on at a server

Requests are dispatched and called for, chains that were put by are gone on with, responses are
asked for and given up, all in any order. What is done with the chain of one call can be told from
all that goes on.

## Main definitions

* `Act`, `Server.step` — what is done at a server, and what comes of it.
* `Server.outcomes`, `Server.after` — what comes of some acts, one after the other.
* `Server.polls` — what is found when the response of a call is asked for.
* `Server.story` — what is done with the chain of a call by those who keep it.
-/

namespace RouteChain

variable {ρ : Type}

inductive Act (ρ : Type) where
  | dispatch (request : Request) (outlet : Outlet)
  | call (request : Request)
  | resume (slot : Nat) (behaviour : Behaviour ρ)
  | poll (id : Nat)
  | abandon (id : Nat)

namespace Server

/-! ## Acts -/

def step (server : Server ρ) : Act ρ → Outcome ρ
  | .dispatch request outlet => server.dispatch request outlet
  | .call request => server.call request
  | .resume slot behaviour => (server.resume slot behaviour).getD { server }
  | .poll id => { server := ((server.poll id).map Prod.snd).getD server }
  | .abandon id => { server := server.abandon id }

def outcomes (server : Server ρ) : List (Act ρ) → List (Outcome ρ)
  | [] => []
  | act :: acts => server.step act :: outcomes (server.step act).server acts

def after (server : Server ρ) (acts : List (Act ρ)) : Server ρ :=
  acts.foldl (fun server act => (server.step act).server) server

/-- What is found in an act by somebody who asks for the response of this call. -/
def found (server : Server ρ) (id : Nat) : Act ρ → List Poll
  | .poll other => if other = id then ((server.poll id).map Prod.fst).toList else []
  | _ => []

/-- What is found during some acts by those who ask for the response of this call. -/
def polls (server : Server ρ) (id : Nat) : List (Act ρ) → List Poll
  | [] => []
  | act :: acts => server.found id act ++ polls (server.step act).server id acts

/-! ## The chain of a call -/

/-- What is done with the chain of this call when another chain is put by: it is given up if it
stands in the slot of the other one. -/
def displacement (server : Server ρ) (id : Nat) (run : Run Outlet ρ) : List (Behaviour ρ) :=
  match run.fate with
  | .gone _ _ => []
  | .held slot _ =>
    if (server.held? slot).any (fun old => old.ticket = .called id) then [.drop] else []

/-- What is done in an act with the chain of this call, if that has been put by. -/
def moves (server : Server ρ) (id : Nat) : Act ρ → List (Behaviour ρ)
  | .dispatch request outlet =>
    server.displacement id (server.service.dispatcher.dispatch request outlet)
  | .call request => server.displacement id (server.service.call request (.delivering {}))
  | .resume slot behaviour =>
    match server.held? slot with
    | none => []
    | some held =>
      if held.ticket = .called id then [behaviour]
      else (server.vacate slot).displacement id (held.chain.resume behaviour)
  | .poll _ | .abandon _ => []

/-- What is done during some acts with the chain of this call by those who keep it, in order. -/
def story (server : Server ρ) (id : Nat) : List (Act ρ) → List (Behaviour ρ)
  | [] => []
  | act :: acts => server.moves id act ++ story (server.step act).server id acts

end Server

end RouteChain
