import RouteChain.Proofs.Dispatch.Leaving
import RouteChain.Proofs.Response.Transcript
import RouteChain.Proofs.Server.Acts

/-!
# The books of a server

What each act changes in the books of a server, and what no act does: no two chains ever stand in
one slot, and the chain of a call remains one that the service has taken.

## Main definitions

* `Fate.standing` — where a chain stands after a run.
* `Service.Serves` — the chains that belong to calls.
* `HeldChain.leave` — the chain of an abandoned call.
* `PendingCall.poll` — what is found when a response is asked for.
* `Server.Orderly` — servers as they are after any acts.
* `Server.closings` — which calls nobody waits for any more.

The main result is `Server.Orderly.after`: every server is in order after any acts.
-/

namespace RouteChain

variable {ρ : Type}

/-- The chain of a request where it stands, if somebody keeps it. -/
def Fate.standing (ticket : Ticket) : Fate Outlet ρ → List (HeldChain ρ)
  | .gone _ _ => []
  | .held slot chain => [⟨slot, ticket, chain⟩]

namespace Server

/-! ## The books -/

@[simp] theorem service_record (server : Server ρ) (ticket : Ticket) (outlet : Outlet) :
    (server.record ticket outlet).service = server.service := by
  cases ticket <;> rfl

@[simp] theorem held_record (server : Server ρ) (ticket : Ticket) (outlet : Outlet) :
    (server.record ticket outlet).held = server.held := by
  cases ticket <;> rfl

@[simp] theorem held?_record (server : Server ρ) (ticket : Ticket) (outlet : Outlet) (slot : Nat) :
    (server.record ticket outlet).held? slot = server.held? slot := by
  cases ticket <;> rfl

@[simp] theorem length_called_record (server : Server ρ) (ticket : Ticket) (outlet : Outlet) :
    (server.record ticket outlet).called.length = server.called.length := by
  cases ticket <;> simp [record]

/-- The writer of a request is kept in its own place only. -/
theorem called_record_of_ne (server : Server ρ) {ticket : Ticket} (outlet : Outlet) {id : Nat}
    (h : ticket ≠ .called id) :
    (server.record ticket outlet).called[id]? = server.called[id]? := by
  cases ticket with
  | dispatched other => rfl
  | called other =>
    have hother : other ≠ id := fun heq => h (heq ▸ rfl)
    simp [record, hother]

theorem called_record_self (server : Server ρ) (outlet : Outlet) (id : Nat) :
    (server.record (.called id) outlet).called[id]? =
      server.called[id]?.map (fun call => { call with outlet }) := by
  simp [record]

/-- The chains that are kept when a chain has been put by. -/
theorem held_putBy (server : Server ρ) (new : HeldChain ρ) :
    (server.putBy new).2.held = (server.vacate new.slot).held ++ [new] := by
  unfold putBy
  cases server.held? new.slot <;> simp

@[simp] theorem service_putBy (server : Server ρ) (new : HeldChain ρ) :
    (server.putBy new).2.service = server.service := by
  unfold putBy
  cases server.held? new.slot <;> simp [vacate]

@[simp] theorem length_called_putBy (server : Server ρ) (new : HeldChain ρ) :
    (server.putBy new).2.called.length = server.called.length := by
  unfold putBy
  cases server.held? new.slot <;> simp [vacate]

/-- Whoever is not in the slot is not concerned when a chain is put by. -/
theorem called_putBy_of_ne (server : Server ρ) (new : HeldChain ρ) {id : Nat}
    (h : ∀ old, server.held? new.slot = some old → old.ticket ≠ .called id) :
    (server.putBy new).2.called[id]? = server.called[id]? := by
  unfold putBy
  cases found : server.held? new.slot with
  | none => rfl
  | some old => exact called_record_of_ne _ _ (h old found)

/-- A chain that stands in the slot is given up when another one is put by. -/
theorem called_putBy_of_eq (server : Server ρ) (new : HeldChain ρ) {id : Nat} {old : HeldChain ρ}
    (found : server.held? new.slot = some old) (h : old.ticket = .called id) :
    (server.putBy new).2.called[id]? = server.called[id]?.map
      (fun call => { call with outlet := old.chain.giveUp.fate.response }) := by
  simp only [putBy, found, h]
  exact called_record_self _ _ _

theorem settle_of_gone (server : Server ρ) (ticket : Ticket) {run : Run Outlet ρ}
    {chain : Chain Outlet ρ} {response : Outlet} (fate : run.fate = .gone chain response) :
    (server.settle ticket run).server = server.record ticket response := by
  simp only [settle, fate, Fate.response]

theorem settle_of_held (server : Server ρ) (ticket : Ticket) {run : Run Outlet ρ} {slot : Nat}
    {chain : Chain Outlet ρ} (fate : run.fate = .held slot chain) :
    (server.settle ticket run).server =
      ((server.record ticket chain.response).putBy ⟨slot, ticket, chain⟩).2 := by
  simp only [settle, fate, Fate.response]

@[simp] theorem service_settle (server : Server ρ) (ticket : Ticket) (run : Run Outlet ρ) :
    (server.settle ticket run).server.service = server.service := by
  unfold settle
  cases run.fate <;> simp

@[simp] theorem panicked_settle (server : Server ρ) (ticket : Ticket) (run : Run Outlet ρ) :
    (server.settle ticket run).panicked = run.unwinds := by
  unfold settle
  cases run.fate <;> rfl

@[simp] theorem length_called_settle (server : Server ρ) (ticket : Ticket) (run : Run Outlet ρ) :
    (server.settle ticket run).server.called.length = server.called.length := by
  unfold settle
  cases run.fate <;> simp

/-- The chains that are kept when a run has been entered into the books. -/
theorem held_settle (server : Server ρ) (ticket : Ticket) (run : Run Outlet ρ) :
    (server.settle ticket run).server.held =
      match run.fate with
      | .gone _ _ => server.held
      | .held slot chain => (server.vacate slot).held ++ [⟨slot, ticket, chain⟩] := by
  unfold settle
  cases run.fate <;> simp [held_putBy, vacate]

/-- A chain that is kept after that was kept before, or is the one that the run has put by. -/
theorem mem_held_settle {server : Server ρ} {ticket : Ticket} {run : Run Outlet ρ}
    {held : HeldChain ρ} (mem : held ∈ (server.settle ticket run).server.held) :
    held ∈ server.held ∨
      ∃ slot chain, run.fate = .held slot chain ∧ held = ⟨slot, ticket, chain⟩ := by
  rw [held_settle] at mem
  cases fate : run.fate with
  | gone => exact .inl (by simpa [fate] using mem)
  | held slot chain =>
    simp only [fate] at mem
    rcases List.mem_append.mp mem with mem | mem
    · exact .inl (List.mem_filter.mp mem).1
    · exact .inr ⟨slot, chain, rfl, List.mem_singleton.mp mem⟩

end Server

/-! ## Chains of calls -/

/-- Does the chain belong to a call that the service has taken? Its writer is a delivery, and its
fallback that of the service. -/
def Service.Serves (service : Service ρ) (chain : Chain Outlet ρ) : Prop :=
  ∃ own : Chain Delivery ρ, chain = own.map Outlet.delivering ∧
    own.fallback = service.dispatcher.fallback

/-- A chain that has been put by in a run with another writer. -/
theorem Run.eq_held_of_map {σ τ : Type} {f : σ → τ} {run : Run σ ρ} {slot : Nat}
    {chain : Chain τ ρ} (fate : (run.map f).fate = .held slot chain) :
    ∃ own, run.fate = .held slot own ∧ chain = own.map f := by
  cases h : run.fate with
  | gone own response => simp [Run.map, h, Fate.map] at fate
  | held other own =>
    obtain ⟨rfl, rfl⟩ : other = slot ∧ own.map f = chain := by
      simpa [Run.map, h, Fate.map] using fate
    exact ⟨own, rfl, rfl⟩

/-- A call that the service takes is served. -/
theorem Service.serves_of_call (service : Service ρ) (request : Request) {slot : Nat}
    {chain : Chain Outlet ρ}
    (fate : (service.call request (Outlet.delivering {})).fate = .held slot chain) :
    service.Serves chain := by
  have hmap : service.dispatcher.dispatch request (Outlet.delivering {}) =
      (service.dispatcher.dispatch request {}).map Outlet.delivering :=
    Chain.next_map Outlet.follows_delivering Outlet.agrees_delivering
      (service.dispatcher.start request {})
  rw [Service.call, Run.fate_contain, hmap] at fate
  obtain ⟨own, hown, rfl⟩ := Run.eq_held_of_map fate
  exact ⟨own, rfl, ((Chain.course_next _).of_held hown).1⟩

/-- A chain that belongs to a call does so after somebody has gone on with it. -/
theorem Service.Serves.resume {service : Service ρ} {chain next : Chain Outlet ρ}
    (h : service.Serves chain) {behaviour : Behaviour ρ} {slot : Nat}
    (fate : (chain.resume behaviour).fate = .held slot next) : service.Serves next := by
  obtain ⟨own, rfl, hfallback⟩ := h
  rw [Chain.resume_map Outlet.follows_delivering Outlet.agrees_delivering] at fate
  obtain ⟨kept, hkept, rfl⟩ := Run.eq_held_of_map fate
  exact ⟨kept, rfl, ((Chain.course_resume _ _).of_held hkept).1.trans hfallback⟩

/-- The chain of an abandoned call, of which nobody waits for the response. -/
def HeldChain.leave (id : Nat) (held : HeldChain ρ) : HeldChain ρ :=
  if held.ticket = .called id then { held with chain := held.chain.map Outlet.leave } else held

theorem HeldChain.leave_of_ne {id : Nat} {held : HeldChain ρ} (h : held.ticket ≠ .called id) :
    held.leave id = held :=
  if_neg h

@[simp] theorem HeldChain.slot_leave (id : Nat) (held : HeldChain ρ) :
    (held.leave id).slot = held.slot := by
  unfold leave
  split <;> rfl

@[simp] theorem HeldChain.ticket_leave (id : Nat) (held : HeldChain ρ) :
    (held.leave id).ticket = held.ticket := by
  unfold leave
  split <;> rfl

@[simp] theorem HeldChain.ahead_leave (id : Nat) (held : HeldChain ρ) :
    (held.leave id).chain.ahead = held.chain.ahead := by
  unfold leave
  split <;> rfl

/-- A chain that belongs to a call still does so when the call has been abandoned. -/
theorem Service.Serves.leave {service : Service ρ} {held : HeldChain ρ}
    (h : service.Serves held.chain) (id : Nat) : service.Serves (held.leave id).chain := by
  unfold HeldChain.leave
  split
  · obtain ⟨own, hchain, hfallback⟩ := h
    refine ⟨own.map Delivery.leave, ?_, hfallback⟩
    rw [hchain]
    rfl
  · exact h

/-! ## Asking for a response -/

/-- What is found when the response of a call is asked for whose chain is kept or not. -/
def PendingCall.poll (call : PendingCall) (isHeld : Bool) : Poll :=
  if call.closed then .gone
  else
    match call.outlet.delivery?.map Delivery.mailbox with
    | some (.full response) => .response response
    | _ => if isHeld then .pending else .failed .closed

def Poll.closes : Poll → Bool
  | .response _ | .failed _ => true
  | .pending | .gone => false

namespace Server

/-- What is found of a call depends on nothing but whether its chain is kept, and closes the call
unless the response is still to come. -/
theorem poll_eq (server : Server ρ) (id : Nat) :
    server.poll id = server.called[id]?.map (fun call =>
      let poll := call.poll (server.isHeld (.called id))
      (poll, if poll.closes then server.close id else server)) := by
  unfold poll
  refine congrArg (fun f => server.called[id]?.map f) (funext fun call => ?_)
  unfold PendingCall.poll
  cases call.closed with
  | true => rfl
  | false =>
    cases call.outlet.delivery?.map Delivery.mailbox with
    | none => cases server.isHeld (.called id) <;> rfl
    | some mailbox => cases mailbox <;> cases server.isHeld (.called id) <;> rfl

/-- When a response is asked for, a call may be closed, and nothing else. -/
theorem server_step_poll (server : Server ρ) (id : Nat) :
    (server.step (.poll id)).server = server ∨
      (server.step (.poll id)).server = server.close id := by
  simp only [step, poll_eq]
  cases server.called[id]? with
  | none => exact .inl rfl
  | some call =>
    simp only [Option.map_some, Option.getD_some]
    split
    · exact .inr rfl
    · exact .inl rfl

/-! ## Servers in order -/

/-- A server as it is after any acts: no two chains stand in one slot, and the chain of a call is
one that the service has taken and serves. -/
structure Orderly (server : Server ρ) : Prop where
  slots : (server.held.map HeldChain.slot).Nodup
  serves : ∀ held ∈ server.held, ∀ id, held.ticket = .called id →
    id < server.called.length ∧ server.service.Serves held.chain

/-- A server that has taken nothing is in order. -/
theorem orderly_new (service : Service ρ) : ({ service } : Server ρ).Orderly :=
  ⟨List.nodup_nil, by simp⟩

theorem Orderly.vacate {server : Server ρ} (h : server.Orderly) (slot : Nat) :
    (server.vacate slot).Orderly :=
  ⟨h.slots.sublist (List.filter_sublist.map _),
    fun held mem => h.serves held ((List.mem_filter.mp mem).1)⟩

theorem Orderly.record {server : Server ρ} (h : server.Orderly) (ticket : Ticket)
    (outlet : Outlet) : (server.record ticket outlet).Orderly := by
  constructor
  · rw [held_record]
    exact h.slots
  · rw [held_record, length_called_record, service_record]
    exact h.serves

/-- A run that is entered into the books leaves them in order. -/
theorem Orderly.settle {server : Server ρ} (h : server.Orderly) {ticket : Ticket}
    {run : Run Outlet ρ}
    (hrun : ∀ slot chain, run.fate = .held slot chain → ∀ id, ticket = .called id →
      id < server.called.length ∧ server.service.Serves chain) :
    (server.settle ticket run).server.Orderly := by
  constructor
  · rw [held_settle]
    cases run.fate with
    | gone => exact h.slots
    | held slot chain =>
      have hslot : slot ∉ (server.vacate slot).held.map HeldChain.slot := by
        simp [Server.vacate]
      rw [List.map_append, List.nodup_append]
      refine ⟨(h.vacate slot).slots, by simp, ?_⟩
      rintro other mem _ hnew rfl
      obtain rfl : other = slot := by simpa using hnew
      exact hslot mem
  · intro held mem id hid
    rw [service_settle, length_called_settle]
    rcases mem_held_settle mem with mem | ⟨slot, chain, fate, rfl⟩
    · exact h.serves held mem id hid
    · exact hrun slot chain fate id hid

@[simp] theorem length_called_close (server : Server ρ) (id : Nat) :
    (server.close id).called.length = server.called.length := by
  simp [close]

theorem Orderly.close {server : Server ρ} (h : server.Orderly) (id : Nat) :
    (server.close id).Orderly := by
  refine ⟨h.slots, fun held mem other hother => ?_⟩
  rw [length_called_close]
  exact h.serves held mem other hother

/-! ## Closed calls -/

/-- For each call, does nobody wait for its response any more? -/
def closings (server : Server ρ) : List Bool :=
  server.called.map PendingCall.closed

@[simp] theorem closings_record (server : Server ρ) (ticket : Ticket) (outlet : Outlet) :
    (server.record ticket outlet).closings = server.closings := by
  cases ticket with
  | dispatched id => rfl
  | called id =>
    refine List.ext_getElem? fun n => ?_
    simp only [closings, record, List.getElem?_map, List.getElem?_modify]
    cases server.called[n]? with
    | none => rfl
    | some call => by_cases h : id = n <;> simp [h]

@[simp] theorem closings_settle (server : Server ρ) (ticket : Ticket) (run : Run Outlet ρ) :
    (server.settle ticket run).server.closings = server.closings := by
  cases fate : run.fate with
  | gone chain response => rw [settle_of_gone server ticket fate, closings_record]
  | held slot chain =>
    rw [settle_of_held server ticket fate, ← server.closings_record ticket chain.response]
    unfold putBy
    split
    · rfl
    · exact closings_record _ _ _

theorem closings_close (server : Server ρ) (id : Nat) :
    (server.close id).closings = server.closings.modify id fun _ => true := by
  refine List.ext_getElem? fun n => ?_
  simp only [closings, close, List.getElem?_map, List.getElem?_modify]
  cases server.called[n]? with
  | none => rfl
  | some call => by_cases h : id = n <;> simp [h]

/-- Of a call that is closed nothing is found any more. -/
theorem poll_of_closings {server : Server ρ} {id : Nat} (h : server.closings[id]? = some true) :
    server.poll id = some (.gone, server) := by
  obtain ⟨call, hcall, hclosed⟩ : ∃ call, server.called[id]? = some call ∧ call.closed = true := by
    simpa [closings] using h
  simp [poll_eq, hcall, PendingCall.poll, hclosed, Poll.closes]

/-- A call that is closed stays closed. -/
theorem closings_step {server : Server ρ} {id : Nat} (h : server.closings[id]? = some true)
    (act : Act ρ) : (server.step act).server.closings[id]? = some true := by
  have hclose (other : Nat) : (server.close other).closings[id]? = some true := by
    simp [closings_close, List.getElem?_modify, h]
  cases act with
  | dispatch request outlet => exact (congrArg (·[id]?) (closings_settle _ _ _)).trans h
  | call request =>
    refine (congrArg (·[id]?) (closings_settle _ _ _)).trans ?_
    have hlt : id < server.closings.length := (List.getElem?_eq_some_iff.mp h).1
    rw [closings, List.map_append]
    exact (List.getElem?_append_left hlt).trans h
  | resume slot behaviour =>
    simp only [step, resume]
    cases server.held? slot with
    | none => exact h
    | some held => exact (congrArg (·[id]?) (closings_settle _ _ _)).trans h
  | poll other =>
    rcases server.server_step_poll other with heq | heq <;> rw [heq]
    · exact h
    · exact hclose other
  | abandon other => exact hclose other

/-! ## Every act -/

/-- No panic leaves a call. -/
theorem panicked_call (server : Server ρ) (request : Request) :
    (server.call request).panicked = false := by
  simp [call, Service.call]

/-- No act changes the service. -/
theorem service_step (server : Server ρ) (act : Act ρ) :
    (server.step act).server.service = server.service := by
  cases act with
  | dispatch request outlet => exact service_settle _ _ _
  | call request => exact service_settle _ _ _
  | resume slot behaviour =>
    simp only [step, resume]
    cases server.held? slot with
    | none => rfl
    | some held => exact service_settle _ _ _
  | poll id =>
    rcases server.server_step_poll id with heq | heq
    · rw [heq]
    · exact (congrArg Server.service heq).trans rfl
  | abandon id => rfl

theorem service_after (server : Server ρ) (acts : List (Act ρ)) :
    (server.after acts).service = server.service := by
  induction acts generalizing server with
  | nil => rfl
  | cons act acts ih => exact (ih _).trans (server.service_step act)

theorem held_abandon (server : Server ρ) (id : Nat) :
    (server.abandon id).held = server.held.map (HeldChain.leave id) := rfl

theorem Orderly.abandon {server : Server ρ} (h : server.Orderly) (id : Nat) :
    (server.abandon id).Orderly := by
  constructor
  · have hslots : (server.held.map (HeldChain.leave id)).map HeldChain.slot =
        server.held.map HeldChain.slot := by simp
    rw [held_abandon, hslots]
    exact h.slots
  · rw [held_abandon]
    intro left mem other hother
    obtain ⟨held, hheld, rfl⟩ := List.mem_map.mp mem
    rw [HeldChain.ticket_leave] at hother
    obtain ⟨hlt, hserves⟩ := h.serves held hheld other hother
    exact ⟨by simpa [Server.abandon] using hlt, hserves.leave id⟩

theorem Orderly.dispatched {server : Server ρ} (h : server.Orderly) (outlet : Outlet) :
    Orderly { server with dispatched := server.dispatched ++ [outlet] } :=
  ⟨h.slots, h.serves⟩

theorem Orderly.called {server : Server ρ} (h : server.Orderly) (call : PendingCall) :
    Orderly { server with called := server.called ++ [call] } := by
  refine ⟨h.slots, fun held mem id hid => ?_⟩
  obtain ⟨hlt, hserves⟩ := h.serves held mem id hid
  exact ⟨by simp only [List.length_append]; omega, hserves⟩

/-- Every act leaves a server in order. -/
theorem Orderly.step {server : Server ρ} (h : server.Orderly) (act : Act ρ) :
    (server.step act).server.Orderly := by
  cases act with
  | dispatch request outlet => exact (h.dispatched outlet).settle (by simp)
  | call request =>
    refine (h.called ⟨.delivering {}, false⟩).settle fun slot chain fate id hid => ?_
    obtain rfl : server.called.length = id := by simpa using hid
    exact ⟨by simp, server.service.serves_of_call request fate⟩
  | resume slot behaviour =>
    simp only [Server.step, resume]
    cases found : server.held? slot with
    | none => exact h
    | some held =>
      have mem : held ∈ server.held := List.mem_of_find?_eq_some found
      refine (h.vacate slot).settle fun other chain fate id hid => ?_
      obtain ⟨hlt, hserves⟩ := h.serves held mem id hid
      exact ⟨hlt, hserves.resume fate⟩
  | poll id =>
    rcases server.server_step_poll id with heq | heq <;> rw [heq]
    · exact h
    · exact h.close id
  | abandon id => exact h.abandon id

/-- A server is in order after any acts. -/
theorem Orderly.after {server : Server ρ} (h : server.Orderly) (acts : List (Act ρ)) :
    (server.after acts).Orderly := by
  induction acts generalizing server with
  | nil => exact h
  | cons act acts ih => exact ih (h.step act)

end Server

end RouteChain
