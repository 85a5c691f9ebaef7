import RouteChain.Proofs.Dispatch.Leaving
import RouteChain.Proofs.Server.Books

/-!
# Abandoned calls

When nobody waits for the response of a call any more, everything at the server goes on as it would
have, only that the response of this call reaches nobody.

## Main definitions

* `Server.Abandoned` — a server that is like another one but for a call that has been abandoned.
* `Server.HeedlessFor` — the remaining entries of a call do not look at what came of its end.
* `Server.Alike` — two servers at which others notice the same, whatever is done.

The main result is `Server.Abandoned.alike`, which rests on `Server.Abandoned.step`: what comes of
an act is the same at both servers.
-/

namespace RouteChain

variable {ρ : Type}

/-- What others notice of an act. -/
def Outcome.heard (outcome : Outcome ρ) : List (Happening ρ) × Bool :=
  (RouteChain.heard outcome.log, outcome.panicked)

/-! ## Chains of abandoned calls -/

/-- The chain of an abandoned call goes on undisturbed. -/
theorem Service.Serves.undisturbed {service : Service ρ} {chain : Chain Outlet ρ}
    (h : service.Serves chain) (hreturns : FallbackReturns Delivery service.dispatcher.fallback)
    {behaviour : Behaviour ρ} (heedless : behaviour.Heedless)
    (hahead : ∀ entry ∈ chain.ahead, entry.action.Heedless) :
    Undisturbed Outlet.leave (chain.resume behaviour)
      ((chain.map Outlet.leave).resume behaviour) := by
  obtain ⟨own, rfl, hfallback⟩ := h
  have := own.resume_undisturbed (hfallback.symm ▸ hreturns) heedless hahead
  have hleave : (own.map Outlet.delivering).map Outlet.leave =
      (own.map Delivery.leave).map Outlet.delivering := rfl
  rw [hleave, Chain.resume_map Outlet.follows_delivering Outlet.agrees_delivering,
    Chain.resume_map Outlet.follows_delivering Outlet.agrees_delivering]
  refine ⟨this.heard_eq, this.late_eq, this.panicked_eq, this.strayed_eq, ?_⟩
  simp only [Run.map, Fate.kept?_map, this.kept?_eq, Option.map_map]
  rfl

namespace Server

/-! ## Servers with an abandoned call -/

/-- The second server is like the first, but a call has been abandoned: it is closed, and the chain
of the call, if somebody keeps it, has a writer without a receiver. -/
structure Abandoned (id : Nat) (server other : Server ρ) : Prop where
  service_eq : other.service = server.service
  dispatched_eq : other.dispatched = server.dispatched
  length_eq : other.called.length = server.called.length
  called_eq : ∀ n, n ≠ id → other.called[n]? = server.called[n]?
  closed : other.closings[id]? = some true
  held_eq : other.held = server.held.map (HeldChain.leave id)

/-- Abandoning a call makes such a server. -/
theorem abandoned_abandon {server : Server ρ} {id : Nat} (h : id < server.called.length) :
    Abandoned id server (server.abandon id) where
  service_eq := rfl
  dispatched_eq := rfl
  length_eq := by simp [Server.abandon]
  called_eq n hn := by simp [Server.abandon, close, Ne.symm hn]
  closed := by
    have hclosings : (server.abandon id).closings = (server.close id).closings := rfl
    rw [hclosings, closings_close]
    simp [closings, h]
  held_eq := rfl

/-- The remaining entries of a call do not look at what came of ending its response. -/
def HeedlessFor (server : Server ρ) (id : Nat) : Prop :=
  ∀ held ∈ server.held, held.ticket = .called id →
    ∀ entry ∈ held.chain.ahead, entry.action.Heedless

namespace Abandoned

variable {id : Nat} {server other : Server ρ}

theorem lt_length (h : Abandoned id server other) : id < server.called.length := by
  rw [← h.length_eq]
  simpa [closings] using (List.getElem?_eq_some_iff.mp h.closed).1

theorem held?_eq (h : Abandoned id server other) (slot : Nat) :
    other.held? slot = (server.held? slot).map (HeldChain.leave id) := by
  unfold held?
  rw [h.held_eq, List.find?_map]
  congr 2
  funext held
  simp

theorem isHeld_eq (h : Abandoned id server other) (ticket : Ticket) :
    other.isHeld ticket = server.isHeld ticket := by
  unfold isHeld
  rw [h.held_eq, List.any_map]
  congr 1
  funext held
  simp

theorem vacate (h : Abandoned id server other) (slot : Nat) :
    Abandoned id (server.vacate slot) (other.vacate slot) := by
  refine ⟨h.service_eq, h.dispatched_eq, h.length_eq, h.called_eq, h.closed, ?_⟩
  simp only [Server.vacate, h.held_eq, List.filter_map]
  congr 2
  funext held
  simp

/-- Another chain is put into an empty slot. -/
theorem fill (h : Abandoned id server other) (new : HeldChain ρ) :
    Abandoned id { server with held := server.held ++ [new] }
      { other with held := other.held ++ [new.leave id] } :=
  ⟨h.service_eq, h.dispatched_eq, h.length_eq, h.called_eq, h.closed, by
    rw [h.held_eq, List.map_append, List.map_singleton]⟩

/-- The writer of the abandoned call may be whatever it is. -/
theorem record_self (h : Abandoned id server other) (outlet outlet' : Outlet) :
    Abandoned id (server.record (.called id) outlet) (other.record (.called id) outlet') := by
  refine ⟨h.service_eq, h.dispatched_eq, ?_, fun n hn => ?_, ?_, h.held_eq⟩
  · rw [length_called_record, length_called_record, h.length_eq]
  · have hne : Ticket.called id ≠ .called n := fun heq => hn (Ticket.called.inj heq).symm
    rw [called_record_of_ne _ _ hne, called_record_of_ne _ _ hne, h.called_eq n hn]
  · rw [closings_record, h.closed]

/-- The writer of another request is kept at both servers. -/
theorem record_of_ne (h : Abandoned id server other) {ticket : Ticket} (hne : ticket ≠ .called id)
    (outlet : Outlet) :
    Abandoned id (server.record ticket outlet) (other.record ticket outlet) := by
  cases ticket with
  | dispatched n =>
    exact ⟨h.service_eq, congrArg (fun books => books.set n outlet) h.dispatched_eq, h.length_eq,
      h.called_eq, h.closed, h.held_eq⟩
  | called n =>
    refine ⟨h.service_eq, h.dispatched_eq, ?_, fun m hm => ?_, ?_, h.held_eq⟩
    · rw [length_called_record, length_called_record, h.length_eq]
    · simp only [record, List.getElem?_modify, h.called_eq m hm]
    · rw [closings_record, h.closed]

/-- A new call is taken at both servers. -/
theorem called (h : Abandoned id server other) (call : PendingCall) :
    Abandoned id { server with called := server.called ++ [call] }
      { other with called := other.called ++ [call] } := by
  have hlt : id < other.closings.length := (List.getElem?_eq_some_iff.mp h.closed).1
  refine ⟨h.service_eq, h.dispatched_eq, ?_, fun n hn => ?_, ?_, h.held_eq⟩
  · rw [List.length_append, List.length_append, h.length_eq]
  · simp only [List.getElem?_append, h.length_eq, h.called_eq n hn]
  · rw [closings, List.map_append]
    exact (List.getElem?_append_left hlt).trans h.closed

/-- The chain of another request, or of the abandoned call, is put by at both servers. -/
theorem putBy (h : Abandoned id server other) (new : HeldChain ρ) :
    Abandoned id (server.putBy new).2 (other.putBy (new.leave id)).2 ∧
      heard (other.putBy (new.leave id)).1 = heard (server.putBy new).1 := by
  have filled := (h.vacate new.slot).fill new
  have hfound := h.held?_eq new.slot
  unfold Server.putBy
  rw [HeldChain.slot_leave, hfound]
  cases found : server.held? new.slot with
  | none => exact ⟨filled, rfl⟩
  | some old =>
    by_cases hold : old.ticket = .called id
    · have hleave : old.leave id = { old with chain := old.chain.map Outlet.leave } := by
        simp [HeldChain.leave, hold]
      simp only [Option.map_some, hleave, hold]
      exact ⟨filled.record_self _ _,
        heard_append_congr (old.chain.heard_giveUp_map Outlet.follows_leave) rfl⟩
    · simp only [Option.map_some, HeldChain.leave_of_ne hold, and_true]
      exact filled.record_of_ne hold _

/-- A run of a request is entered into the books of both servers. -/
theorem settle (h : Abandoned id server other) {ticket : Ticket} {run run' : Run Outlet ρ}
    (heard_eq : heard run'.early = heard run.early) (late_eq : run'.late = run.late)
    (unwinds_eq : run'.unwinds = run.unwinds)
    (standing_eq : run'.fate.standing ticket =
      (run.fate.standing ticket).map (HeldChain.leave id))
    (response_eq : ticket ≠ .called id → run'.fate.response = run.fate.response) :
    Abandoned id (server.settle ticket run).server (other.settle ticket run').server ∧
      (other.settle ticket run').heard = (server.settle ticket run).heard := by
  have recorded : Abandoned id (server.record ticket run.fate.response)
      (other.record ticket run'.fate.response) := by
    by_cases hticket : ticket = .called id
    · rw [hticket]
      exact h.record_self _ _
    · rw [response_eq hticket]
      exact h.record_of_ne hticket _
  cases fate : run.fate with
  | gone chain response =>
    cases fate' : run'.fate with
    | gone chain' response' =>
      rw [fate, fate'] at recorded
      rw [settle_of_gone server ticket fate, settle_of_gone other ticket fate']
      refine ⟨recorded, ?_⟩
      simp only [Server.settle, fate, fate', Outcome.heard, unwinds_eq]
      exact congrArg (Prod.mk · _) (heard_append_congr heard_eq (congrArg _ late_eq))
    | held slot chain' => simp [fate, fate', Fate.standing] at standing_eq
  | held slot chain =>
    cases fate' : run'.fate with
    | gone chain' response' => simp [fate, fate', Fate.standing] at standing_eq
    | held slot' chain' =>
      rw [fate, fate'] at recorded standing_eq
      have hnew : (⟨slot', ticket, chain'⟩ : HeldChain ρ) =
          HeldChain.leave id ⟨slot, ticket, chain⟩ := by
        simpa [Fate.standing] using standing_eq
      have put := recorded.putBy ⟨slot, ticket, chain⟩
      rw [← hnew] at put
      rw [settle_of_held server ticket fate, settle_of_held other ticket fate']
      refine ⟨put.1, ?_⟩
      simp only [Server.settle, fate, fate', Outcome.heard, unwinds_eq]
      exact congrArg (Prod.mk · _)
        (heard_append_congr (heard_append_congr heard_eq put.2) (congrArg _ late_eq))

/-! ## Acts -/

theorem dispatched (h : Abandoned id server other) (outlet : Outlet) :
    Abandoned id { server with dispatched := server.dispatched ++ [outlet] }
      { other with dispatched := other.dispatched ++ [outlet] } :=
  ⟨h.service_eq, congrArg (fun books => books ++ [outlet]) h.dispatched_eq, h.length_eq,
    h.called_eq, h.closed, h.held_eq⟩

/-- The same run of another request is entered into the books of both servers. -/
theorem settle_of_ne (h : Abandoned id server other) {ticket : Ticket} (hne : ticket ≠ .called id)
    (run : Run Outlet ρ) :
    Abandoned id (server.settle ticket run).server (other.settle ticket run).server ∧
      (other.settle ticket run).heard = (server.settle ticket run).heard := by
  refine h.settle rfl rfl rfl ?_ fun _ => rfl
  cases run.fate <;> simp [Fate.standing, HeldChain.leave, hne]

/-- The runs of the abandoned call are entered into the books. -/
theorem settle_self (h : Abandoned id server other) {run run' : Run Outlet ρ}
    (hrun : Undisturbed Outlet.leave run run') :
    Abandoned id (server.settle (.called id) run).server
        (other.settle (.called id) run').server ∧
      (other.settle (.called id) run').heard = (server.settle (.called id) run).heard := by
  refine h.settle hrun.heard_eq hrun.late_eq hrun.unwinds_eq ?_ fun hne => absurd rfl hne
  have hkept := hrun.kept?_eq
  cases fate : run.fate <;> cases fate' : run'.fate <;>
    simp_all [Fate.kept?, Fate.standing, HeldChain.leave]

theorem close (h : Abandoned id server other) (n : Nat) :
    Abandoned id (server.close n) (other.close n) := by
  refine ⟨h.service_eq, h.dispatched_eq, ?_, fun m hm => ?_, ?_, h.held_eq⟩
  · rw [length_called_close, length_called_close, h.length_eq]
  · simp only [Server.close, List.getElem?_modify, h.called_eq m hm]
  · simp [closings_close, List.getElem?_modify, h.closed]

theorem close_left (h : Abandoned id server other) : Abandoned id (server.close id) other := by
  refine ⟨h.service_eq, h.dispatched_eq, ?_, fun m hm => ?_, h.closed, h.held_eq⟩
  · rw [length_called_close, h.length_eq]
  · rw [h.called_eq m hm]
    simp [Server.close, Ne.symm hm]

theorem abandon (h : Abandoned id server other) (n : Nat) :
    Abandoned id (server.abandon n) (other.abandon n) := by
  have closed := h.close n
  refine ⟨closed.service_eq, closed.dispatched_eq, closed.length_eq, closed.called_eq,
    closed.closed, ?_⟩
  rw [held_abandon, held_abandon, h.held_eq, List.map_map, List.map_map]
  refine List.map_congr_left fun held _ => ?_
  simp only [Function.comp_apply]
  by_cases hticket : held.ticket = .called id
  · by_cases hn : n = id
    · rw [hn]
    · have hother : held.ticket ≠ .called n := by simp [hticket, Ne.symm hn]
      have hleft : (held.leave id).ticket ≠ .called n := by simpa using hother
      rw [HeldChain.leave_of_ne hother, HeldChain.leave_of_ne hleft]
  · have hleft : (held.leave n).ticket ≠ .called id := by simpa using hticket
    rw [HeldChain.leave_of_ne hticket, HeldChain.leave_of_ne hleft]

/-- What comes of an act is the same at both servers, if those who go on with the chain of the
abandoned call do not look at what came of ending its response. -/
theorem step (h : Abandoned id server other) (orderly : server.Orderly)
    (hreturns : FallbackReturns Delivery server.service.dispatcher.fallback)
    (heedless : server.HeedlessFor id) (act : Act ρ)
    (hmoves : ∀ behaviour ∈ server.moves id act, behaviour.Heedless) :
    Abandoned id (server.step act).server (other.step act).server ∧
      (other.step act).heard = (server.step act).heard := by
  have hlt := h.lt_length
  cases act with
  | dispatch request outlet =>
    have hne : Ticket.dispatched server.dispatched.length ≠ .called id := by simp
    have := (h.dispatched outlet).settle_of_ne hne
      (server.service.dispatcher.dispatch request outlet)
    simpa only [Server.step, dispatch, h.service_eq, h.dispatched_eq] using this
  | call request =>
    have hne : Ticket.called server.called.length ≠ .called id := by
      simp only [ne_eq, Ticket.called.injEq]
      omega
    have := (h.called ⟨.delivering {}, false⟩).settle_of_ne hne
      (server.service.call request (.delivering {}))
    simpa only [Server.step, call, h.service_eq, h.length_eq] using this
  | resume slot behaviour =>
    simp only [Server.step, resume, h.held?_eq]
    cases found : server.held? slot with
    | none => exact ⟨h, rfl⟩
    | some held =>
      have mem : held ∈ server.held := List.mem_of_find?_eq_some found
      by_cases hticket : held.ticket = .called id
      · have hmove : behaviour.Heedless := hmoves behaviour (by simp [moves, found, hticket])
        have hrun := (orderly.serves held mem id hticket).2.undisturbed hreturns hmove
          (heedless held mem hticket)
        simpa [HeldChain.leave, hticket] using (h.vacate slot).settle_self hrun
      · simpa [HeldChain.leave_of_ne hticket] using (h.vacate slot).settle_of_ne hticket _
  | poll n =>
    refine ⟨?_, rfl⟩
    by_cases hn : n = id
    · subst hn
      have hgone : (other.step (.poll n)).server = other := by
        simp [Server.step, poll_of_closings h.closed]
      rw [hgone]
      rcases server.server_step_poll n with heq | heq <;> rw [heq]
      · exact h
      · exact h.close_left
    · simp only [Server.step, poll_eq, h.called_eq n hn, h.isHeld_eq]
      cases server.called[n]? with
      | none => exact h
      | some call =>
        simp only [Option.map_some, Option.getD_some]
        split
        · exact h.close n
        · exact h
  | abandon n => exact ⟨h.abandon n, rfl⟩

/-- The same is found of any other call at both servers. -/
theorem found_eq (h : Abandoned id server other) {n : Nat} (hn : n ≠ id) (act : Act ρ) :
    other.found n act = server.found n act := by
  cases act with
  | poll m =>
    simp only [found, poll_eq, h.called_eq n hn, h.isHeld_eq, Option.map_map]
    rfl
  | _ => rfl

end Abandoned

/-! ## The remaining entries -/

/-- A run that is entered into the books leaves the remaining entries heedless. -/
theorem HeedlessFor.settle {server : Server ρ} {id : Nat} (h : server.HeedlessFor id)
    {ticket : Ticket} {run : Run Outlet ρ}
    (hrun : ∀ slot chain, run.fate = .held slot chain → ticket = .called id →
      ∀ entry ∈ chain.ahead, entry.action.Heedless) :
    (server.settle ticket run).server.HeedlessFor id := by
  intro held mem hticket
  rcases mem_held_settle mem with mem | ⟨slot, chain, fate, rfl⟩
  · exact h held mem hticket
  · exact hrun slot chain fate hticket

/-- The remaining entries of a call are heedless after any act, if they were before. -/
theorem HeedlessFor.step {server : Server ρ} {id : Nat} (h : server.HeedlessFor id)
    (hlt : id < server.called.length) (act : Act ρ) :
    (server.step act).server.HeedlessFor id := by
  cases act with
  | dispatch request outlet =>
    have booked :
        HeedlessFor { server with dispatched := server.dispatched ++ [outlet] } id := h
    exact booked.settle (by simp)
  | call request =>
    have booked : HeedlessFor
        { server with called := server.called ++ [⟨.delivering {}, false⟩] } id := h
    refine booked.settle fun slot chain fate hticket => ?_
    cases hticket
    exact absurd hlt (Nat.lt_irrefl _)
  | resume slot behaviour =>
    simp only [Server.step, resume]
    cases found : server.held? slot with
    | none => exact h
    | some held =>
      have vacated : (server.vacate slot).HeedlessFor id := fun other mem =>
        h other (List.mem_filter.mp mem).1
      refine vacated.settle fun other chain fate hticket entry mem => ?_
      have hahead := ((Chain.course_resume held.chain behaviour).of_held fate).2
      exact h held (List.mem_of_find?_eq_some found) hticket entry (hahead mem)
  | poll n =>
    rcases server.server_step_poll n with heq | heq <;> rw [heq] <;> exact h
  | abandon n =>
    intro left mem hticket
    rw [Server.step, held_abandon] at mem
    obtain ⟨held, hheld, rfl⟩ := List.mem_map.mp mem
    rw [HeldChain.ticket_leave] at hticket
    rw [HeldChain.ahead_leave]
    exact h held hheld hticket

/-! ## What goes on after a call has been abandoned -/

/-- Whatever is done at two servers, others notice the same at both: the same is heard and the same
panics go on, the same is found of all calls but this one, and the writers of requests that were
dispatched are the same. -/
structure Alike (id : Nat) (server other : Server ρ) (acts : List (Act ρ)) : Prop where
  outcomes_eq : (other.outcomes acts).map Outcome.heard =
    (server.outcomes acts).map Outcome.heard
  polls_eq : ∀ n, n ≠ id → other.polls n acts = server.polls n acts
  dispatched_eq : (other.after acts).dispatched = (server.after acts).dispatched

/-- If neither the remaining entries of an abandoned call nor those who go on with its chain look at
what came of ending the response, everything goes on as it would have. -/
theorem Abandoned.alike {id : Nat} {server other : Server ρ} (h : Abandoned id server other)
    (orderly : server.Orderly)
    (hreturns : FallbackReturns Delivery server.service.dispatcher.fallback)
    (heedless : server.HeedlessFor id) (acts : List (Act ρ))
    (hstory : ∀ behaviour ∈ server.story id acts, behaviour.Heedless) :
    Alike id server other acts := by
  induction acts generalizing server other with
  | nil => exact ⟨rfl, fun _ _ => rfl, h.dispatched_eq⟩
  | cons act acts ih =>
    obtain ⟨next, hheard⟩ := h.step orderly hreturns heedless act fun behaviour mem =>
      hstory behaviour (List.mem_append_left _ mem)
    have rest := ih next (orderly.step act) (server.service_step act ▸ hreturns)
      (heedless.step h.lt_length act) fun behaviour mem =>
        hstory behaviour (List.mem_append_right _ mem)
    refine ⟨?_, fun n hn => ?_, rest.dispatched_eq⟩
    · rw [outcomes, outcomes, List.map_cons, List.map_cons, hheard, rest.outcomes_eq]
    · rw [polls, polls, h.found_eq hn act, rest.polls_eq n hn]

end Server

end RouteChain
