import RouteChain.Proofs.Server.Abandonment
import RouteChain.Proofs.Server.Tracking

/-!
# How a call is answered

Whatever goes on at a server meanwhile, those who ask for the response of a call find it pending
until somebody ends it. Then they find the response as it was at that moment, once. If the call is
abandoned, nobody finds anything any more, and all else goes on as it would have.

## Main definitions

* `Poll.Due` — what is due to those who ask for a response on whose writer certain calls were made.

The main result is `Server.call_answered`, for any acts before and after a call.
-/

namespace RouteChain

variable {ρ : Type}

/-- What is due to somebody who asks for the response of a call when these calls have been made on
its writer and others who asked have found this. -/
inductive Poll.Due (calls : List WriterCall) : List Poll → Poll → Prop
  /-- Nobody has ended the response yet. -/
  | pending (count : Nat) :
      .finish ∉ calls → Due calls (List.replicate count .pending) .pending
  /-- The response has been ended, and nobody has found it yet. -/
  | response (count : Nat) (early : List WriterCall) : BeforeEnd calls early →
      Due calls (List.replicate count .pending) (.response (Transcript.sent ⟨early⟩))
  /-- The response has been ended and found. -/
  | gone (count others : Nat) (early : List WriterCall) : BeforeEnd calls early →
      Due calls
        (List.replicate count .pending ++
          .response (Transcript.sent ⟨early⟩) :: List.replicate others .gone)
        .gone

/-- What has been found of a call on whose writer these calls have been made, and whether that has
closed it. -/
inductive Poll.Found (calls : List WriterCall) : List Poll → Bool → Prop
  | pending (count : Nat) : Found calls (List.replicate count .pending) false
  | gone (count others : Nat) (early : List WriterCall) : BeforeEnd calls early →
      Found calls
        (List.replicate count .pending ++
          .response (Transcript.sent ⟨early⟩) :: List.replicate others .gone)
        true

/-- Later calls do not change what has been found. -/
theorem Poll.Found.append {calls : List WriterCall} {found : List Poll} {closed : Bool}
    (h : Poll.Found calls found closed) (later : List WriterCall) :
    Poll.Found (calls ++ later) found closed := by
  cases h with
  | pending count => exact .pending count
  | gone count others early hearly => exact .gone count others early (hearly.append later)

namespace Server

/-! ## The answers to a call -/

/-- The books of a server show how a call is answered that was taken for this request: what has
become of its chain since, in the run that its story makes, and what has been found by those who
asked for its response. -/
structure Answers (server : Server ρ) (id : Nat) (request : Request) (story : List (Behaviour ρ))
    (found : List Poll) (closed : Bool) : Prop where
  orderly : server.Orderly
  tracks : server.Tracks id
    (server.service.dispatcher.serve request (.delivering {})
      (story.map Behaviour.resumption)).fate closed
  found : Poll.Found (server.service.dispatcher.callsOn request story) found closed

namespace Answers

variable {server : Server ρ} {id : Nat} {request : Request} {story : List (Behaviour ρ)}
  {found : List Poll} {closed : Bool}

/-- The writer of the call is the delivery on which the calls have been made. -/
theorem booked (h : server.Answers id request story found closed) :
    server.called[id]? =
      some ⟨.delivering
        (⟨server.service.dispatcher.callsOn request story⟩ : Transcript {}).delivery, closed⟩ := by
  have booked := h.tracks.booked
  rw [Dispatcher.serve_delivering] at booked
  simp only [Run.map, Fate.response_map] at booked
  exact booked

/-- What is found when the response is asked for, told by the books. -/
theorem poll_eq (h : server.Answers id request story found closed) :
    server.poll id =
      let delivery := (⟨server.service.dispatcher.callsOn request story⟩ : Transcript {}).delivery
      let poll := PendingCall.poll ⟨.delivering delivery, closed⟩ (server.isHeld (.called id))
      some (poll, if poll.closes then server.close id else server) := by
  rw [Server.poll_eq, h.booked]
  rfl

/-- The chain is kept as long as nobody has tried to end the response. -/
theorem isHeld (h : server.Answers id request story found closed)
    (ends : server.service.dispatcher.AlwaysEnds request)
    (absent : .finish ∉ server.service.dispatcher.callsOn request story) :
    server.isHeld (.called id) = true := by
  rw [h.tracks.isHeld_iff, Dispatcher.serve_delivering]
  cases fate : (server.service.dispatcher.noted request story).fate with
  | gone chain final => exact absurd (ends story chain final fate) absent
  | held slot chain => exact ⟨slot, _, by simp only [Run.map, fate, Fate.map]; rfl⟩

/-- Those who ask for the response find what is due, and the books go on to show it. -/
theorem poll_of_ends (h : server.Answers id request story found closed)
    (ends : server.service.dispatcher.AlwaysEnds request) :
    ∃ poll next, server.poll id = some (poll, next) ∧
      Poll.Due (server.service.dispatcher.callsOn request story) found poll ∧
      ∃ closed', next.Answers id request story (found ++ [poll]) closed' := by
  have hpoll := h.poll_eq
  cases h.found with
  | pending count =>
    by_cases hfinish : .finish ∈ server.service.dispatcher.callsOn request story
    · obtain ⟨early, hearly⟩ := exists_beforeEnd hfinish
      have hmailbox := (Transcript.delivered hearly).2
      refine ⟨.response (Transcript.sent ⟨early⟩), server.close id, ?_,
        .response count early hearly, true, h.orderly.close id, h.tracks.close, ?_⟩
      · rw [hpoll]
        simp [PendingCall.poll, Outlet.delivery?, hmailbox, Poll.closes]
      · exact .gone count 0 early hearly
    · have hmailbox : (⟨server.service.dispatcher.callsOn request story⟩ :
          Transcript {}).delivery.mailbox = .waiting := (Transcript.isOpen _ hfinish).2
      refine ⟨.pending, server, ?_, .pending count hfinish, false, h.orderly, h.tracks, ?_⟩
      · rw [hpoll]
        simp [PendingCall.poll, Outlet.delivery?, hmailbox, h.isHeld ends hfinish, Poll.closes]
      · rw [← List.replicate_succ']
        exact .pending (count + 1)
  | gone count others early hearly =>
    refine ⟨.gone, server, ?_, .gone count others early hearly, true, h.orderly, h.tracks, ?_⟩
    · rw [hpoll]
      simp [PendingCall.poll, Poll.closes]
    · rw [List.append_assoc, List.cons_append, ← List.replicate_succ']
      exact .gone count (others + 1) early hearly

/-- Any act but abandoning the call leaves books that show how it is answered. -/
theorem step (h : server.Answers id request story found closed)
    (ends : server.service.dispatcher.AlwaysEnds request) (act : Act ρ)
    (habandon : act ≠ .abandon id) :
    ∃ closed', (server.step act).server.Answers id request (story ++ server.moves id act)
      (found ++ server.found id act) closed' := by
  by_cases hact : act = .poll id
  · subst hact
    obtain ⟨poll, next, hpoll, -, closed', hnext⟩ := h.poll_of_ends ends
    refine ⟨closed', ?_⟩
    simpa [Server.step, moves, Server.found, hpoll] using hnext
  · obtain ⟨later, hlater⟩ := server.service.dispatcher.callsOn_append request story
      (server.moves id act)
    have hfound : server.found id act = [] := by
      cases act with
      | poll other =>
        have hother : other ≠ id := fun heq => hact (heq ▸ rfl)
        simp [Server.found, hother]
      | _ => rfl
    refine ⟨closed, h.orderly.step act, ?_, ?_⟩
    · rw [service_step, List.map_append, Dispatcher.serve, List.foldl_append]
      exact h.tracks.step h.orderly act hact habandon
    · rw [service_step, hlater, hfound, List.append_nil]
      exact h.found.append later

/-- The books show how a call is answered after any acts, as long as nobody abandons it. -/
theorem after_of_ends (h : server.Answers id request story found closed)
    (ends : server.service.dispatcher.AlwaysEnds request) (acts : List (Act ρ))
    (habandon : .abandon id ∉ acts) :
    ∃ closed', (server.after acts).Answers id request (story ++ server.story id acts)
      (found ++ server.polls id acts) closed' := by
  induction acts generalizing server story found closed with
  | nil => exact ⟨closed, by simpa [Server.after, Server.story, polls] using h⟩
  | cons act acts ih =>
    obtain ⟨next, hnext⟩ := h.step ends act fun heq => habandon (heq ▸ List.mem_cons_self)
    have hrest : .abandon id ∉ acts := fun mem => habandon (List.mem_cons_of_mem _ mem)
    obtain ⟨closed', last⟩ := ih hnext (server.service_step act ▸ ends) hrest
    exact ⟨closed', by simpa [Server.after, Server.story, polls] using last⟩

theorem poll (h : server.Answers id request story found closed)
    (hreturns : FallbackReturns Delivery server.service.dispatcher.fallback) :
    ∃ poll next, server.poll id = some (poll, next) ∧
      Poll.Due (server.service.dispatcher.callsOn request story) found poll ∧
      ∃ closed', next.Answers id request story (found ++ [poll]) closed' :=
  h.poll_of_ends (Dispatcher.alwaysEnds_of_fallbackReturns hreturns request)

theorem after (h : server.Answers id request story found closed)
    (hreturns : FallbackReturns Delivery server.service.dispatcher.fallback) (acts : List (Act ρ))
    (habandon : .abandon id ∉ acts) :
    ∃ closed', (server.after acts).Answers id request (story ++ server.story id acts)
      (found ++ server.polls id acts) closed' :=
  h.after_of_ends (Dispatcher.alwaysEnds_of_fallbackReturns hreturns request) acts habandon

end Answers

/-- When a call has been taken, the books show that nothing has been found of it yet. -/
theorem answers_call {server : Server ρ} (h : server.Orderly) (request : Request) :
    (server.call request).server.Answers server.called.length request [] [] false := by
  refine ⟨h.step (.call request), ?_, .pending 0⟩
  have hservice : (server.call request).server.service = server.service := service_settle _ _ _
  have absent : ∀ held ∈ server.held, held.ticket ≠ .called server.called.length := by
    intro held mem hticket
    exact absurd (h.serves held mem _ hticket).1 (Nat.lt_irrefl _)
  let booked : Server ρ := { server with called := server.called ++ [⟨.delivering {}, false⟩] }
  have hbooked : booked.called[server.called.length]? = some ⟨.delivering {}, false⟩ := by
    simp [booked]
  have tracks := Tracks.settle_self (server.service.call request (Outlet.delivering {})) hbooked
    absent
  rw [Service.call, Run.fate_contain] at tracks
  rw [hservice]
  exact tracks

/-- Nothing is found of a call that is closed. -/
theorem polls_of_closings {server : Server ρ} {id : Nat} (h : server.closings[id]? = some true)
    (acts : List (Act ρ)) : ∀ poll ∈ server.polls id acts, poll = .gone := by
  induction acts generalizing server with
  | nil => simp [polls]
  | cons act acts ih =>
    intro poll mem
    rcases List.mem_append.mp mem with mem | mem
    · cases act with
      | poll other =>
        by_cases hother : other = id
        · simpa [found, hother, poll_of_closings h] using mem
        · simp [found, hother] at mem
      | _ => simp [found] at mem
    · exact ih (closings_step h act) poll mem

/-- However a call is mixed with other acts, no panic leaves it, and as long as nobody abandons it,
those who ask for its response find what is due: it is pending until the first attempt to end it,
then they find the response as it was at that moment, once. The calls that count are those which are
made on the writer of this request in the run that its story makes. If the call is abandoned nobody
finds anything any more. If neither the remaining entries nor those who go on with its chain look at
what came of ending the response, all else goes on as it would have. -/
theorem call_answered (service : Service ρ)
    (hreturns : FallbackReturns Delivery service.dispatcher.fallback) (earlier : List (Act ρ))
    (request : Request) :
    let before := ({ service } : Server ρ).after earlier
    let id := before.called.length
    let called := before.call request
    called.panicked = false ∧
      ∀ later : List (Act ρ), .abandon id ∉ later →
        let server := called.server.after later
        let calls := service.dispatcher.callsOn request (called.server.story id later)
        server.called[id]?.map PendingCall.outlet =
          some (.delivering (⟨calls⟩ : Transcript {}).delivery) ∧
        (∃ poll next, server.poll id = some (poll, next) ∧
          Poll.Due calls (called.server.polls id later) poll) ∧
        ∀ acts : List (Act ρ),
          (∀ poll ∈ (server.abandon id).polls id acts, poll = .gone) ∧
          (server.HeedlessFor id → (∀ behaviour ∈ server.story id acts, behaviour.Heedless) →
            Alike id server (server.abandon id) acts) := by
  intro before id called
  have orderly : before.Orderly := (orderly_new service).after earlier
  refine ⟨before.panicked_call request, fun later habandon => ?_⟩
  have hcalled : called.server.service = service :=
    (before.service_step (.call request)).trans (service_after _ earlier)
  have hserver : (called.server.after later).service = service :=
    (service_after _ later).trans hcalled
  obtain ⟨closed, answers⟩ :=
    (answers_call orderly request).after (hcalled.symm ▸ hreturns) later habandon
  have hlt : id < (called.server.after later).called.length :=
    (List.getElem?_eq_some_iff.mp answers.booked).1
  have abandoned := abandoned_abandon hlt
  rw [List.nil_append, List.nil_append] at answers
  refine ⟨?_, ?_, fun acts => ⟨polls_of_closings abandoned.closed acts, ?_⟩⟩
  · rw [answers.booked, hserver]
    rfl
  · obtain ⟨poll, next, hpoll, due, -⟩ := answers.poll (hserver.symm ▸ hreturns)
    exact ⟨poll, next, hpoll, hserver ▸ due⟩
  · exact fun heedless hstory =>
      abandoned.alike answers.orderly (hserver.symm ▸ hreturns) heedless acts hstory

/-- An action puts the chain of a call by. Whoever keeps it writes a body, ends the response, and
then clears the body, which is found all the same. If the call has been abandoned, the same is done
with the chain, and it goes to the next action as it would have. -/
theorem call_answered_of_held :
    let handler : RouteEntry Unit := ⟨.any, .any, .handler, .send 200 []⟩
    let service : Service Unit := ⟨[⟨.any, .any, .middleware, .hold 0⟩, handler], none⟩
    let request : Request := ⟨.get, "/", {}, none, none, .empty, none⟩
    let ends : Behaviour Unit := .write (.edit (.header contentLength [50])) fun _ =>
      .write (.edit (.append [104, 105])) fun _ =>
      .write .finish fun _ => .write (.edit .clear) fun _ => .pass
    let called := ({ service } : Server Unit).call request
    FallbackReturns Delivery service.dispatcher.fallback ∧
      .abandon 0 ∉ [Act.poll 0, .resume 0 ends] ∧
      Poll.Due (service.dispatcher.callsOn request [ends]) [.pending]
        (.response { headers := ⟨[("content-length", [50])]⟩, body := [104, 105] }) ∧
      called.server.HeedlessFor 0 ∧
      (∀ behaviour ∈ called.server.story 0 [.resume 0 ends], behaviour.Heedless) ∧
      Alike 0 called.server (called.server.abandon 0) [.resume 0 ends] := by
  intro handler service request ends called
  have hreturns : FallbackReturns Delivery service.dispatcher.fallback := by
    simp [FallbackReturns, service]
  have habandon : Act.abandon 0 ∉ [Act.poll 0, .resume 0 ends] := by simp
  obtain ⟨-, answered⟩ := call_answered service hreturns [] request
  obtain ⟨-, ⟨poll, next, hpoll, due⟩, -⟩ := answered [.poll 0, .resume 0 ends] habandon
  obtain ⟨-, -, abandoned⟩ := answered [] List.not_mem_nil
  obtain ⟨server, hserver⟩ : ∃ server, (called.server.after [.poll 0, .resume 0 ends]).poll 0 =
      some (.response { headers := ⟨[("content-length", [50])]⟩, body := [104, 105] }, server) :=
    ⟨_, rfl⟩
  obtain ⟨rfl, -⟩ : poll = _ ∧ next = _ := by simpa using hpoll.symm.trans hserver
  have heedless : called.server.HeedlessFor 0 := by
    obtain ⟨chain, hheld, hahead⟩ : ∃ chain, called.server.held = [⟨0, .called 0, chain⟩] ∧
        chain.ahead = [handler] := ⟨_, rfl, rfl⟩
    intro held mem _ entry hentry
    rw [hheld] at mem
    obtain rfl := List.mem_singleton.mp mem
    rw [hahead] at hentry
    obtain rfl := List.mem_singleton.mp hentry
    exact True.intro
  have hstory : ∀ behaviour ∈ called.server.story 0 [.resume 0 ends], behaviour.Heedless := by
    have hends : called.server.story 0 [.resume 0 ends] = [ends] := rfl
    rw [hends]
    simp [ends, Behaviour.Heedless]
  exact ⟨hreturns, habandon, due, heedless, hstory, (abandoned [.resume 0 ends]).2 heedless hstory⟩

end Server

end RouteChain
