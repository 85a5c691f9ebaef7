import RouteChain.Proofs.Dispatch.ErrorLength
import RouteChain.Proofs.Dispatch.FallingBack
import RouteChain.Proofs.Dispatch.Finality
import RouteChain.Proofs.Server.Answering

/-!
# Calls that come to a response

A call whose chain is gone has a response, however its actions have parted with the chain. If an
action has panicked that had the chain, before anybody ended the response, it tells that something
went wrong. There is one exception: a fallback that panics takes the writer with it before the
response has been ended. A panic of an action that has parted with its chain is only reported.

## Main definitions

* `Dispatcher.Spared` — the fallback does not panic before it has ended the response to a request.

The main result is `Server.call_resolves`, for any acts before and after a call.
-/

namespace RouteChain

variable {ρ : Type}

/-! ## What is found -/

namespace Poll.Due

variable {calls : List WriterCall} {found : List Poll} {poll : Poll}

/-- What is due to those who ask is never an error. -/
theorem failed_not_mem (due : Poll.Due calls found poll) (error : WriteError) :
    .failed error ∉ found ++ [poll] := by
  cases due <;> simp [List.mem_replicate]

/-- Once somebody has tried to end the response, one response is found and no other. -/
theorem exists_response (due : Poll.Due calls found poll) (ends : .finish ∈ calls) :
    ∃ early, BeforeEnd calls early ∧ .response (Transcript.sent ⟨early⟩) ∈ found ++ [poll] ∧
      ∀ other, .response other ∈ found ++ [poll] → other = Transcript.sent ⟨early⟩ := by
  cases due with
  | pending count absent => exact absurd ends absent
  | response count early hearly => exact ⟨early, hearly, by simp, by simp [List.mem_replicate]⟩
  | gone count others early hearly => exact ⟨early, hearly, by simp, by simp [List.mem_replicate]⟩

end Poll.Due

/-! ## Actions that panic -/

namespace Dispatcher

/-- If the request is left to the fallback, this does not panic before it has ended the response. -/
def Spared (dispatcher : Dispatcher ρ) (request : Request) : Prop :=
  dispatcher.Refuses request → ∀ fallback ∈ dispatcher.fallback,
    ((fallback request).run ({} : Delivery)).panicked = true →
      ((fallback request).run ({} : Delivery)).response.ended = true

theorem Spared.alwaysEnds {dispatcher : Dispatcher ρ} {request : Request}
    (spared : dispatcher.Spared request) : dispatcher.AlwaysEnds request :=
  alwaysEnds_of_ended fun _ _ _ fate =>
    dispatcher.isEnded_of_gone request ({} : Delivery) _ spared fate

/-- The writer of a request that is served with a delivery, told by the calls on it. -/
theorem delivery_callsOn (dispatcher : Dispatcher ρ) (request : Request)
    (story : List (Behaviour ρ)) :
    (⟨dispatcher.callsOn request story⟩ : Transcript {}).delivery =
      (dispatcher.serve request ({} : Delivery)
        (story.map Behaviour.resumption)).fate.response := by
  rw [← map_noted, Run.map, Fate.response_map]
  rfl

/-- When an action that has the chain panics before anybody has ended the response, an error is
delivered. -/
theorem delivers_panic (dispatcher : Dispatcher ρ) (request : Request) (story : List (Behaviour ρ))
    {before after : List Deed}
    (hdeeds : dispatcher.deeds request ({} : Delivery) (story.map (Episode.mk [])) =
      before ++ .panicked :: after)
    (unended : .called .finish ∉ before) :
    ∃ sent, (⟨dispatcher.callsOn request story⟩ : Transcript {}).delivery.mailbox = .full sent ∧
      sent.status = 500 := by
  have hstory : (story.map (Episode.mk [])).map Episode.resumption =
      (story.map Behaviour.resumption : List (Resumption Delivery ρ)) := by
    rw [List.map_map]
    rfl
  have does := dispatcher.does_serve request ({} : Delivery) (story.map (Episode.mk []))
  rw [hstory] at does
  obtain ⟨rfl, chain, final, fate, failed⟩ := does.failed before after hdeeds
  obtain ⟨cause, hcause⟩ := Option.isSome_iff_exists.mp failed
  -- the deeds before the panic leave the receiver waiting
  have hwriter : chain.response = Deed.effect ({} : Delivery) (before ++ [.panicked]) := by
    rw [← hdeeds, ← does.written, fate]
    rfl
  have absent : WriterCall.finish ∉ (before ++ [Deed.panicked]).flatMap Deed.calls := by
    rw [Deed.finish_mem_calls, List.mem_append]
    exact not_or.mpr ⟨unended, by decide⟩
  obtain ⟨hended, hmailbox⟩ := Delivery.applyAll_quiet {} _ (.inr absent)
  rw [← Deed.effect, ← hwriter] at hended hmailbox
  have there : chain.response.mailbox ≠ .gone := by simp [hmailbox]
  obtain ⟨sent, hsent, tells, -⟩ :=
    chain.close_errorLength hcause hended (chain.delivers_errorResponse cause hended there)
  have hfinal : final = chain.close.response :=
    (dispatcher.course_serve request _ _).final_eq fate
  refine ⟨sent, ?_, tells.status_eq⟩
  rw [delivery_callsOn, fate, Fate.response, hfinal]
  exact Delivery.sent?_eq_some.mp hsent

end Dispatcher

/-! ## Calls -/

namespace Server

/-- However a call is mixed with other acts, no panic leaves it, and as long as nobody abandons it,
those who ask for its response never find an error. Once its chain is gone, those who have asked or
ask now find a response, and all the same one. If an action has panicked while it had the chain and
nobody has ended the response before that, it is a 500. -/
theorem call_resolves (service : Service ρ) (earlier : List (Act ρ)) (request : Request)
    (spared : service.dispatcher.Spared request) :
    let before := ({ service } : Server ρ).after earlier
    let id := before.called.length
    let called := before.call request
    called.panicked = false ∧
      ∀ later : List (Act ρ), .abandon id ∉ later →
        let server := called.server.after later
        let found := called.server.polls id later
        let deeds := service.dispatcher.deeds request ({} : Delivery)
          ((called.server.story id later).map (Episode.mk []))
        ∃ poll next, server.poll id = some (poll, next) ∧
          (∀ error, .failed error ∉ found ++ [poll]) ∧
          (server.isHeld (.called id) = false →
            ∃ response, .response response ∈ found ++ [poll] ∧
              (∀ other, .response other ∈ found ++ [poll] → other = response) ∧
              ∀ before after, deeds = before ++ .panicked :: after → .called .finish ∉ before →
                response.status = 500) := by
  intro before id called
  have orderly : before.Orderly := (orderly_new service).after earlier
  refine ⟨before.panicked_call request, fun later habandon => ?_⟩
  intro server found deeds
  have hcalled : called.server.service = service :=
    (before.service_step (.call request)).trans (service_after _ earlier)
  have hserver : server.service = service := (service_after _ later).trans hcalled
  have ends := spared.alwaysEnds
  obtain ⟨closed, answers⟩ :=
    (answers_call orderly request).after_of_ends (hcalled.symm ▸ ends) later habandon
  rw [List.nil_append, List.nil_append] at answers
  obtain ⟨poll, next, hpoll, due, -⟩ := answers.poll_of_ends (hserver.symm ▸ ends)
  refine ⟨poll, next, hpoll, due.failed_not_mem, fun gone => ?_⟩
  have hfinish : .finish ∈ server.service.dispatcher.callsOn request
      (called.server.story id later) := by
    refine Decidable.byContradiction fun absent => ?_
    exact Bool.false_ne_true (gone.symm.trans (answers.isHeld (hserver.symm ▸ ends) absent))
  obtain ⟨early, hearly, mem, unique⟩ := due.exists_response hfinish
  refine ⟨_, mem, unique, fun first last hdeeds unended => ?_⟩
  obtain ⟨sent, hsent, hstatus⟩ := service.dispatcher.delivers_panic request _ hdeeds unended
  rw [hserver] at hearly
  have hsame := hsent.symm.trans (Transcript.delivered hearly).2
  rw [← Mailbox.full.inj hsame]
  exact hstatus

/-- An action puts the chain of a call by, and whoever keeps it sets a status and panics. The
fallback would panic as well, but it is not called. -/
theorem call_resolves_of_panic :
    let service : Service Unit := ⟨[⟨.any, .any, .handler, .hold 0⟩], some fun _ => .panic⟩
    let request : Request := ⟨.get, "/", {}, none, none, .empty, none⟩
    let panics : Behaviour Unit := .write (.edit (.status 202)) fun _ => .panic
    let later : List (Act Unit) := [.poll 0, .resume 0 panics]
    let called := ({ service } : Server Unit).call request
    service.dispatcher.Spared request ∧ .abandon 0 ∉ later ∧
      (called.server.after later).isHeld (.called 0) = false ∧
      service.dispatcher.deeds request ({} : Delivery) [⟨[], panics⟩] =
        [.called (.edit (.status 202))] ++ .panicked :: [] ∧
      .called .finish ∉ [Deed.called (.edit (.status 202))] ∧
      ∃ poll next response, (called.server.after later).poll 0 = some (poll, next) ∧
        .response response ∈ called.server.polls 0 later ++ [poll] ∧ response.status = 500 := by
  intro service request panics later called
  have spared : service.dispatcher.Spared request := by
    intro refuses
    exact absurd (refuses _ List.mem_cons_self) (by decide)
  have habandon : Act.abandon 0 ∉ later := by simp [later]
  have hdeeds : service.dispatcher.deeds request ({} : Delivery) [⟨[], panics⟩] =
      [.called (.edit (.status 202))] ++ .panicked :: [] := rfl
  have unended : .called .finish ∉ [Deed.called (.edit (.status 202))] := by decide
  obtain ⟨-, resolves⟩ := call_resolves service [] request spared
  obtain ⟨poll, next, hpoll, -, resolved⟩ := resolves later habandon
  obtain ⟨response, mem, -, hstatus⟩ := resolved rfl
  exact ⟨spared, habandon, rfl, hdeeds, unended, poll, next, response, hpoll, mem,
    hstatus _ _ hdeeds unended⟩

/-- The fallback panics. The chain of the call is gone, and whoever asks for its response finds that
there will be none. In another service an action panics when it has put its chain by. The service
reports the panic, and whoever keeps the chain sends an answer, which is found as it was sent. -/
theorem call_unresolved_of_panic :
    let request : Request := ⟨.get, "/", {}, none, none, .empty, none⟩
    (let service : Service Unit := ⟨[], some fun _ => .panic⟩
      let called := ({ service } : Server Unit).call request
      called.panicked = false ∧ called.server.isHeld (.called 0) = false ∧
        (called.server.poll 0).map Prod.fst = some (.failed .closed) ∧
        ¬ ∃ response next, called.server.poll 0 = some (.response response, next)) ∧
    (let parts : Behaviour Unit := .andThen (.hold 0) ⟨[], true⟩
      let service : Service Unit := ⟨[⟨.any, .any, .handler, parts⟩], none⟩
      let called := ({ service } : Server Unit).call request
      let server := called.server.after [.resume 0 (.send 200 [])]
      called.log.getLast? = some (.raised .servicePanicked) ∧
        called.server.isHeld (.called 0) = true ∧ server.isHeld (.called 0) = false ∧
        ∃ response next, server.poll 0 = some (.response response, next) ∧
          response.status = 200) := by
  intro request
  constructor
  · intro service called
    have hpoll : (called.server.poll 0).map Prod.fst = some (.failed .closed) := rfl
    refine ⟨rfl, rfl, hpoll, fun ⟨response, next, found⟩ => ?_⟩
    rw [found] at hpoll
    cases hpoll
  · intro parts service called server
    exact ⟨rfl, rfl, rfl, _, _, rfl, rfl⟩

end Server

end RouteChain
