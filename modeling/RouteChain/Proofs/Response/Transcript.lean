import RouteChain.Proofs.Dispatch.Comparison
import RouteChain.Proofs.Dispatch.Termination
import RouteChain.Response.Outlet

/-!
# Transcripts

A transcript is a writer that notes the calls that are made on it. It answers them as a delivery
does, so that no action can tell it from one, and keeps them for later.

## Main definitions

* `BeforeEnd` — the calls before the first attempt to end a response.
* `Transcript` — a writer that notes its calls.
* `Transcript.delivery` — the delivery on which the noted calls have been made.
* `Transcript.sent` — the response that is sent if the delivery is ended.
* `Dispatcher.callsOn` — the calls that are made on the writer of a request.

The main results are `Transcript.isOpen` and `Transcript.delivered`: a delivery waits until the
first attempt to end it and has then handed over what had been written by that moment.
-/

namespace RouteChain

/-! ## Calls on a delivery -/

/-- Once a delivery has been ended, or as long as nobody ends it, its receiver has no news. -/
theorem Delivery.applyAll_quiet (delivery : Delivery) (calls : List WriterCall)
    (h : delivery.ended = true ∨ .finish ∉ calls) :
    (WriterCall.applyAll delivery calls).2.ended = delivery.ended ∧
      (WriterCall.applyAll delivery calls).2.mailbox = delivery.mailbox := by
  induction calls generalizing delivery with
  | nil => exact ⟨rfl, rfl⟩
  | cons call calls ih =>
    have hcall : (call.apply delivery).2.ended = delivery.ended ∧
        (call.apply delivery).2.mailbox = delivery.mailbox := by
      cases call with
      | finish =>
        have hended : delivery.ended = true := by simpa using h
        simp [WriterCall.apply, ResponseWriter.finish, Delivery.finish, hended]
      | edit | status | isEnded => exact ⟨rfl, rfl⟩
    obtain ⟨hended, hmailbox⟩ := ih (call.apply delivery).2
      (h.imp (fun ended => hcall.1.trans ended) fun quiet mem => quiet (List.mem_cons_of_mem _ mem))
    exact ⟨hended.trans hcall.1, hmailbox.trans hcall.2⟩

/-- Among these calls there is an attempt to end the response, and the first one comes after these
earlier calls. -/
def BeforeEnd (calls early : List WriterCall) : Prop :=
  .finish ∉ early ∧ ∃ late, calls = early ++ .finish :: late

theorem exists_beforeEnd {calls : List WriterCall} (h : .finish ∈ calls) :
    ∃ early, BeforeEnd calls early := by
  obtain ⟨early, late, hcalls, absent⟩ := List.eq_append_cons_of_mem h
  exact ⟨early, absent, late, hcalls⟩

theorem BeforeEnd.append {calls early : List WriterCall} (h : BeforeEnd calls early)
    (later : List WriterCall) : BeforeEnd (calls ++ later) early := by
  obtain ⟨absent, late, rfl⟩ := h
  exact ⟨absent, late ++ later, by simp⟩

/-! ## Transcripts -/

/-- A writer that notes the calls that are made on a delivery from some time on. -/
structure Transcript (start : Delivery) where
  calls : List WriterCall := []
  deriving Repr, DecidableEq

namespace Transcript

variable {start : Delivery}

/-- The delivery on which the noted calls have been made. -/
def delivery (transcript : Transcript start) : Delivery :=
  (WriterCall.applyAll start transcript.calls).2

def note (transcript : Transcript start) (call : WriterCall) : Transcript start :=
  ⟨transcript.calls ++ [call]⟩

@[simp] theorem delivery_note (transcript : Transcript start) (call : WriterCall) :
    (transcript.note call).delivery = (call.apply transcript.delivery).2 := by
  simp [delivery, note, WriterCall.applyAll_append, WriterCall.applyAll]

instance : ResponseWriter (Transcript start) where
  status transcript := transcript.delivery.response.status
  isEnded transcript := transcript.delivery.ended
  edit transcript change := transcript.note (.edit change)
  finish transcript := (transcript.delivery.finish.1, transcript.note .finish)

theorem follows_delivery : Follows (@delivery start) where
  status _ := rfl
  isEnded _ := rfl
  edit transcript change := (delivery_note transcript (.edit change)).symm
  finish transcript := (delivery_note transcript .finish).symm

theorem agrees_delivery : Agrees (@delivery start) :=
  fun _ => rfl

/-- The transcript with the calls that have been noted later. -/
def append (transcript : Transcript start) (later : Transcript transcript.delivery) :
    Transcript start :=
  ⟨transcript.calls ++ later.calls⟩

theorem delivery_append (transcript : Transcript start) (later : Transcript transcript.delivery) :
    (transcript.append later).delivery = later.delivery := by
  simp [delivery, append, WriterCall.applyAll_append]

theorem note_append (transcript : Transcript start) (later : Transcript transcript.delivery)
    (call : WriterCall) :
    (transcript.append later).note call = transcript.append (later.note call) := by
  simp [append, note]

theorem follows_append (transcript : Transcript start) : Follows transcript.append where
  status later := congrArg (fun delivery => delivery.response.status)
    (transcript.delivery_append later)
  isEnded later := congrArg Delivery.ended (transcript.delivery_append later)
  edit later change := transcript.note_append later (.edit change)
  finish later := transcript.note_append later .finish

theorem agrees_append (transcript : Transcript start) : Agrees transcript.append :=
  fun later => congrArg (fun delivery => delivery.finish.1) (transcript.delivery_append later)

/-- As long as nobody has tried to end it, a delivery is open and its receiver waits. -/
theorem isOpen (transcript : Transcript {}) (h : .finish ∉ transcript.calls) :
    transcript.delivery.ended = false ∧ transcript.delivery.mailbox = .waiting :=
  Delivery.applyAll_quiet {} transcript.calls (.inr h)

/-- The response that is sent if the delivery is ended now: what has been written so far, with its
length. -/
def sent (transcript : Transcript {}) : Response :=
  transcript.delivery.response.withLength

/-- From the first attempt to end it a delivery is ended, and its receiver has the response as it
was at that moment. -/
theorem delivered {calls early : List WriterCall} (h : BeforeEnd calls early) :
    (⟨calls⟩ : Transcript {}).delivery.ended = true ∧
      (⟨calls⟩ : Transcript {}).delivery.mailbox = .full (sent ⟨early⟩) := by
  obtain ⟨absent, late, rfl⟩ := h
  obtain ⟨hopen, hwaiting⟩ := isOpen ⟨early⟩ absent
  have hfinish : (⟨early⟩ : Transcript {}).delivery.finish.2 =
      { (⟨early⟩ : Transcript {}).delivery with
        ended := true, mailbox := .full (sent ⟨early⟩) } := by
    simp only [Delivery.finish, hopen, hwaiting]
    rfl
  have hsplit : (⟨early ++ .finish :: late⟩ : Transcript {}).delivery =
      (WriterCall.applyAll (⟨early⟩ : Transcript {}).delivery.finish.2 late).2 := by
    simp only [delivery, WriterCall.applyAll_append]
    rfl
  rw [hsplit, hfinish]
  exact Delivery.applyAll_quiet _ late (.inl rfl)

end Transcript

/-! ## The calls of a request -/

theorem Outlet.follows_delivering : Follows Outlet.delivering :=
  ⟨fun _ => rfl, fun _ => rfl, fun _ _ => rfl, fun _ => rfl⟩

theorem Outlet.agrees_delivering : Agrees Outlet.delivering :=
  fun _ => rfl

variable {ρ : Type}

/-- When somebody goes on with a chain that was put by, the calls on its writer come after those
that have been made before. -/
theorem Run.goOn_calls {start : Delivery} (run : Run (Transcript start) ρ)
    (behaviour : Behaviour ρ) :
    ∃ later, (run.goOn behaviour.resumption).fate.response.calls =
      run.fate.response.calls ++ later := by
  cases fate : run.fate with
  | gone chain response =>
    exact ⟨[], by simp [Run.goOn, fate]⟩
  | held slot chain =>
    -- the chain with a transcript that starts now
    let fresh : Chain (Transcript chain.response.delivery) ρ := chain.map fun _ => {}
    have hchain : fresh.map chain.response.append = chain := by
      simp [fresh, Chain.map, Transcript.append]
    have hresume := Chain.resume_map chain.response.follows_append chain.response.agrees_append
      fresh behaviour
    rw [hchain] at hresume
    have hgoOn : (run.goOn behaviour.resumption).fate = (chain.resume behaviour).fate := by
      simp only [Run.goOn, fate]
      rfl
    refine ⟨(fresh.resume behaviour).fate.response.calls, ?_⟩
    rw [hgoOn, hresume]
    simp only [Run.map, Fate.response_map]
    rfl

namespace Dispatcher

/-- The run of a request whose writer notes its calls, if the chain is put by and this is what those
do with it who keep it, one after the other. -/
def noted (dispatcher : Dispatcher ρ) (request : Request) (story : List (Behaviour ρ)) :
    Run (Transcript {}) ρ :=
  dispatcher.serve request {} (story.map Behaviour.resumption)

/-- The calls that are made on the writer of a request. None has been made before. -/
def callsOn (dispatcher : Dispatcher ρ) (request : Request) (story : List (Behaviour ρ)) :
    List WriterCall :=
  (dispatcher.noted request story).fate.response.calls

/-- A request that is served with a delivery is served alike with a transcript of it. -/
theorem map_noted (dispatcher : Dispatcher ρ) (request : Request) (story : List (Behaviour ρ)) :
    (dispatcher.noted request story).map Transcript.delivery =
      dispatcher.serve request ({} : Delivery) (story.map Behaviour.resumption) :=
  (serve_map Transcript.follows_delivery Transcript.agrees_delivery dispatcher request {}
    story).symm

/-- A request that is served with a delivery has the calls made on it that have been noted. -/
theorem serve_delivering (dispatcher : Dispatcher ρ) (request : Request)
    (story : List (Behaviour ρ)) :
    dispatcher.serve request (Outlet.delivering {}) (story.map Behaviour.resumption) =
      ((dispatcher.noted request story).map Transcript.delivery).map Outlet.delivering := by
  rw [map_noted, ← serve_map Outlet.follows_delivering Outlet.agrees_delivering]

/-- What is done later with the chain of a request only adds calls. -/
theorem callsOn_append (dispatcher : Dispatcher ρ) (request : Request)
    (story others : List (Behaviour ρ)) :
    ∃ later, dispatcher.callsOn request (story ++ others) =
      dispatcher.callsOn request story ++ later := by
  unfold callsOn noted serve
  rw [List.map_append, List.foldl_append]
  generalize (story.map Behaviour.resumption).foldl Run.goOn
    (dispatcher.dispatch request ({} : Transcript {})) = run
  induction others generalizing run with
  | nil => exact ⟨[], (List.append_nil _).symm⟩
  | cons behaviour others ih =>
    obtain ⟨first, hfirst⟩ := run.goOn_calls behaviour
    obtain ⟨rest, hrest⟩ := ih (run.goOn behaviour.resumption)
    exact ⟨first ++ rest, by rw [List.map_cons, List.foldl_cons, hrest, hfirst, List.append_assoc]⟩

/-- By the time when the chain of such a request is gone somebody has tried to end its response,
whatever has been done with the chain. -/
def AlwaysEnds (dispatcher : Dispatcher ρ) (request : Request) : Prop :=
  ∀ (story : List (Behaviour ρ)) (chain : Chain (Transcript {}) ρ) (final : Transcript {}),
    (dispatcher.noted request story).fate = .gone chain final →
      .finish ∈ dispatcher.callsOn request story

/-- A delivery that is ended once the chain is gone has been ended by a call. -/
theorem alwaysEnds_of_ended {dispatcher : Dispatcher ρ} {request : Request}
    (hended : ∀ (story : List (Behaviour ρ)) (chain : Chain Delivery ρ) (final : Delivery),
      (dispatcher.serve request ({} : Delivery) (story.map Behaviour.resumption)).fate =
        .gone chain final → final.ended = true) :
    dispatcher.AlwaysEnds request := by
  intro story chain final fate
  have hdelivery : final.delivery.ended = true := by
    refine hended story (chain.map Transcript.delivery) _ ?_
    rw [← map_noted, Run.map, fate, Fate.map]
  refine Decidable.byContradiction fun absent => ?_
  have hopen := (final.isOpen (by rwa [callsOn, fate] at absent)).1
  exact absurd (hopen.symm.trans hdelivery) (by decide)

/-- If the fallback comes back, every request is ended. -/
theorem alwaysEnds_of_fallbackReturns {dispatcher : Dispatcher ρ}
    (hreturns : FallbackReturns Delivery dispatcher.fallback) (request : Request) :
    dispatcher.AlwaysEnds request := by
  refine alwaysEnds_of_ended fun story chain final fate => ?_
  exact (dispatcher.endsOnce_of_fallbackReturns request ({} : Delivery)
    (story.map Behaviour.resumption) hreturns).isEnded Delivery.ended_finish fate

end Dispatcher

end RouteChain
