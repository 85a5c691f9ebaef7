import RouteChain.Proofs.Dispatch.Failure

/-!
# The length of an error response

The response to a failed request replaces all that has been written to the body before. A length
that has been set for that body is not replaced.

## Main definitions

* `Response.CarriesLength` — the response carries the length of its body.
* `Headers.LeavesLength` — no length has been set that would be wrong for a body.

The main result is `Dispatcher.serve_errorLength`: an error response carries the length of its body
if and only if no other length has been set before.
-/

namespace RouteChain

variable {σ ρ : Type}

/-! ## Lengths -/

/-- The bytes with which a length is written. -/
def Bytes.ofLength (length : Nat) : Bytes :=
  .ofText (toString length)

/-- The response carries one length, and that is the number of bytes of its body. -/
def Response.CarriesLength (response : Response) : Prop :=
  response.headers.values contentLength = [.ofLength response.body.length]

/-- No length has been set, or the one of this body. -/
def Headers.LeavesLength (headers : Headers) (body : Bytes) : Prop :=
  headers.values contentLength = [] ∨ headers.values contentLength = [.ofLength body.length]

namespace Response

instance (response : Response) : Decidable response.CarriesLength :=
  inferInstanceAs (Decidable (_ = _))

/-- The length is added if it is not there, and otherwise has to be right already. -/
theorem carriesLength_withLength (response : Response) :
    response.withLength.CarriesLength ↔ response.headers.LeavesLength response.body := by
  by_cases there : response.headers.contains contentLength
  · have hvalues := (response.headers.contains_iff contentLength).mp there
    simp [withLength, there, CarriesLength, Headers.LeavesLength, hvalues]
  · have absent : response.headers.values contentLength = [] := by
      simpa [Headers.contains_iff] using there
    have hset := response.headers.values_set_self contentLength (.ofLength response.body.length)
    simp only [withLength, there, CarriesLength, Headers.LeavesLength, absent, true_or, iff_true]
    exact hset

/-- Telling an error does not touch the length. -/
theorem values_errorResponse (response : Response) (cause : Cause) :
    ((Chain.errorResponse cause).foldl edit response).headers.values contentLength =
      response.headers.values contentLength :=
  response.headers.values_set_of_ne _ (by decide)

end Response

/-! ## The end of a failed request -/

open FaithfulWriter

/-- An error can be delivered if the receiver is there. -/
theorem Chain.delivers_errorResponse (chain : Chain Delivery ρ) (cause : Cause)
    (unended : chain.response.ended = false) (there : chain.response.mailbox ≠ .gone) :
    (ResponseWriter.finish (chain.edit (errorResponse cause)).response).1 = none := by
  have hopen : (chain.edit (errorResponse cause)).response.ended = false := unended
  have hmailbox : (chain.edit (errorResponse cause)).response.mailbox ≠ .gone := there
  simp only [ResponseWriter.finish, Delivery.finish, hopen]
  split
  · contradiction
  · rfl

/-- The response of a failed request, if it can be ended: it tells the error, and carries the length
of its body unless another one has been set. -/
theorem Chain.close_errorLength [FaithfulWriter σ] (chain : Chain σ ρ) {cause : Cause}
    (failed : chain.error = some cause)
    (unended : ResponseWriter.isEnded chain.response = false)
    (success : (ResponseWriter.finish (chain.edit (errorResponse cause)).response).1 = none) :
    ∃ sent, sent? chain.close.response = some sent ∧
      sent.Tells cause (written chain.response).headers ∧
      (sent.CarriesLength ↔
        (written chain.response).headers.LeavesLength (.ofText cause.message)) := by
  have hclose : chain.close.response =
      (ResponseWriter.finish (chain.edit (errorResponse cause)).response).2 := by
    simp [close, failed, abort, unended]
  have hopen : ResponseWriter.isEnded (chain.edit (errorResponse cause)).response = false := by
    rw [Chain.edit, isEnded_foldl_edit, unended]
  have hwritten : written (chain.edit (errorResponse cause)).response =
      (errorResponse cause).foldl Response.edit (written chain.response) :=
    written_foldl_edit _ _
  refine ⟨_, by rw [hclose, sent?_finish _ hopen success, hwritten],
    (Response.tells_edits _ _).withLength, ?_⟩
  rw [Response.carriesLength_withLength, Headers.LeavesLength, Response.values_errorResponse]
  rfl

/-- The same for a whole run that has failed. -/
theorem Dispatcher.sent_of_failed [FaithfulWriter σ] (dispatcher : Dispatcher ρ)
    (request : Request) (response : σ) (resumptions : List (Resumption σ ρ))
    {chain : Chain σ ρ} {final : σ} {cause : Cause}
    (fate : (dispatcher.serve request response resumptions).fate = .gone chain final)
    (failed : lastFlag? (dispatcher.serve request response resumptions).log = some cause)
    (unended : ResponseWriter.isEnded chain.response = false)
    (success : (ResponseWriter.finish (chain.edit (Chain.errorResponse cause)).response).1 = none) :
    ∃ sent, sent? final = some sent ∧ sent.Tells cause (written chain.response).headers ∧
      (sent.CarriesLength ↔
        (written chain.response).headers.LeavesLength (.ofText cause.message)) := by
  obtain ⟨herror, rfl⟩ :=
    (dispatcher.course_serve request response resumptions).error_eq rfl fate
  exact chain.close_errorLength (herror.trans failed) unended success

namespace Dispatcher

/-- A request fails, its chain is given up, and its response has not been ended before. Then it is
answered with the error, whatever has been written before, and the answer carries the length of its
body if and only if no other length has been set. That is so with a recorder, and with a delivery
whose receiver has not left. -/
theorem serve_errorLength (dispatcher : Dispatcher ρ) (request : Request) :
    (∀ (recorder : Recorder) (resumptions : List (Resumption Recorder ρ)) (chain : Chain Recorder ρ)
      (final : Recorder) (flag : Cause),
      let run := dispatcher.serve request recorder resumptions
      run.fate = .gone chain final → .flagged flag ∈ run.log → chain.response.ended = false →
      ∃ cause, lastFlag? run.log = some cause ∧ final.ended = true ∧
        final.response.Tells cause chain.response.response.headers ∧
        (final.response.CarriesLength ↔
          chain.response.response.headers.LeavesLength (.ofText cause.message))) ∧
    ∀ (delivery : Delivery) (resumptions : List (Resumption Delivery ρ)) (chain : Chain Delivery ρ)
      (final : Delivery) (flag : Cause),
      let run := dispatcher.serve request delivery resumptions
      run.fate = .gone chain final → .flagged flag ∈ run.log → chain.response.ended = false →
      chain.response.mailbox ≠ .gone →
      ∃ cause sent, lastFlag? run.log = some cause ∧ final.mailbox = .full sent ∧
        sent.Tells cause chain.response.response.headers ∧
        (sent.CarriesLength ↔
          chain.response.response.headers.LeavesLength (.ofText cause.message)) := by
  constructor
  · intro recorder resumptions chain final flag run fate mem unended
    obtain ⟨cause, failed⟩ := exists_lastFlag? mem
    have hopen : (chain.edit (Chain.errorResponse cause)).response.ended = false := unended
    have success : (ResponseWriter.finish (chain.edit (Chain.errorResponse cause)).response).1 =
        none := by
      simp [ResponseWriter.finish, Recorder.finish, hopen]
    obtain ⟨sent, hsent, told⟩ :=
      dispatcher.sent_of_failed request recorder resumptions fate failed unended success
    obtain ⟨ended, rfl⟩ := Recorder.sent?_eq_some.mp hsent
    exact ⟨cause, failed, ended, told⟩
  · intro delivery resumptions chain final flag run fate mem unended there
    obtain ⟨cause, failed⟩ := exists_lastFlag? mem
    obtain ⟨sent, hsent, told⟩ := dispatcher.sent_of_failed request delivery resumptions fate failed
      unended (chain.delivers_errorResponse cause unended there)
    exact ⟨cause, sent, failed, Delivery.sent?_eq_some.mp hsent, told⟩

/-- An action writes a header and some of a body and panics. Nobody has set a length. -/
theorem serve_errorLength_of_panic :
    let action : Behaviour Unit := .write (.edit (.header "x-trace" [55])) fun _ =>
      .write (.edit (.append [104, 105])) fun _ => .panic
    let dispatcher : Dispatcher Unit := ⟨[⟨.any, .any, .handler, action⟩], none⟩
    let request : Request := ⟨.get, "/", {}, none, none, .empty, none⟩
    (∃ chain final, (dispatcher.serve request ({} : Recorder) []).fate = .gone chain final ∧
      final.response.Tells .panicked ⟨[("x-trace", [55])]⟩ ∧ final.response.CarriesLength) ∧
    ∃ chain final sent, (dispatcher.serve request ({} : Delivery) []).fate = .gone chain final ∧
      final.mailbox = .full sent ∧ sent.Tells .panicked ⟨[("x-trace", [55])]⟩ ∧
      sent.CarriesLength := by
  intro action dispatcher request
  obtain ⟨recorded, delivered⟩ := dispatcher.serve_errorLength request
  constructor
  · obtain ⟨chain, final, fate, hheaders, hopen⟩ : ∃ chain final,
        (dispatcher.serve request ({} : Recorder) []).fate = .gone chain final ∧
        chain.response.response.headers = ⟨[("x-trace", [55])]⟩ ∧ chain.response.ended = false :=
      ⟨_, _, rfl, rfl, rfl⟩
    obtain ⟨cause, hcause, -, tells, hlength⟩ :=
      recorded {} [] chain final .panicked fate (mem_of_lastFlag? rfl) hopen
    obtain rfl : .panicked = cause := Option.some.inj hcause
    rw [hheaders] at tells hlength
    exact ⟨chain, final, fate, tells, hlength.mpr (.inl rfl)⟩
  · obtain ⟨chain, final, fate, hheaders, hopen, hmailbox⟩ : ∃ chain final,
        (dispatcher.serve request ({} : Delivery) []).fate = .gone chain final ∧
        chain.response.response.headers = ⟨[("x-trace", [55])]⟩ ∧ chain.response.ended = false ∧
        chain.response.mailbox = .waiting :=
      ⟨_, _, rfl, rfl, rfl, rfl⟩
    obtain ⟨cause, sent, hcause, hsent, tells, hlength⟩ :=
      delivered {} [] chain final .panicked fate (mem_of_lastFlag? rfl) hopen (by simp [hmailbox])
    obtain rfl : .panicked = cause := Option.some.inj hcause
    rw [hheaders] at tells hlength
    exact ⟨chain, final, sent, fate, hsent, tells, hlength.mpr (.inl rfl)⟩

/-- An action sets a length for the body that it is about to write, and fails. The error has another
length, but the one that was set stays. -/
theorem serve_errorLength_kept :
    let action : Behaviour Unit := .write (.edit (.header contentLength (.ofText "5"))) fun _ =>
      .fail (.raised "boom")
    let dispatcher : Dispatcher Unit := ⟨[⟨.any, .any, .handler, action⟩], none⟩
    let request : Request := ⟨.get, "/", {}, none, none, .empty, none⟩
    let run := dispatcher.serve request ({} : Recorder) []
    .flagged (.raised "boom") ∈ run.log ∧
      ∃ chain final, run.fate = .gone chain final ∧ chain.response.ended = false ∧
        final.ended = true ∧ final.response.status = 500 ∧
        final.response.body = .ofText "boom" ∧ final.response.body.length = 4 ∧
        final.response.headers.values contentLength = [.ofText "5"] ∧
        ¬ final.response.CarriesLength := by
  intro action dispatcher request run
  refine ⟨mem_of_lastFlag? rfl, _, _, rfl, rfl, rfl, rfl, rfl, ?_, ?_, ?_⟩ <;> decide +kernel

end Dispatcher

end RouteChain
