import Mathlib.Data.List.Basic
import RouteChain.Proofs.Dispatch.ErrorLength
import RouteChain.Proofs.Response.Transcript

/-!
# Deliveries beside recorders

A recorder keeps its response where everybody can see it, and a delivery keeps it back for one
receiver. Whoever makes calls on one of them cannot tell which it is, as long as the receiver of the
delivery is there.

## Main definitions

* `Delivery.Mirrors` — a delivery and a recorder on which the same calls have been made.
* `WriterCall.SetsLength` — a call that sets the length of the response.

The main result is `Delivery.replies_like_recorder`: calls on a delivery reply as they do on a
recorder, and what the receiver gets is what the recorder holds right after the first attempt to end
the response.
-/

namespace RouteChain

/-- A delivery and a recorder on which the same calls have been made. They hold the same response
until it is ended. What becomes of it in the delivery after that is seen by nobody, the status
apart. -/
structure Delivery.Mirrors (delivery : Delivery) (recorder : Recorder) : Prop where
  ended_eq : delivery.ended = recorder.ended
  status_eq : delivery.response.status = recorder.response.status
  response_eq : recorder.ended = false → delivery.response = recorder.response

def WriterCall.SetsLength (call : WriterCall) : Prop :=
  ∃ name value, call = .edit (.header name value) ∧ fieldName name = fieldName contentLength

/-! ## Changes -/

namespace Response

@[simp] theorem status_withLength (response : Response) :
    response.withLength.status = response.status := by
  unfold withLength
  split <;> rfl

/-- The status after a change depends on the status before, and on nothing else. -/
theorem status_edit_congr {response other : Response} (h : response.status = other.status)
    (change : Edit) : (response.edit change).status = (other.edit change).status := by
  cases change with
  | status => rfl
  | header | append | clear => exact h

/-- A response that is sent has a length. -/
theorem contains_withLength (response : Response) :
    response.withLength.headers.contains contentLength = true := by
  unfold withLength
  split
  · assumption
  · rw [Headers.contains_iff]
    exact (response.headers.values_set_self contentLength _).trans_ne (List.cons_ne_nil _ _)

end Response

/-- Every call gets one reply. -/
theorem WriterCall.length_applyAll {σ : Type} [ResponseWriter σ] (writer : σ)
    (calls : List WriterCall) : (applyAll writer calls).1.length = calls.length := by
  induction calls generalizing writer with
  | nil => rfl
  | cons call calls ih => exact congrArg (· + 1) (ih (call.apply writer).2)

/-! ## One call -/

namespace Delivery

variable {delivery : Delivery} {recorder : Recorder}

/-- A call leaves the delivery open or ended as it was, and its receiver alone, unless it is an
attempt to end the response. -/
theorem quiet_apply (delivery : Delivery) {call : WriterCall} (h : call ≠ .finish) :
    (call.apply delivery).2.ended = delivery.ended ∧
      (call.apply delivery).2.mailbox = delivery.mailbox :=
  delivery.applyAll_quiet [call] (.inr (by simpa using h.symm))

namespace Mirrors

theorem new : Mirrors {} {} :=
  ⟨rfl, rfl, fun _ => rfl⟩

theorem leave (mirrors : delivery.Mirrors recorder) : delivery.leave.Mirrors recorder :=
  ⟨mirrors.ended_eq, mirrors.status_eq, mirrors.response_eq⟩

/-- Every call is mirrored. -/
theorem apply (mirrors : delivery.Mirrors recorder) (call : WriterCall) :
    (call.apply delivery).2.Mirrors (call.apply recorder).2 := by
  cases call with
  | edit change =>
    exact ⟨mirrors.ended_eq, Response.status_edit_congr mirrors.status_eq change,
      fun unended => congrArg (Response.edit · change) (mirrors.response_eq unended)⟩
  | finish =>
    have hended : (WriterCall.finish.apply recorder).2.ended = true := recorder.ended_finish
    refine ⟨delivery.ended_finish.trans hended.symm, ?_, fun unended => ?_⟩
    · have hdelivery : delivery.finish.2.response = delivery.response := by
        unfold finish
        split
        · rfl
        · split <;> rfl
      have hrecorder : recorder.finish.2.response.status = recorder.response.status := by
        unfold Recorder.finish
        split
        · rfl
        · exact Response.status_withLength _
      calc delivery.finish.2.response.status
          = delivery.response.status := by rw [hdelivery]
        _ = recorder.response.status := mirrors.status_eq
        _ = recorder.finish.2.response.status := hrecorder.symm
    · exact absurd (hended.symm.trans unended) (by decide)
  | status | isEnded => exact mirrors

/-- A call replies alike on both, unless it is an attempt to end the response. -/
theorem reply_of_ne (mirrors : delivery.Mirrors recorder) {call : WriterCall}
    (h : call ≠ .finish) : (call.apply delivery).1 = (call.apply recorder).1 := by
  cases call with
  | finish => contradiction
  | edit change => rfl
  | status => exact congrArg Reply.status mirrors.status_eq
  | isEnded => exact congrArg Reply.isEnded mirrors.ended_eq

/-- An attempt to end the response comes to the same on both, if the response has been ended before
or the receiver is there. -/
theorem reply_of_there (mirrors : delivery.Mirrors recorder)
    (there : delivery.ended = true ∨ delivery.mailbox ≠ .gone) (call : WriterCall) :
    (call.apply delivery).1 = (call.apply recorder).1 := by
  by_cases h : call = .finish
  · subst h
    have hfailure : delivery.finish.1 = recorder.finish.1 := by
      cases hrecorder : recorder.ended with
      | true => simp [finish, Recorder.finish, mirrors.ended_eq, hrecorder]
      | false =>
        have unended : delivery.ended = false := mirrors.ended_eq.trans hrecorder
        cases hmailbox : delivery.mailbox <;>
          simp_all [finish, Recorder.finish]
    exact congrArg Reply.finished hfailure
  · exact mirrors.reply_of_ne h

end Mirrors

/-! ## Calls in order -/

/-- If the response has been ended or the receiver is there, that stays so. -/
theorem there_apply (delivery : Delivery)
    (there : delivery.ended = true ∨ delivery.mailbox ≠ .gone) (call : WriterCall) :
    (call.apply delivery).2.ended = true ∨ (call.apply delivery).2.mailbox ≠ .gone := by
  by_cases h : call = .finish
  · subst h
    exact .inl delivery.ended_finish
  · obtain ⟨hended, hmailbox⟩ := delivery.quiet_apply h
    rwa [hended, hmailbox]

namespace Mirrors

theorem applyAll (mirrors : delivery.Mirrors recorder) (calls : List WriterCall) :
    (WriterCall.applyAll delivery calls).2.Mirrors (WriterCall.applyAll recorder calls).2 := by
  induction calls generalizing delivery recorder with
  | nil => exact mirrors
  | cons call calls ih => exact ih (mirrors.apply call)

/-- All calls reply alike on both as long as the receiver is there, and once the response has been
ended. -/
theorem replies_of_there (mirrors : delivery.Mirrors recorder)
    (there : delivery.ended = true ∨ delivery.mailbox ≠ .gone) (calls : List WriterCall) :
    (WriterCall.applyAll delivery calls).1 = (WriterCall.applyAll recorder calls).1 := by
  induction calls generalizing delivery recorder with
  | nil => rfl
  | cons call calls ih =>
    exact congrArg₂ List.cons (mirrors.reply_of_there there call)
      (ih (mirrors.apply call) (delivery.there_apply there call))

/-- When the receiver has left before the response is ended, the first attempt to end it fails, and
all other calls reply alike on both. -/
theorem replies_of_gone (mirrors : delivery.Mirrors recorder) (unended : delivery.ended = false)
    (gone : delivery.mailbox = .gone) (calls : List WriterCall) :
    (WriterCall.applyAll delivery calls).1 =
      (WriterCall.applyAll recorder calls).1.set (calls.idxOf .finish)
        (.finished (some .closed)) := by
  induction calls generalizing delivery recorder with
  | nil => rfl
  | cons call calls ih =>
    by_cases h : call = .finish
    · subst h
      have hreply : (WriterCall.finish.apply delivery).1 = .finished (some .closed) := by
        simp [WriterCall.apply, ResponseWriter.finish, finish, unended, gone]
      have hrest := (mirrors.apply .finish).replies_of_there (.inl delivery.ended_finish) calls
      rw [List.idxOf_cons_self]
      exact congrArg₂ List.cons hreply hrest
    · obtain ⟨hended, hmailbox⟩ := delivery.quiet_apply h
      have hrest := ih (mirrors.apply call) (hended.trans unended) (hmailbox.trans gone)
      rw [List.idxOf_cons_ne calls h]
      exact congrArg₂ List.cons (mirrors.reply_of_ne h) hrest

/-- The receiver leaves between some calls and some later ones. -/
theorem replies_of_leave (early later : List WriterCall) :
    let left := (WriterCall.applyAll ({} : Delivery) early).2.leave
    (WriterCall.applyAll ({} : Delivery) early).1 ++ (WriterCall.applyAll left later).1 =
      if .finish ∈ early then (WriterCall.applyAll ({} : Recorder) (early ++ later)).1
      else (WriterCall.applyAll ({} : Recorder) (early ++ later)).1.set
        ((early ++ later).idxOf .finish) (.finished (some .closed)) := by
  intro left
  have hearly := new.replies_of_there (.inr (by simp)) early
  have mirrors := (new.applyAll early).leave
  rw [hearly, WriterCall.applyAll_append]
  split
  · rename_i ends
    obtain ⟨first, hfirst⟩ := exists_beforeEnd ends
    have hended : left.ended = true := (Transcript.delivered hfirst).1
    rw [mirrors.replies_of_there (.inl hended)]
  · rename_i unended
    have hopen : left.ended = false := (applyAll_quiet {} early (.inr unended)).1
    rw [mirrors.replies_of_gone hopen rfl, List.idxOf_append_of_notMem unended,
      ← WriterCall.length_applyAll ({} : Recorder) early, List.set_append_right _ _ (by simp),
      Nat.add_sub_cancel_left]

end Mirrors

end Delivery

/-! ## The length -/

/-- As long as nobody sets the length of a response or ends it, the length is what it was. -/
theorem Recorder.values_applyAll (recorder : Recorder) {calls : List WriterCall}
    (unended : .finish ∉ calls) (h : ∀ call ∈ calls, ¬ call.SetsLength) :
    (WriterCall.applyAll recorder calls).2.response.headers.values contentLength =
      recorder.response.headers.values contentLength := by
  induction calls generalizing recorder with
  | nil => rfl
  | cons call calls ih =>
    have hrest := ih (call.apply recorder).2 (fun mem => unended (List.mem_cons_of_mem _ mem))
      fun other mem => h other (List.mem_cons_of_mem _ mem)
    refine Eq.trans hrest ?_
    cases call with
    | finish => simp at unended
    | status | isEnded => rfl
    | edit change =>
      cases change with
      | header name value =>
        refine recorder.response.headers.values_set_of_ne value fun hname => ?_
        exact h _ List.mem_cons_self ⟨name, value, rfl, hname.symm⟩
      | status | append | clear => rfl

/-- As long as nobody ends its response a recorder is open. -/
theorem Recorder.ended_applyAll {calls : List WriterCall} (unended : .finish ∉ calls) :
    (WriterCall.applyAll ({} : Recorder) calls).2.ended = false := by
  rw [← (Delivery.Mirrors.new.applyAll calls).ended_eq]
  exact (Delivery.applyAll_quiet {} calls (.inr unended)).1

/-- What a recorder holds right after the first attempt to end its response. -/
def Recorder.atEnd (early : List WriterCall) : Recorder :=
  (WriterCall.applyAll ({} : Recorder) (early ++ [.finish])).2

theorem Recorder.atEnd_eq {early : List WriterCall} (unended : .finish ∉ early) :
    Recorder.atEnd early =
      ⟨(WriterCall.applyAll ({} : Recorder) early).2.response.withLength, true⟩ := by
  simp [atEnd, WriterCall.applyAll_append, WriterCall.applyAll, WriterCall.apply,
    ResponseWriter.finish, Recorder.finish, ended_applyAll unended]

/-! ## Both writers -/

/-- Whatever calls are made on them in whatever order, a new delivery whose receiver is there
replies as a new recorder does. Its receiver finds nothing until the first attempt to end the
response, and then the response that the recorder holds right after that. This has a length among
its header fields, and if no call has set one that is the length of its body. If the receiver leaves
before that attempt then the attempt fails, and all other replies are the same still. -/
theorem Delivery.replies_like_recorder (calls : List WriterCall) :
    let recorded := WriterCall.applyAll ({} : Recorder) calls
    let delivered := WriterCall.applyAll ({} : Delivery) calls
    delivered.1 = recorded.1 ∧
    (.finish ∉ calls → delivered.2.receive.1 = .empty) ∧
    (∀ early, BeforeEnd calls early →
      (Recorder.atEnd early).ended = true ∧
      delivered.2.receive.1 = .response (Recorder.atEnd early).response ∧
      (Recorder.atEnd early).response.headers.contains contentLength = true ∧
      ((∀ call ∈ early, ¬ call.SetsLength) → (Recorder.atEnd early).response.CarriesLength)) ∧
    ∀ early later, calls = early ++ later →
      let left := (WriterCall.applyAll ({} : Delivery) early).2.leave
      (WriterCall.applyAll ({} : Delivery) early).1 ++ (WriterCall.applyAll left later).1 =
        if .finish ∈ early then recorded.1
        else recorded.1.set (calls.idxOf .finish) (.finished (some .closed)) := by
  intro recorded delivered
  refine ⟨Mirrors.new.replies_of_there (.inr (by simp)) calls, fun unended => ?_,
    fun early hearly => ?_, fun early later hcalls => ?_⟩
  · have hmailbox := (applyAll_quiet {} calls (.inr unended)).2
    simp only [delivered, receive, hmailbox]
  · have unended := hearly.1
    have hresponse : (WriterCall.applyAll ({} : Delivery) early).2.response =
        (WriterCall.applyAll ({} : Recorder) early).2.response :=
      (Mirrors.new.applyAll early).response_eq (Recorder.ended_applyAll unended)
    have hmailbox : delivered.2.mailbox =
        .full (WriterCall.applyAll ({} : Delivery) early).2.response.withLength :=
      (Transcript.delivered hearly).2
    rw [Recorder.atEnd_eq unended]
    refine ⟨rfl, ?_, Response.contains_withLength _, fun unset => ?_⟩
    · simp only [receive, hmailbox, hresponse]
    · have absent := Recorder.values_applyAll {} unended unset
      exact (Response.carriesLength_withLength _).mpr (.inl absent)
  · subst hcalls
    exact Mirrors.replies_of_leave early later

/-- What is written after the end is in the response of a recorder, and never comes to the receiver
of a delivery. The calls reply alike all the same. -/
theorem Delivery.replies_like_recorder_of_late_edit :
    let early : List WriterCall := [.edit (.append [104, 105])]
    let calls : List WriterCall := early ++ [.finish, .edit (.append [33]), .finish, .isEnded]
    let recorded := WriterCall.applyAll ({} : Recorder) calls
    let delivered := WriterCall.applyAll ({} : Delivery) calls
    BeforeEnd calls early ∧ (∀ call ∈ early, ¬ call.SetsLength) ∧
      delivered.1 = recorded.1 ∧ recorded.2.response.body = [104, 105, 33] ∧
      ∃ response, delivered.2.receive.1 = .response response ∧ response.body = [104, 105] ∧
        response.CarriesLength := by
  intro early calls recorded delivered
  have hearly : BeforeEnd calls early := ⟨by decide, _, rfl⟩
  have unset : ∀ call ∈ early, ¬ call.SetsLength := by
    simp [early, WriterCall.SetsLength]
  obtain ⟨hreplies, -, ended, -⟩ := replies_like_recorder calls
  obtain ⟨-, hreceived, -, carries⟩ := ended early hearly
  exact ⟨hearly, unset, hreplies, rfl, _, hreceived, rfl, carries unset⟩

end RouteChain
