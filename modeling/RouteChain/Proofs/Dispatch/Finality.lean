import RouteChain.Proofs.Dispatch.Deeds
import RouteChain.Proofs.Dispatch.Termination

/-!
# Responses that have been ended

A chain looks whether its response has been ended before it brings the request to an end. So a
response that has been ended stays as it is, unless an action changes it in its own name.

## Main definitions

* `Deed.edit?` — a change that an action makes in its own name.

The main result is `Dispatcher.serve_keepsEnded`, which holds of whole runs in which nobody sends an
answer after the end: `send` writes its answer without looking.
-/

namespace RouteChain

variable {σ ρ : Type}

/-! ## Deeds after the end -/

def Deed.edit? : Deed → Option Edit
  | .called (.edit change) => some change
  | _ => none

/-- Deeds other than answers do to a response that has been ended what they ask for in so many
words. -/
theorem Deed.effect_of_ended {recorder : Recorder} (ended : recorder.ended = true)
    {deeds : List Deed} (unsent : ∀ status body, .sent status body ∉ deeds) :
    Deed.effect recorder deeds =
      ⟨(deeds.filterMap Deed.edit?).foldl Response.edit recorder.response, true⟩ := by
  induction deeds generalizing recorder with
  | nil =>
    rw [Deed.effect_nil, ← ended]
    rfl
  | cons deed deeds ih =>
    have hrest (status : Nat) (body : Bytes) : .sent status body ∉ deeds := fun mem =>
      unsent status body (List.mem_cons_of_mem _ mem)
    have hsplit : Deed.effect recorder (deed :: deeds) =
        Deed.effect (Deed.effect recorder [deed]) deeds :=
      Deed.effect_append recorder [deed] deeds
    have quiet (hdeed : Deed.effect recorder [deed] = recorder) (hedit : deed.edit? = none) :
        Deed.effect recorder (deed :: deeds) =
          ⟨((deed :: deeds).filterMap Deed.edit?).foldl Response.edit recorder.response, true⟩ := by
      rw [hsplit, hdeed, ih ended hrest, List.filterMap_cons, hedit]
    cases deed with
    | called call =>
      cases call with
      | edit change =>
        have hedited : (recorder.edit change).ended = true := ended
        exact hsplit.trans (ih hedited hrest)
      | finish =>
        refine quiet ?_ rfl
        simp [Deed.effect, Deed.calls, WriterCall.applyAll, WriterCall.apply,
          ResponseWriter.finish, Recorder.finish, ended]
      | status => exact quiet rfl rfl
      | isEnded => exact quiet rfl rfl
    | sent status body => exact absurd List.mem_cons_self (unsent status body)
    | panicked => exact quiet rfl rfl

/-! ## The end of a chain -/

namespace Chain

variable [ResponseWriter σ]

/-- A chain that finds its response ended when it looks for the last time leaves it as it is, even
if the fallback has panicked. -/
theorem close_of_lastLook (chain : Chain σ ρ) (h : ResponseWriter.isEnded chain.lastLook = true) :
    chain.close.response = chain.lastLook := by
  simp [close_response, h]

/-- A writer on which the chain finds an ended response is left behind as it is. -/
theorem Course.response_eq {start : Chain σ ρ} {run : Run σ ρ} (course : Course start run)
    (ended : ResponseWriter.isEnded run.fate.chain.response = true) :
    run.fate.response = run.fate.chain.response := by
  cases fate : run.fate with
  | gone chain final =>
    rw [fate] at ended
    exact (course.final_eq fate).trans (chain.close_of_isEnded ended).1
  | held slot chain => rfl

end Chain

/-! ## Whole runs -/

namespace Dispatcher

/-- From the moment when a response has been ended, whoever has ended it, it is changed by those
calls only that somebody makes on the writer in his own name, whatever else is done with the chain,
unless an answer is sent after that moment. If the fallback has ended it, or the chain itself, it
stays as they have left it. -/
theorem serve_keepsEnded (dispatcher : Dispatcher ρ) (request : Request) (recorder : Recorder)
    (episodes : List (Episode ρ)) :
    let run := dispatcher.serve request recorder (episodes.map Episode.resumption)
    (∀ before after, dispatcher.deeds request recorder episodes = before ++ after →
      (Deed.effect recorder before).ended = true → (∀ status body, .sent status body ∉ after) →
      run.fate.response =
        ⟨(after.filterMap Deed.edit?).foldl Response.edit (Deed.effect recorder before).response,
          true⟩) ∧
    ∀ chain final, run.fate = .gone chain final →
      (chain.lastLook.ended = true → final = chain.lastLook) ∧
      ∀ others, dispatcher.serve request recorder ((episodes ++ others).map Episode.resumption) =
        run := by
  intro run
  have course := dispatcher.course_serve request recorder (episodes.map Episode.resumption)
  refine ⟨fun before after hdeeds ended unsent => ?_,
    fun chain final fate => ⟨?_, fun others => ?_⟩⟩
  · have hwritten : run.fate.chain.response =
        ⟨(after.filterMap Deed.edit?).foldl Response.edit (Deed.effect recorder before).response,
          true⟩ := by
      rw [(dispatcher.does_serve request recorder episodes).written, hdeeds, Deed.effect_append,
        Deed.effect_of_ended ended unsent]
    rw [← hwritten]
    exact course.response_eq (congrArg Recorder.ended hwritten)
  · intro ended
    exact (course.final_eq fate).trans (chain.close_of_lastLook ended)
  · rw [List.map_append]
    exact dispatcher.serve_append_of_gone request recorder _ _ fate

/-- An action writes a body, ends the response, adds to the body all the same, and fails. -/
theorem serve_keepsEnded_of_fail :
    let action : Behaviour Unit := .write (.edit (.append [104])) fun _ => .write .finish fun _ =>
      .write (.edit (.append [105])) fun _ => .fail (.raised "boom")
    let dispatcher : Dispatcher Unit := ⟨[⟨.any, .any, .handler, action⟩], none⟩
    let request : Request := ⟨.get, "/", {}, none, none, .empty, none⟩
    let before : List Deed := [.called (.edit (.append [104])), .called .finish]
    let after : List Deed := [.called (.edit (.append [105]))]
    dispatcher.deeds request ({} : Recorder) [] = before ++ after ∧
      (Deed.effect ({} : Recorder) before).ended = true ∧
      (∀ status body, .sent status body ∉ after) ∧
      (dispatcher.serve request ({} : Recorder) []).fate.response =
        ⟨(after.filterMap Deed.edit?).foldl Response.edit
          (Deed.effect ({} : Recorder) before).response, true⟩ ∧
      ∃ chain final, (dispatcher.serve request ({} : Recorder) []).fate = .gone chain final ∧
        chain.lastLook.ended = true ∧ final = chain.lastLook := by
  intro action dispatcher request before after
  obtain ⟨keeps, gone⟩ := dispatcher.serve_keepsEnded request {} []
  have hdeeds : dispatcher.deeds request ({} : Recorder) [] = before ++ after := rfl
  have unsent (status : Nat) (body : Bytes) : .sent status body ∉ after := by simp [after]
  obtain ⟨chain, final, fate, ended⟩ : ∃ chain final,
      (dispatcher.serve request ({} : Recorder) []).fate = .gone chain final ∧
      chain.lastLook.ended = true := ⟨_, _, rfl, rfl⟩
  exact ⟨hdeeds, rfl, unsent, keeps before after hdeeds rfl unsent, chain, final, fate, ended,
    (gone chain final fate).1 ended⟩

/-- An action ends its response and then sends an answer. That is no call on the writer, but it
changes the status and adds to the body. -/
theorem serve_send_changes_ended :
    let action : Behaviour Unit := .write (.edit (.status 202)) fun _ =>
      .write (.edit (.append [100, 111, 110, 101])) fun _ => .write .finish fun _ =>
      .send 200 [108, 97, 116, 101]
    let dispatcher : Dispatcher Unit := ⟨[⟨.any, .any, .handler, action⟩], none⟩
    let request : Request := ⟨.get, "/", {}, none, none, .empty, none⟩
    let before : List Deed := [.called (.edit (.status 202)),
      .called (.edit (.append [100, 111, 110, 101])), .called .finish]
    let after : List Deed := [.sent 200 [108, 97, 116, 101]]
    let ended := Deed.effect ({} : Recorder) before
    let final := (dispatcher.serve request ({} : Recorder) []).fate.response
    dispatcher.deeds request ({} : Recorder) [] = before ++ after ∧ ended.ended = true ∧
      after.filterMap Deed.edit? = [] ∧
      ended.response.status = 202 ∧ ended.response.body = [100, 111, 110, 101] ∧
      final.response.status = 200 ∧
      final.response.body = [100, 111, 110, 101, 108, 97, 116, 101] ∧
      final ≠ ⟨(after.filterMap Deed.edit?).foldl Response.edit ended.response, true⟩ := by
  intro action dispatcher request before after ended final
  have hstatus : final.response.status = 200 := rfl
  refine ⟨rfl, rfl, rfl, rfl, rfl, hstatus, rfl, fun heq => ?_⟩
  have := (congrArg (fun recorder => recorder.response.status) heq).symm.trans hstatus
  exact absurd this (by decide)

end Dispatcher

end RouteChain
