import RouteChain.Proofs.Dispatch.Invocation
import RouteChain.Proofs.Dispatch.Termination
import RouteChain.Proofs.Response.Faithful

/-!
# What becomes of a failed request

A request fails when an action says so, or panics while it has the chain. From then on no action and no fallback has a say
in it, and when its chain is given up its response tells the error.

## Main definitions

* `lastFlag?` — the cause that was recorded last.
* `Response.Tells` — a response that tells an error.

The main result is `Dispatcher.serve_failed`, which holds of whole runs.
-/

namespace RouteChain

variable {σ ρ : Type}

/-! ## The cause -/

def Happening.flag? : Happening ρ → Option Cause
  | .flagged cause => some cause
  | _ => none

/-- The cause that was recorded last. -/
def lastFlag? (log : List (Happening ρ)) : Option Cause :=
  (log.filterMap Happening.flag?).getLast?

theorem lastFlag?_append (log others : List (Happening ρ)) :
    lastFlag? (log ++ others) = (lastFlag? others).or (lastFlag? log) := by
  simp [lastFlag?, List.getLast?_append]

theorem lastFlag?_eq_none {log : List (Happening ρ)} (h : ∀ cause, .flagged cause ∉ log) :
    lastFlag? log = none := by
  have : log.filterMap Happening.flag? = [] := by
    refine List.filterMap_eq_nil_iff.mpr fun happening mem => ?_
    cases happening with
    | flagged cause => exact absurd mem (h cause)
    | _ => rfl
  simp [lastFlag?, this]

/-- If a cause has been recorded, there is a last one. -/
theorem exists_lastFlag? {log : List (Happening ρ)} {flag : Cause} (mem : .flagged flag ∈ log) :
    ∃ cause, lastFlag? log = some cause := by
  have hflag : flag ∈ log.filterMap Happening.flag? := List.mem_filterMap.mpr ⟨_, mem, rfl⟩
  exact ⟨_, List.getLast?_eq_some_getLast (List.ne_nil_of_mem hflag)⟩

/-- The last cause is one of those that were recorded. -/
theorem mem_of_lastFlag? {log : List (Happening ρ)} {cause : Cause}
    (h : lastFlag? log = some cause) : .flagged cause ∈ log := by
  obtain ⟨happening, mem, hflag⟩ := List.mem_filterMap.mp (List.mem_of_getLast? h)
  cases happening <;> grind [Happening.flag?]

namespace Chain

variable [ResponseWriter σ] {start chain next left : Chain σ ρ} {log last : List (Happening ρ)}

theorem Step.error_eq (step : Step chain last next) :
    next.error = (lastFlag? last).or chain.error := by
  cases step <;> rfl

/-- The error of a chain is the cause that was recorded last. -/
theorem Steps.error_eq (steps : Steps start log chain) :
    chain.error = (lastFlag? log).or start.error := by
  induction steps with
  | refl => rfl
  | tail _ step ih => rw [step.error_eq, ih, lastFlag?_append, Option.or_assoc]

theorem Stop.error_eq (stop : Stop chain last left) : left.error = chain.error := by
  cases stop <;> rfl

/-- Nothing is recorded any more when a chain is given up. -/
theorem Stop.lastFlag?_eq (stop : Stop chain last left) (log : List (Happening ρ))
    (notes : List ρ) : lastFlag? (log ++ last ++ left.giveUp.log ++ notes.map .told) =
      lastFlag? log := by
  have hlast : ∀ cause, .flagged cause ∉ last := by cases stop <;> simp
  have hclose : ∀ cause, .flagged cause ∉ left.giveUp.log := by
    intro cause mem
    rw [log_giveUp] at mem
    rcases List.mem_cons.mp mem with mem | mem
    · cases mem
    · simpa [Happening.isClosing] using isClosing_of_mem_close left mem
  rw [lastFlag?_append, lastFlag?_append, lastFlag?_append, lastFlag?_eq_none hlast,
    lastFlag?_eq_none hclose, lastFlag?_eq_none (by simp)]
  rfl

/-- A chain that is given up has the error that was recorded last. -/
theorem Course.error_eq {run : Run σ ρ} {final : σ} (course : Course start run)
    (calm : start.error = none) (fate : run.fate = .gone chain final) :
    chain.error = lastFlag? run.log ∧ final = chain.close.response := by
  cases course with
  | held slot _ held => simp [fate] at held
  | gone notes steps stop hlog gone =>
    obtain ⟨rfl, rfl⟩ : chain = _ ∧ final = _ := by simpa [fate] using gone
    rw [hlog, stop.lastFlag?_eq, stop.error_eq, steps.error_eq, calm, Option.or_none]
    exact ⟨rfl, rfl⟩

/-- The fallback of a failed request is not called. -/
theorem Course.fellBack_not_mem {run : Run σ ρ} (course : Course start run)
    (calm : start.error = none) {cause : Cause} (failed : lastFlag? run.log = some cause)
    (request : Request) : .fellBack request ∉ run.log := by
  intro mem
  cases course with
  | held slot steps => simpa [Happening.isEnding] using steps.not_isEnding mem
  | @gone head last inner left notes steps stop hlog fate =>
    rw [hlog] at mem
    simp only [List.mem_append, Chain.log_giveUp, List.mem_cons, List.mem_map, reduceCtorEq, and_false,
      exists_false, or_false, false_or] at mem
    rcases mem with (mem | mem) | mem
    · simpa [Happening.isEnding] using steps.not_isEnding mem
    · simpa [Happening.isEnding] using stop.not_isEnding mem
    · have hnone := error_eq_none_of_fellBack left mem
      rw [hlog, stop.lastFlag?_eq] at failed
      rw [stop.error_eq, steps.error_eq, calm, failed] at hnone
      cases hnone

end Chain

/-! ## The response -/

/-- The response tells an error: it is a plain text with the message of the cause, and apart from
the type of its content it has the header fields that were there earlier. The length is added only
if it was not there. -/
structure Response.Tells (response : Response) (cause : Cause) (earlier : Headers) : Prop where
  status_eq : response.status = 500
  body_eq : response.body = .ofText cause.message
  contentType_eq : response.headers.values contentType = [.ofText "text/plain; charset=utf-8"]
  values_eq : ∀ name, fieldName name ≠ fieldName contentType →
    fieldName name ≠ fieldName contentLength ∨ earlier.contains contentLength →
      response.headers.values name = earlier.values name

/-- The changes with which an error is told discard all that was written to the body before. -/
theorem Response.tells_edits (response : Response) (cause : Cause) :
    ((Chain.errorResponse cause).foldl Response.edit response).Tells cause response.headers where
  status_eq := rfl
  body_eq := rfl
  contentType_eq := response.headers.values_set_self _ _
  values_eq _ other _ := response.headers.values_set_of_ne _ other

/-- A response that tells an error still does so when its length is added. -/
theorem Response.Tells.withLength {response : Response} {cause : Cause} {earlier : Headers}
    (tells : response.Tells cause earlier) : response.withLength.Tells cause earlier := by
  have differ : fieldName contentLength ≠ fieldName contentType := by decide
  unfold Response.withLength
  split
  · exact tells
  · rename_i absent
    refine ⟨tells.status_eq, tells.body_eq, ?_, fun name other kept => ?_⟩
    · exact (response.headers.values_set_of_ne _ differ.symm).trans tells.contentType_eq
    · have hname : fieldName name ≠ fieldName contentLength := by
        refine kept.resolve_right fun there => absent ?_
        rw [Headers.contains_iff] at there ⊢
        rwa [tells.values_eq contentLength differ (.inr (by rwa [Headers.contains_iff]))]
      exact (response.headers.values_set_of_ne _ hname).trans (tells.values_eq name other kept)

/-! ## Whole runs -/

open FaithfulWriter

/-- The error of a chain is told by its response, unless that has been ended before. -/
theorem Chain.close_tells [FaithfulWriter σ] (chain : Chain σ ρ) {cause : Cause}
    (failed : chain.error = some cause)
    (unended : ResponseWriter.isEnded chain.response = false) :
    ∃ writer : σ, ResponseWriter.isEnded writer = false ∧
      chain.close.response = (ResponseWriter.finish writer).2 ∧
      (written writer).Tells cause (written chain.response).headers := by
  refine ⟨(chain.edit (errorResponse cause)).response, ?_, ?_, ?_⟩
  · rw [Chain.edit, isEnded_foldl_edit, unended]
  · simp [close, failed, abort, unended]
  · rw [Chain.edit, written_foldl_edit]
    exact Response.tells_edits _ _

namespace Dispatcher

/-- A panic of an action that had the chain was recorded, unless it came after an error. -/
theorem flagged_of_panicked [ResponseWriter σ] (dispatcher : Dispatcher ρ) (request : Request)
    (response : σ) (resumptions : List (Resumption σ ρ))
    (hreturns : FallbackReturns σ dispatcher.fallback)
    (panicked : (dispatcher.serve request response resumptions).panicked = true) :
    ∃ cause, .flagged cause ∈ (dispatcher.serve request response resumptions).log := by
  have course := dispatcher.course_serve request response resumptions
  have ends := dispatcher.endsOnce_of_fallbackReturns request response resumptions hreturns
  unfold Run.EndsOnce at ends
  cases fate : (dispatcher.serve request response resumptions).fate with
  | held slot chain =>
    cases course with
    | held _ _ _ calm => simp [calm] at panicked
    | gone _ _ _ _ gone => simp [gone] at fate
  | gone chain final =>
    rw [fate] at ends
    obtain ⟨-, -, -, failed⟩ := ends
    obtain ⟨last, hlast⟩ := Option.ne_none_iff_exists'.mp (failed panicked)
    exact ⟨last, mem_of_lastFlag? ((course.error_eq rfl fate).1.symm.trans hlast)⟩

/-- A run with a writer that records what it is called for. A panic of an action that has the chain
is recorded as an error unless there is one. Once an error is recorded no action is invoked, and no
fallback at any time. When the chain is given up, the response tells the error that was recorded
last, unless it had been ended before. -/
theorem serve_failed [FaithfulWriter σ] (dispatcher : Dispatcher ρ) (request : Request)
    (response : σ) (resumptions : List (Resumption σ ρ)) :
    let run := dispatcher.serve request response resumptions
    (FallbackReturns σ dispatcher.fallback → run.panicked = true →
      ∃ cause, .flagged cause ∈ run.log) ∧
    ∀ before cause after, run.log = before ++ .flagged cause :: after →
      (∀ view, .invoked view ∉ after) ∧ (∀ request, .fellBack request ∉ run.log) ∧
      ∀ chain final, run.fate = .gone chain final →
        ∃ last, lastFlag? run.log = some last ∧
          ((∀ other, .flagged other ∈ run.log → other = .panicked) →
            last.message = "request handler panicked") ∧
          (ResponseWriter.isEnded chain.response = true → final = chain.response) ∧
          (ResponseWriter.isEnded chain.response = false →
            ResponseWriter.isEnded final = true ∧
            ∃ writer : σ, ResponseWriter.isEnded writer = false ∧
              final = (ResponseWriter.finish writer).2 ∧
              (written writer).Tells last (written chain.response).headers ∧
              ((ResponseWriter.finish writer).1 = none → ∃ sent, sent? final = some sent ∧
                sent.Tells last (written chain.response).headers)) := by
  intro run
  refine ⟨dispatcher.flagged_of_panicked request response resumptions,
    fun before cause after hlog => ?_⟩
  have course := dispatcher.course_serve request response resumptions
  obtain ⟨last, hlast⟩ : ∃ last, lastFlag? run.log = some last := by
    cases hlast : lastFlag? run.log with
    | some last => exact ⟨last, rfl⟩
    | none => simp [hlog, lastFlag?, Happening.flag?] at hlast
  refine ⟨course.stopped rfl hlog, course.fellBack_not_mem rfl hlast, fun chain final fate => ?_⟩
  obtain ⟨herror, rfl⟩ := course.error_eq rfl fate
  have failed : chain.error = some last := herror.trans hlast
  refine ⟨last, hlast, fun panics => ?_, fun ended => ?_, fun unended => ?_⟩
  · rw [panics last (mem_of_lastFlag? hlast)]
    rfl
  · exact (chain.close_of_isEnded ended).1
  · obtain ⟨writer, hopen, hfinish, tells⟩ := chain.close_tells failed unended
    refine ⟨by rw [hfinish, isEnded_finish], writer, hopen, hfinish, tells, fun success => ?_⟩
    exact ⟨(written writer).withLength, by rw [hfinish, sent?_finish writer hopen success],
      tells.withLength⟩

/-- An action writes a header and some of a body, flags its request as failed and sends an answer
all the same. Another one panics. -/
theorem serve_failed_of_send :
    let request : Request := ⟨.get, "/", {}, none, none, .empty, none⟩
    let sends : Behaviour Unit := .write (.edit (.header "x-trace" [55])) fun _ =>
      .write (.edit (.append [104, 105])) fun _ => .flag (.raised "boom") (.send 200 [111, 107])
    let sender : Dispatcher Unit := ⟨[⟨.any, .any, .handler, sends⟩], none⟩
    let panicker : Dispatcher Unit := ⟨[⟨.any, .any, .handler, .panic⟩], none⟩
    (∃ chain final sent, (sender.serve request ({} : Recorder) []).fate = .gone chain final ∧
      sent? final = some sent ∧ sent.Tells (.raised "boom") ⟨[("x-trace", [55])]⟩) ∧
    FallbackReturns Recorder panicker.fallback ∧
    ∃ cause, .flagged cause ∈ (panicker.serve request ({} : Recorder) []).log := by
  intro request sends sender panicker
  constructor
  · obtain ⟨chain, final, fate, hheaders, hopen⟩ : ∃ chain final,
        (sender.serve request ({} : Recorder) []).fate = .gone chain final ∧
        (written chain.response).headers = ⟨[("x-trace", [55])]⟩ ∧ chain.response.ended = false :=
      ⟨_, _, rfl, rfl, rfl⟩
    obtain ⟨before, after, hlog⟩ : ∃ before after, (sender.serve request ({} : Recorder) []).log =
        before ++ .flagged (.raised "boom") :: after := List.append_of_mem (mem_of_lastFlag? rfl)
    obtain ⟨-, -, told⟩ := (sender.serve_failed request _ _).2 before _ after hlog
    obtain ⟨last, hlast, -, -, ends⟩ := told chain final fate
    obtain rfl : .raised "boom" = last := Option.some.inj hlast
    obtain ⟨-, writer, unended, -, -, sent⟩ := ends hopen
    have success : (ResponseWriter.finish writer).1 = none := by
      have : writer.ended = false := unended
      simp [ResponseWriter.finish, Recorder.finish, this]
    obtain ⟨response, hsent, tells⟩ := sent success
    exact ⟨chain, final, response, fate, hsent, hheaders ▸ tells⟩
  · have hreturns : FallbackReturns Recorder panicker.fallback := by
      simp [FallbackReturns, panicker]
    exact ⟨hreturns, (panicker.serve_failed request _ _).1 hreturns rfl⟩

end Dispatcher

end RouteChain
