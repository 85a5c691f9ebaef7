import RouteChain.Proofs.Dispatch.Closing
import RouteChain.Proofs.Dispatch.Course
import RouteChain.Response.Recorder

/-!
# How a request comes to its end

However the actions part with the chain of a request, the request is brought to its end when the
chain is given up, and at no other time.

## Main definitions

* `Happening.isEnding` — what happens only once a chain is given up.
* `Chain.EndedAs` — what a chain that was given up did with its writer.
* `Run.EndsOnce` — the runs that end their request if they give its chain up, and once only.

The main result is `Dispatcher.serve_endsOnce`, which holds of whole runs.
-/

namespace RouteChain

variable {σ ρ : Type}

/-- Does this happen only once a chain is given up? -/
def Happening.isEnding : Happening ρ → Bool
  | .givenUp _ | .fellBack _ | .finished _ => true
  | .handedOn _ | .invoked _ | .flagged _ | .told _ | .raised _ => false

variable [ResponseWriter σ]

namespace Chain

variable {start chain next left : Chain σ ρ} {log last : List (Happening ρ)}

/-! ## What leaves a request open -/

/-- No step of a request belongs to its end. -/
theorem Step.not_isEnding (step : Step chain log next) {happening : Happening ρ}
    (h : happening ∈ log) : happening.isEnding = false := by
  cases step with
  | write | edit => simp at h
  | flag | tell => grind [Happening.isEnding]
  | enter count entry params =>
    simp only [invocation, List.mem_cons, List.not_mem_nil, or_false] at h
    rcases h with rfl | rfl | rfl <;> rfl

theorem Steps.not_isEnding (steps : Steps start log chain) {happening : Happening ρ}
    (h : happening ∈ log) : happening.isEnding = false := by
  induction steps with
  | refl => simp at h
  | tail _ step ih =>
    rcases List.mem_append.mp h with mem | mem
    · exact ih mem
    · exact step.not_isEnding mem

theorem Stop.not_isEnding (stop : Stop chain last left) {happening : Happening ρ}
    (h : happening ∈ last) : happening.isEnding = false := by
  cases stop with
  | here => simp at h
  | passed => grind [Happening.isEnding]

/-- The steps of a request leave its fallback alone. -/
theorem Steps.fallback_eq (steps : Steps start log chain) : chain.fallback = start.fallback := by
  induction steps with
  | refl => rfl
  | tail _ step ih => cases step <;> exact ih

theorem Stop.fallback_eq (stop : Stop chain last left) : left.fallback = chain.fallback := by
  cases stop <;> rfl

/-! ## The end of a request -/

/-- What a chain that was given up did with its writer, which it left behind like this. Its last
look whether the response had been ended came after the fallback. A response that it found
unfinished it ended, once and whatever came of that, and any other it left alone. -/
structure EndedAs (chain : Chain σ ρ) (closing : Closing σ ρ) : Prop where
  isClosing : ∀ happening ∈ closing.log, happening.isClosing
  calm : closing.panicked = false
  untouched : ResponseWriter.isEnded chain.response = true →
    closing.response = chain.response ∧ ∀ request, .fellBack request ∉ closing.log
  found : ResponseWriter.isEnded chain.lastLook = true →
    finishes closing.log = [] ∧ closing.response = chain.lastLook
  finished : ResponseWriter.isEnded chain.lastLook = false →
    finishes closing.log = [(ResponseWriter.finish chain.prepared).1] ∧
      closing.response = (ResponseWriter.finish chain.prepared).2

/-- A chain that finds its response ended does not touch it. -/
theorem close_of_isEnded (chain : Chain σ ρ) (h : ResponseWriter.isEnded chain.response = true) :
    chain.close.response = chain.response ∧ ∀ request, .fellBack request ∉ chain.close.log := by
  unfold close
  cases chain.error <;> simp [abort, complete, h]

theorem endedAs_close (chain : Chain σ ρ) (hreturns : FallbackReturns σ chain.fallback) :
    chain.EndedAs chain.close := by
  obtain ⟨calm, found, finished⟩ := chain.close_ends hreturns
  exact ⟨fun _ => chain.isClosing_of_mem_close, calm, chain.close_of_isEnded, found, finished⟩

end Chain

/-! ## Whole runs -/

/-- The run ends its request if it gives the chain up, and once only. As long as somebody keeps the
chain nothing is done to end the request. When the chain is given up the request is brought to its
end there and then, and afterwards nothing happens but notes that actions tell without their chains.
A panic of whoever had the chain goes on from there only if the request has failed. -/
def Run.EndsOnce (run : Run σ ρ) : Prop :=
  match run.fate with
  | .held _ _ => ∀ happening ∈ run.log, happening.isEnding = false
  | .gone chain response =>
      (∃ (before : List (Happening ρ)) (notes : List ρ),
        run.log = before ++ .givenUp chain.error :: chain.close.log ++ notes.map .told ∧
        ∀ happening ∈ before, happening.isEnding = false) ∧
      chain.EndedAs chain.close ∧ response = chain.close.response ∧
      (run.panicked = true → chain.error ≠ none)

/-- Where every attempt to end a response leaves it ended, it is ended once the chain is gone. -/
theorem Run.EndsOnce.isEnded {run : Run σ ρ} (h : run.EndsOnce)
    (hends : ∀ writer : σ, ResponseWriter.isEnded (ResponseWriter.finish writer).2 = true)
    {chain : Chain σ ρ} {response : σ} (fate : run.fate = .gone chain response) :
    ResponseWriter.isEnded response = true := by
  simp only [EndsOnce, fate] at h
  obtain ⟨-, ended, rfl, -⟩ := h
  cases look : ResponseWriter.isEnded chain.lastLook with
  | true => rw [(ended.found look).2, look]
  | false => rw [(ended.finished look).2, hends]

namespace Dispatcher

/-- A run that has given its chain up is over: there is nothing left that could be resumed. -/
theorem serve_append_of_gone (dispatcher : Dispatcher ρ) (request : Request) (response : σ)
    (resumptions others : List (Resumption σ ρ)) {chain : Chain σ ρ} {final : σ}
    (fate : (dispatcher.serve request response resumptions).fate = .gone chain final) :
    dispatcher.serve request response (resumptions ++ others) =
      dispatcher.serve request response resumptions := by
  rw [serve, List.foldl_append, ← serve]
  exact Run.foldl_goOn_of_gone fate others

theorem endsOnce_of_fallbackReturns (dispatcher : Dispatcher ρ) (request : Request) (response : σ)
    (resumptions : List (Resumption σ ρ)) (hreturns : FallbackReturns σ dispatcher.fallback) :
    (dispatcher.serve request response resumptions).EndsOnce := by
  unfold Run.EndsOnce
  cases dispatcher.course_serve request response resumptions with
  | held slot steps fate =>
    rw [fate]
    exact fun happening => steps.not_isEnding
  | @gone log last chain left notes steps stop hlog fate why =>
    have ended : left.EndedAs left.close := by
      refine left.endedAs_close ?_
      rw [stop.fallback_eq, steps.fallback_eq]
      exact hreturns
    rw [fate]
    refine ⟨⟨log ++ last, notes, ?_, fun happening mem => ?_⟩, ended, rfl, fun panicked => ?_⟩
    · simp [hlog, Chain.log_giveUp]
    · rcases List.mem_append.mp mem with mem | mem
      · exact steps.not_isEnding mem
      · exact stop.not_isEnding mem
    · rcases why panicked with failed | closing
      · exact failed
      · simp [ended.calm] at closing

/-- With a fallback that comes back, every run ends its request if it gives the chain up, and once
only, whatever the writer is like and whatever the actions do. After that nothing can be done any
more. In particular a recorder has its response ended once the chain is gone. -/
theorem serve_endsOnce (dispatcher : Dispatcher ρ) (request : Request) :
    (∀ (σ : Type) [ResponseWriter σ] (response : σ) (resumptions : List (Resumption σ ρ)),
      FallbackReturns σ dispatcher.fallback →
      (dispatcher.serve request response resumptions).EndsOnce ∧
      ∀ chain final others,
        (dispatcher.serve request response resumptions).fate = .gone chain final →
        dispatcher.serve request response (resumptions ++ others) =
          dispatcher.serve request response resumptions) ∧
    (∀ (recorder : Recorder) (resumptions : List (Resumption Recorder ρ)),
      FallbackReturns Recorder dispatcher.fallback → ∀ chain final,
      (dispatcher.serve request recorder resumptions).fate = .gone chain final →
      final.ended = true) := by
  constructor
  · intro σ _ response resumptions hreturns
    exact ⟨dispatcher.endsOnce_of_fallbackReturns request response resumptions hreturns,
      fun _ _ others => dispatcher.serve_append_of_gone request response resumptions others⟩
  · intro recorder resumptions hreturns chain final fate
    exact (dispatcher.endsOnce_of_fallbackReturns request recorder resumptions hreturns).isEnded
      Recorder.ended_finish fate

/-- An action puts its chain by, whoever keeps it writes a body and drops the chain, and the
fallback is not asked. -/
theorem serve_endsOnce_of_held :
    let dispatcher : Dispatcher Unit :=
      ⟨[⟨.any, .any, .handler, .hold 0⟩], some fun _ => .tell () .done⟩
    let run := dispatcher.serve ⟨.get, "/", {}, none, none, .empty, none⟩ ({} : Recorder)
      [⟨id, .write (.edit (.append [104, 105])) fun _ => .drop⟩]
    FallbackReturns Recorder dispatcher.fallback ∧ run.EndsOnce ∧
      ∃ chain final, run.fate = .gone chain final ∧ final.ended = true := by
  intro dispatcher run
  have hreturns : FallbackReturns Recorder dispatcher.fallback := by
    intro answer mem request recorder
    obtain rfl : (fun _ => .tell () .done) = answer := by simpa [dispatcher] using mem
    rfl
  obtain ⟨hrun, hrecorder⟩ := dispatcher.serve_endsOnce ⟨.get, "/", {}, none, none, .empty, none⟩
  obtain ⟨chain, final, fate⟩ : ∃ chain final, run.fate = .gone chain final := ⟨_, _, rfl⟩
  exact ⟨hreturns, (hrun Recorder _ _ hreturns).1, chain, final, fate,
    hrecorder _ _ hreturns chain final fate⟩

end Dispatcher

end RouteChain
