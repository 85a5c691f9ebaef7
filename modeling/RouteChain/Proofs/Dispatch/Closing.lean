import RouteChain.Dispatch.GiveUp

/-!
# Bringing a request to an end

What a chain does with its writer once it has been given up.

## Main definitions

* `finishes` — the attempts of the chain to end its response, in order, with what came of them.
* `Chain.fallbackDue?` — the fallback, if the request is left to it.
* `Chain.lastLook` — the writer when the chain looks for the last time whether it has been ended.
* `Chain.prepared` — the writer as the chain ends it, if it does.

The main result is `Chain.close_ends`: the chain ends a response that it finds unfinished, once, and
leaves any other as it is.
-/

namespace RouteChain

variable {σ ρ : Type}

/-- Can this happen while a request is brought to an end? -/
def Happening.isClosing : Happening ρ → Bool
  | .told _ | .raised _ | .fellBack _ | .finished _ => true
  | .handedOn _ | .invoked _ | .flagged _ | .givenUp _ => false

def Happening.finished? : Happening ρ → Option (Option WriteError)
  | .finished failure => some failure
  | _ => none

/-- What came of each attempt of the chain to end its response. -/
def finishes (log : List (Happening ρ)) : List (Option WriteError) :=
  log.filterMap Happening.finished?

@[simp] theorem finishes_nil : finishes ([] : List (Happening ρ)) = [] := rfl

@[simp] theorem finishes_raised (event : Event) (log : List (Happening ρ)) :
    finishes (.raised event :: log) = finishes log := rfl

@[simp] theorem finishes_append (log others : List (Happening ρ)) :
    finishes (log ++ others) = finishes log ++ finishes others :=
  List.filterMap_append

variable [ResponseWriter σ]

/-- A fallback does nothing but tell notes, apart from calls on the writer. -/
theorem Answer.mem_log_run (answer : Answer ρ) (response : σ) {happening : Happening ρ}
    (h : happening ∈ (answer.run response).log) : ∃ note, happening = .told note := by
  induction answer generalizing response with
  | write call k ih => exact ih _ _ h
  | tell note k ih =>
    rcases List.mem_cons.mp h with rfl | h
    · exact ⟨note, rfl⟩
    · exact ih _ h
  | done => simp [run] at h
  | panic => simp [run] at h

@[simp] theorem Answer.finishes_run (answer : Answer ρ) (response : σ) :
    finishes (answer.run response).log = [] := by
  refine List.filterMap_eq_nil_iff.mpr fun happening h => ?_
  obtain ⟨note, rfl⟩ := answer.mem_log_run response h
  rfl

/-- The fallback comes back without a panic, whatever it finds. -/
def FallbackReturns (σ : Type) [ResponseWriter σ] (fallback : Option (Fallback ρ)) : Prop :=
  ∀ answer ∈ fallback, ∀ request (response : σ), ((answer request).run response).panicked = false

namespace Chain

/-! ## What can happen -/

@[simp] theorem finishes_finish (chain : Chain σ ρ) :
    finishes chain.finish.log = [(ResponseWriter.finish chain.response).1] := by
  cases h : (ResponseWriter.finish chain.response).1 <;>
    simp [finish, finishes, h, Happening.finished?]

@[simp] theorem response_finish (chain : Chain σ ρ) :
    chain.finish.response = (ResponseWriter.finish chain.response).2 := rfl

@[simp] theorem panicked_finish (chain : Chain σ ρ) : chain.finish.panicked = false := rfl

theorem isClosing_of_mem_finish (chain : Chain σ ρ) {happening : Happening ρ}
    (h : happening ∈ chain.finish.log) : happening.isClosing := by
  cases hf : (ResponseWriter.finish chain.response).1 <;>
    simp only [finish, hf, List.mem_cons, List.not_mem_nil, or_false] at h
  · simp [h, Happening.isClosing]
  · rcases h with rfl | rfl <;> rfl

/-! ## The fallback -/

/-- The fallback, if the request of a chain that is given up is left to it. -/
def fallbackDue? (chain : Chain σ ρ) : Option (Fallback ρ) :=
  if chain.error.isSome || ResponseWriter.isEnded chain.response || chain.matched ||
      ResponseWriter.status chain.response != initialStatus then none
  else chain.fallback

theorem fallbackDue?_of_error {chain : Chain σ ρ} {cause : Cause} (h : chain.error = some cause) :
    chain.fallbackDue? = none := by
  simp [fallbackDue?, h]

/-- The fallback is not due once an entry has matched, whatever has become of the response. -/
theorem fallbackDue?_of_matched {chain : Chain σ ρ} (h : chain.matched = true) :
    chain.fallbackDue? = none := by
  simp [fallbackDue?, h]

/-- A fallback that is due is the one that was registered, and the request has not failed. -/
theorem of_fallbackDue {chain : Chain σ ρ} {fallback : Fallback ρ}
    (due : chain.fallbackDue? = some fallback) :
    chain.fallback = some fallback ∧ chain.error = none := by
  unfold fallbackDue? at due
  split at due
  · cases due
  · exact ⟨due, by simp_all⟩

/-- What comes of the fallback of a chain that is given up. -/
def answered (chain : Chain σ ρ) (fallback : Fallback ρ) : Closing σ ρ :=
  ((fallback chain.request).run chain.response).after [.fellBack chain.request]

theorem isClosing_of_mem_answered (chain : Chain σ ρ) (fallback : Fallback ρ)
    {happening : Happening ρ} (h : happening ∈ (chain.answered fallback).log) :
    happening.isClosing := by
  rcases List.mem_cons.mp h with rfl | h
  · rfl
  · obtain ⟨note, rfl⟩ := Answer.mem_log_run _ _ h
    rfl

@[simp] theorem finishes_answered (chain : Chain σ ρ) (fallback : Fallback ρ) :
    finishes (chain.answered fallback).log = [] :=
  Answer.finishes_run _ _

/-- A request that did not fail is left to the fallback if that is due, and otherwise ended as it is
unless it has been ended. -/
theorem complete_eq (chain : Chain σ ρ) (calm : chain.error = none) :
    chain.complete =
      match chain.fallbackDue? with
      | none =>
        if ResponseWriter.isEnded chain.response then { response := chain.response }
        else chain.finish
      | some fallback =>
        let answered := chain.answered fallback
        if answered.panicked || ResponseWriter.isEnded answered.response then answered
        else { chain with response := answered.response }.finish.after answered.log := by
  unfold complete fallbackDue?
  cases ended : ResponseWriter.isEnded chain.response with
  | true => simp [ended]
  | false =>
    cases handled : (chain.matched || ResponseWriter.status chain.response != initialStatus) with
    | true => grind
    | false => cases hf : chain.fallback <;> grind [answered]

/-! ## The end of the response -/

/-- The writer when the chain looks for the last time whether its response has been ended: after the
fallback, if that is due. -/
def lastLook (chain : Chain σ ρ) : σ :=
  match chain.fallbackDue? with
  | none => chain.response
  | some fallback => (chain.answered fallback).response

/-- The writer as the chain ends it, if it has to. -/
def prepared (chain : Chain σ ρ) : σ :=
  match chain.error with
  | some cause => (chain.edit (errorResponse cause)).response
  | none => chain.lastLook

theorem lastLook_of_error (chain : Chain σ ρ) {cause : Cause} (h : chain.error = some cause) :
    chain.lastLook = chain.response := by
  simp [lastLook, fallbackDue?_of_error h]

/-- A panic while a request is brought to an end is one of the fallback. -/
theorem panicked_close (chain : Chain σ ρ) :
    chain.close.panicked =
      chain.fallbackDue?.any (fun fallback => (chain.answered fallback).panicked) := by
  cases failed : chain.error with
  | some cause =>
    simp only [close, failed, abort, fallbackDue?_of_error failed, Option.any_none]
    split <;> rfl
  | none =>
    simp only [close, failed, complete_eq chain failed]
    cases chain.fallbackDue? with
    | none =>
      dsimp only
      split <;> rfl
    | some fallback =>
      cases hpanicked : (chain.answered fallback).panicked <;>
        cases hended : ResponseWriter.isEnded (chain.answered fallback).response <;>
        simp [hpanicked, hended]

/-- While a request is brought to an end no action is invoked and nothing else is done with the
chain. -/
theorem isClosing_of_mem_close (chain : Chain σ ρ) {happening : Happening ρ}
    (h : happening ∈ chain.close.log) : happening.isClosing := by
  unfold close at h
  cases failed : chain.error with
  | some cause =>
    simp only [failed, abort] at h
    split at h
    · simp only [List.mem_cons, List.not_mem_nil, or_false] at h
      rcases h with rfl | rfl <;> rfl
    · rcases List.mem_cons.mp h with rfl | h
      · rfl
      · exact isClosing_of_mem_finish _ h
  | none =>
    simp only [failed, complete_eq chain failed] at h
    split at h
    · split at h
      · simp at h
      · exact isClosing_of_mem_finish _ h
    · rename_i fallback _
      split at h
      · exact isClosing_of_mem_answered _ fallback h
      · rcases List.mem_append.mp h with h | h
        · exact isClosing_of_mem_answered _ fallback h
        · exact isClosing_of_mem_finish _ h

/-- The fallback is called by a chain that did not fail. -/
theorem error_eq_none_of_fellBack (chain : Chain σ ρ) {request : Request}
    (h : .fellBack request ∈ chain.close.log) : chain.error = none := by
  cases failed : chain.error with
  | none => rfl
  | some cause =>
    simp only [close, failed, abort] at h
    split at h
    · simp at h
    · cases hf : (ResponseWriter.finish (chain.edit (errorResponse cause)).response).1 <;>
        simp [finish, hf] at h

/-- The attempts of a chain to end its response, and the writer that it leaves behind. If the
response has been ended at its last look, or the fallback has panicked, there is none and the writer
is as it was then. Otherwise there is one. -/
theorem close_outcome (chain : Chain σ ρ) :
    (finishes chain.close.log, chain.close.response) =
      if chain.close.panicked || ResponseWriter.isEnded chain.lastLook then ([], chain.lastLook)
      else
        ([(ResponseWriter.finish chain.prepared).1], (ResponseWriter.finish chain.prepared).2) := by
  rw [panicked_close]
  cases failed : chain.error with
  | some cause =>
    rw [lastLook_of_error chain failed]
    cases ended : ResponseWriter.isEnded chain.response <;>
      simp [close, failed, abort, prepared, ended, fallbackDue?_of_error failed]
  | none =>
    simp only [close, failed, complete_eq chain failed, prepared, lastLook]
    cases chain.fallbackDue? with
    | none =>
      cases ended : ResponseWriter.isEnded chain.response <;> simp
    | some fallback =>
      simp only [Option.any_some]
      split <;> simp

theorem close_response (chain : Chain σ ρ) :
    chain.close.response =
      if chain.close.panicked || ResponseWriter.isEnded chain.lastLook then chain.lastLook
      else (ResponseWriter.finish chain.prepared).2 :=
  (congrArg Prod.snd chain.close_outcome).trans (apply_ite Prod.snd _ _ _)

/-- A chain that is given up ends a response that it finds unfinished, once, and leaves any other as
it is. Nothing that goes wrong with that comes to light as a panic. -/
theorem close_ends (chain : Chain σ ρ) (hreturns : FallbackReturns σ chain.fallback) :
    chain.close.panicked = false ∧
    (ResponseWriter.isEnded chain.lastLook = true →
      finishes chain.close.log = [] ∧ chain.close.response = chain.lastLook) ∧
    (ResponseWriter.isEnded chain.lastLook = false →
      finishes chain.close.log = [(ResponseWriter.finish chain.prepared).1] ∧
      chain.close.response = (ResponseWriter.finish chain.prepared).2) := by
  have calm : chain.close.panicked = false := by
    rw [panicked_close, Option.any_eq_false]
    intro fallback due
    simp [answered, hreturns fallback (of_fallbackDue due).1]
  have outcome := chain.close_outcome
  refine ⟨calm, fun ended => ?_, fun unended => ?_⟩
  · simpa [ended] using outcome
  · simpa [calm, unended] using outcome

end Chain

end RouteChain
