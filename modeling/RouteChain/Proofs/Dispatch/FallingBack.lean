import RouteChain.Proofs.Response.Faithful
import RouteChain.Proofs.Response.Transcript

/-!
# Requests that are left to the fallback

A request that no entry accepts goes past all entries at once, and its chain is given up as it came
in. Any other request is matched from its first entry on, whatever is done with its chain later. The
fallback has to do with requests of the first kind only.

## Main definitions

* `fallbackCalls` — the requests with which the fallback is called, in order.
* `Dispatcher.Refuses` — no entry accepts the request.

The main result is `Dispatcher.serve_fallsBack`, which holds of whole runs.
-/

namespace RouteChain

variable {σ ρ : Type}

/-! ## Calls of the fallback -/

def Happening.fellBack? : Happening ρ → Option Request
  | .fellBack request => some request
  | _ => none

def fallbackCalls (log : List (Happening ρ)) : List Request :=
  log.filterMap Happening.fellBack?

@[simp] theorem fallbackCalls_append (log others : List (Happening ρ)) :
    fallbackCalls (log ++ others) = fallbackCalls log ++ fallbackCalls others :=
  List.filterMap_append

theorem mem_fallbackCalls {log : List (Happening ρ)} {request : Request} :
    request ∈ fallbackCalls log ↔ .fellBack request ∈ log := by
  rw [fallbackCalls, List.mem_filterMap]
  constructor
  · rintro ⟨happening, mem, hfellBack⟩
    cases happening <;> simp_all [Happening.fellBack?]
  · exact fun mem => ⟨_, mem, rfl⟩

/-- The fallback is called only once a chain is given up. -/
theorem fallbackCalls_eq_nil {log : List (Happening ρ)}
    (h : ∀ happening ∈ log, happening.isEnding = false) : fallbackCalls log = [] := by
  refine List.filterMap_eq_nil_iff.mpr fun happening mem => ?_
  have := h happening mem
  cases happening <;> simp_all [Happening.isEnding, Happening.fellBack?]

@[simp] theorem fallbackCalls_notes (notes : List ρ) :
    fallbackCalls (notes.map Happening.told) = [] :=
  fallbackCalls_eq_nil (by simp [Happening.isEnding])

section Closing

variable [ResponseWriter σ]

@[simp] theorem Answer.fallbackCalls_run (answer : Answer ρ) (response : σ) :
    fallbackCalls (answer.run response).log = [] := by
  refine fallbackCalls_eq_nil fun happening mem => ?_
  obtain ⟨note, rfl⟩ := answer.mem_log_run response mem
  rfl

namespace Chain

@[simp] theorem fallbackCalls_finish (chain : Chain σ ρ) : fallbackCalls chain.finish.log = [] := by
  cases h : (ResponseWriter.finish chain.response).1 <;>
    simp [finish, h, fallbackCalls, Happening.fellBack?]

@[simp] theorem fallbackCalls_answered (chain : Chain σ ρ) (fallback : Fallback ρ) :
    fallbackCalls (chain.answered fallback).log = [chain.request] :=
  congrArg (List.cons chain.request) (Answer.fallbackCalls_run _ _)

/-- A chain that is given up calls the fallback if that is due, with its request, and once. -/
theorem fallbackCalls_close (chain : Chain σ ρ) :
    fallbackCalls chain.close.log = if chain.fallbackDue?.isSome then [chain.request] else [] := by
  cases failed : chain.error with
  | some cause =>
    have hdue : chain.fallbackDue? = none := by simp [fallbackDue?, failed]
    simp only [close, failed, abort, hdue]
    split
    · rfl
    · exact fallbackCalls_finish (chain.edit (errorResponse cause))
  | none =>
    simp only [close, failed, complete_eq chain failed]
    cases chain.fallbackDue? with
    | none =>
      dsimp only
      split
      · rfl
      · exact fallbackCalls_finish chain
    | some fallback =>
      dsimp only
      split
      · exact fallbackCalls_answered chain fallback
      · simp

/-- A response that the fallback leaves unended is ended as the fallback has left it. -/
theorem close_of_fallbackDue {chain : Chain σ ρ} {fallback : Fallback ρ}
    (due : chain.fallbackDue? = some fallback)
    (returned : (chain.answered fallback).panicked = false)
    (unended : ResponseWriter.isEnded (chain.answered fallback).response = false) :
    chain.close.response = (ResponseWriter.finish (chain.answered fallback).response).2 := by
  simp [close_response, panicked_close, prepared, lastLook, due, (of_fallbackDue due).2, returned,
    unended]

end Chain

end Closing

/-- Once a chain is given up its response is ended, unless the fallback panics before it is. -/
theorem Chain.isEnded_close [FaithfulWriter σ] (chain : Chain σ ρ)
    (spared : ∀ fallback, chain.fallbackDue? = some fallback →
      (chain.answered fallback).panicked = true →
        ResponseWriter.isEnded (chain.answered fallback).response = true) :
    ResponseWriter.isEnded chain.close.response = true := by
  rw [close_response]
  split
  · rename_i h
    rcases Bool.or_eq_true_iff.mp h with panicked | ended
    · rw [panicked_close, Option.any_eq_true] at panicked
      obtain ⟨fallback, due, panicked⟩ := panicked
      simpa [lastLook, due] using spared fallback due panicked
    · exact ended
  · exact FaithfulWriter.isEnded_finish _

/-! ## Matched chains -/

namespace Chain

variable [ResponseWriter σ] {start chain left : Chain σ ρ} {log last : List (Happening ρ)}

/-- Once an entry has matched, the chain stays matched. -/
theorem Steps.matched_eq (steps : Steps start log chain) (matched : start.matched = true) :
    chain.matched = true := by
  induction steps with
  | refl => exact matched
  | tail _ step ih =>
    cases step with
    | enter => rfl
    | _ => exact ih

theorem Stop.matched_eq (stop : Stop chain last left) : left.matched = chain.matched := by
  cases stop <;> rfl

theorem Course.matched_eq {run : Run σ ρ} {final : σ} (course : Course start run)
    (matched : start.matched = true) (fate : run.fate = .gone chain final) :
    chain.matched = true := by
  cases course with
  | held slot _ held => simp [fate] at held
  | gone notes steps stop hlog gone =>
    obtain ⟨rfl, rfl⟩ : chain = _ ∧ final = _ := by simpa [fate] using gone
    exact stop.matched_eq.trans (steps.matched_eq matched)

/-- On the course of a chain that is matched the fallback is never called. -/
theorem Course.fallbackCalls_eq {run : Run σ ρ} (course : Course start run)
    (matched : start.matched = true) : fallbackCalls run.log = [] := by
  cases course with
  | held slot steps => exact fallbackCalls_eq_nil fun _ => steps.not_isEnding
  | @gone log last chain left notes steps stop hlog =>
    have hleft : left.matched = true := stop.matched_eq.trans (steps.matched_eq matched)
    have hclose : fallbackCalls left.giveUp.log = [] := by
      rw [log_giveUp]
      exact (fallbackCalls_close left).trans (by simp [fallbackDue?_of_matched hleft])
    rw [hlog, fallbackCalls_append, fallbackCalls_append, fallbackCalls_append, hclose,
      fallbackCalls_notes, fallbackCalls_eq_nil fun _ => steps.not_isEnding,
      fallbackCalls_eq_nil fun _ => stop.not_isEnding]
    rfl

end Chain

/-! ## The first entry -/

namespace Chain

/-- The chain past one entry and some more. -/
theorem past_skip (chain : Chain σ ρ) (count : Nat) :
    chain.skip.past count = chain.past (count + 1) := by
  simp [past, skip, Nat.add_comm, Nat.add_left_comm]

variable [ResponseWriter σ]

/-- A chain that no entry accepts goes past all entries and is given up. -/
theorem advance_of_misses (ahead : List (RouteEntry ρ)) (chain : Chain σ ρ)
    (calm : chain.error = none)
    (hmiss : ∀ entry ∈ ahead, entry.fit chain.request.method chain.request.path = .misses) :
    advance ahead chain = (chain.past ahead.length).giveUp := by
  induction ahead generalizing chain with
  | nil => rfl
  | cons entry ahead ih =>
    have hfit := hmiss entry List.mem_cons_self
    have hrest := ih chain.skip calm fun other mem => hmiss other (List.mem_cons_of_mem _ mem)
    simpa [advance, calm, hfit, past_skip] using hrest

/-- A chain that some entry accepts is matched by the first one that does, and that entry is invoked
before anything is done to bring the request to its end. -/
theorem advance_of_accepts (ahead : List (RouteEntry ρ)) (chain : Chain σ ρ)
    (hahead : chain.ahead = ahead) (calm : chain.error = none)
    (h : ∃ entry ∈ ahead, entry.fit chain.request.method chain.request.path ≠ .misses) :
    ∃ log matched run, advance ahead chain = Run.after log run ∧
      (∀ happening ∈ log, happening.isEnding = false) ∧ matched.matched = true ∧
      Course matched run := by
  induction ahead generalizing chain with
  | nil => simp at h
  | cons entry ahead ih =>
    -- the entries behind the one that matches are ahead of its action
    have hrun (params : Params) :
        Course (chain.enter entry params)
          (entry.action.run (handOn (advance ahead)) (chain.enter entry params)) := by
      refine course_run (fun other hother => course_advance ahead other 0 hother (by simp))
        entry.action _ ?_
      rw [enter, hahead, List.tail_cons]
    have hquiet (params : Params) :
        ∀ happening ∈ chain.invocation entry params, happening.isEnding = false := by
      simp [invocation, Happening.isEnding]
    cases hfit : entry.fit chain.request.method chain.request.path with
    | misses =>
      have hrest : ∃ other ∈ ahead,
          other.fit chain.request.method chain.request.path ≠ .misses := by
        simpa [hfit] using h
      obtain ⟨log, matched, run, hadvance, hlog, hmatched, course⟩ :=
        ih chain.skip (by rw [skip, hahead, List.tail_cons]) calm hrest
      exact ⟨log, matched, run, by simpa [advance, calm, hfit] using hadvance, hlog, hmatched,
        course⟩
    | hits =>
      exact ⟨_, _, _, by simp [advance, calm, hfit], hquiet .empty, rfl, hrun .empty⟩
    | binds params =>
      exact ⟨_, _, _, by simp [advance, calm, hfit], hquiet params, rfl, hrun params⟩

end Chain

/-! ## Deliveries -/

/-- A fallback that leaves a delivery unended leaves its receiver waiting. -/
theorem Answer.mailbox_run (answer : Answer ρ)
    (unended : (answer.run ({} : Delivery)).response.ended = false) :
    (answer.run ({} : Delivery)).response.mailbox = .waiting := by
  let noted := answer.run ({} : Transcript {})
  have hrun : (answer.run ({} : Delivery)).response = noted.response.delivery :=
    congrArg Closing.response
      (Answer.run_map Transcript.follows_delivery Transcript.agrees_delivery answer {})
  rw [hrun] at unended ⊢
  refine (noted.response.isOpen fun ends => ?_).2
  obtain ⟨early, hearly⟩ := exists_beforeEnd ends
  exact Bool.false_ne_true (unended.symm.trans (Transcript.delivered hearly).1)

/-! ## Whole runs -/

variable [ResponseWriter σ]

namespace Dispatcher

def Refuses (dispatcher : Dispatcher ρ) (request : Request) : Prop :=
  ∀ entry ∈ dispatcher.entries, entry.fit request.method request.path = .misses

/-- The run of a request that no entry accepts: its chain is given up as it came in, and there is
nothing left that could be resumed. -/
theorem serve_of_refuses {dispatcher : Dispatcher ρ} {request : Request}
    (refuses : dispatcher.Refuses request) (response : σ) (resumptions : List (Resumption σ ρ)) :
    let start := dispatcher.start request response
    dispatcher.serve request response resumptions =
      (start.past dispatcher.entries.length).giveUp.after [.handedOn start.view] := by
  intro start
  have hdispatch : dispatcher.dispatch request response =
      (start.past dispatcher.entries.length).giveUp.after [.handedOn start.view] :=
    congrArg (Run.after [.handedOn start.view])
      (Chain.advance_of_misses dispatcher.entries start rfl refuses)
  have fate : (dispatcher.serve request response []).fate =
      .gone _ (start.past dispatcher.entries.length).close.response :=
    congrArg Run.fate hdispatch
  exact (dispatcher.serve_append_of_gone request response [] resumptions fate).trans hdispatch

/-- The run of a request that some entry accepts is the course of a chain that is matched. -/
theorem serve_of_not_refuses {dispatcher : Dispatcher ρ} {request : Request}
    (accepted : ¬ dispatcher.Refuses request) (response : σ)
    (resumptions : List (Resumption σ ρ)) :
    ∃ log matched run, dispatcher.serve request response resumptions = Run.after log run ∧
      (∀ happening ∈ log, happening.isEnding = false) ∧ matched.matched = true ∧
      Chain.Course matched run := by
  let start := dispatcher.start request response
  have haccepts : ∃ entry ∈ dispatcher.entries,
      entry.fit request.method request.path ≠ .misses := by
    simpa [Refuses] using accepted
  obtain ⟨log, matched, first, hadvance, hlog, hmatched, course⟩ :=
    Chain.advance_of_accepts dispatcher.entries start rfl rfl haccepts
  have hdispatch : dispatcher.dispatch request response =
      first.after (.handedOn start.view :: log) := by
    have := congrArg (Run.after [.handedOn start.view]) hadvance
    rwa [Run.after_after] at this
  refine ⟨.handedOn start.view :: log, matched, resumptions.foldl Run.goOn first, ?_, ?_, hmatched,
    course.foldl_goOn resumptions⟩
  · rw [serve, hdispatch, Run.foldl_goOn_after]
  · simpa [Happening.isEnding] using hlog

/-- A chain that no entry accepts is left to the fallback, if nobody has touched its response. -/
theorem fallbackDue?_start {dispatcher : Dispatcher ρ} {fallback : Fallback ρ}
    (hfallback : dispatcher.fallback = some fallback) (request : Request) {response : σ}
    (hstatus : ResponseWriter.status response = initialStatus)
    (unended : ResponseWriter.isEnded response = false) (count : Nat) :
    ((dispatcher.start request response).past count).fallbackDue? = some fallback := by
  simp [Chain.fallbackDue?, Chain.past, start, hstatus, unended, hfallback]

/-- The fallback is called with the request as it came in if no entry accepts it, once, and
otherwise not at all. -/
theorem fallbackCalls_serve (dispatcher : Dispatcher ρ) {fallback : Fallback ρ}
    (hfallback : dispatcher.fallback = some fallback) (request : Request) {response : σ}
    (hstatus : ResponseWriter.status response = initialStatus)
    (unended : ResponseWriter.isEnded response = false) (resumptions : List (Resumption σ ρ)) :
    (dispatcher.Refuses request →
      fallbackCalls (dispatcher.serve request response resumptions).log = [request]) ∧
    (¬ dispatcher.Refuses request →
      fallbackCalls (dispatcher.serve request response resumptions).log = []) := by
  constructor
  · intro refuses
    have due := fallbackDue?_start hfallback request hstatus unended dispatcher.entries.length
    have hclose := Chain.fallbackCalls_close
      ((dispatcher.start request response).past dispatcher.entries.length)
    rw [due] at hclose
    rw [serve_of_refuses refuses response resumptions, Run.log_after, Chain.log_giveUp]
    exact hclose
  · intro accepted
    obtain ⟨log, matched, run, hserve, hlog, hmatched, course⟩ :=
      serve_of_not_refuses accepted response resumptions
    rw [hserve, Run.log_after, fallbackCalls_append, fallbackCalls_eq_nil hlog,
      course.fallbackCalls_eq hmatched, List.nil_append]

/-- No entry is invoked with a request that no entry accepts. -/
theorem invoked_not_mem_of_refuses {dispatcher : Dispatcher ρ} {request : Request}
    (refuses : dispatcher.Refuses request) (response : σ) (resumptions : List (Resumption σ ρ))
    (view : View) : .invoked view ∉ (dispatcher.serve request response resumptions).log := by
  rw [serve_of_refuses refuses response resumptions]
  intro mem
  simp only [Run.log_after, Chain.log_giveUp, List.cons_append, List.nil_append, List.mem_cons,
    reduceCtorEq, false_or] at mem
  simpa [Happening.isClosing] using Chain.isClosing_of_mem_close _ mem

/-- What a fallback leaves unended is ended as it is. -/
theorem fate_of_refuses (dispatcher : Dispatcher ρ) {fallback : Fallback ρ}
    (hfallback : dispatcher.fallback = some fallback) {request : Request} (response : σ)
    (hstatus : ResponseWriter.status response = initialStatus)
    (unended : ResponseWriter.isEnded response = false) (resumptions : List (Resumption σ ρ))
    (refuses : dispatcher.Refuses request)
    (returned : ((fallback request).run response).panicked = false)
    (left : ResponseWriter.isEnded ((fallback request).run response).response = false) :
    ∃ chain, (dispatcher.serve request response resumptions).fate =
      .gone chain (ResponseWriter.finish ((fallback request).run response).response).2 := by
  have due := fallbackDue?_start hfallback request hstatus unended dispatcher.entries.length
  rw [serve_of_refuses refuses response resumptions]
  exact ⟨_, congrArg (Fate.gone _) (Chain.close_of_fallbackDue due returned left)⟩

/-- Once the chain of a request is gone its response is ended, unless the fallback is called and
panics before it is. -/
theorem isEnded_of_gone {τ : Type} [FaithfulWriter τ] (dispatcher : Dispatcher ρ)
    (request : Request) (response : τ) (resumptions : List (Resumption τ ρ))
    (spared : dispatcher.Refuses request → ∀ fallback ∈ dispatcher.fallback,
      ((fallback request).run response).panicked = true →
        ResponseWriter.isEnded ((fallback request).run response).response = true)
    {chain : Chain τ ρ} {final : τ}
    (fate : (dispatcher.serve request response resumptions).fate = .gone chain final) :
    ResponseWriter.isEnded final = true := by
  by_cases refuses : dispatcher.Refuses request
  · rw [serve_of_refuses refuses response resumptions] at fate
    cases fate
    exact Chain.isEnded_close _ fun fallback due =>
      spared refuses fallback (Chain.of_fallbackDue due).1
  · obtain ⟨log, matched, run, hserve, -, hmatched, course⟩ :=
      serve_of_not_refuses refuses response resumptions
    rw [hserve, Run.fate_after] at fate
    have undue := Chain.fallbackDue?_of_matched (course.matched_eq hmatched fate)
    rw [course.final_eq fate]
    exact chain.isEnded_close fun fallback due => by simp [undue] at due

/-- A fallback is called if and only if no entry accepts the request, whatever the actions do, and
then once and with the request as it came in, before the dispatch is over. Whatever parameters and
pattern the request has come with are still there. Once an entry has been invoked the fallback is
not called any more. If it comes back without having ended the response, that is ended with the
status, the fields and the body that it has left there, and its length. -/
theorem serve_fallsBack (entries : List (RouteEntry ρ)) (fallback : Fallback ρ)
    (request : Request) :
    let dispatcher : Dispatcher ρ := ⟨entries, some fallback⟩
    (∀ (σ : Type) [ResponseWriter σ] (response : σ) (resumptions : List (Resumption σ ρ)),
      ResponseWriter.status response = initialStatus → ResponseWriter.isEnded response = false →
      let run := dispatcher.serve request response resumptions
      let left := (fallback request).run response
      ((∃ seen, .fellBack seen ∈ run.log) ↔ dispatcher.Refuses request) ∧
      (∀ seen, .fellBack seen ∈ run.log → fallbackCalls run.log = [request]) ∧
      fallbackCalls (dispatcher.dispatch request response).log = fallbackCalls run.log ∧
      (∀ view, .invoked view ∈ run.log → fallbackCalls run.log = []) ∧
      (dispatcher.Refuses request → left.panicked = false →
        ResponseWriter.isEnded left.response = false →
        ∃ chain, run.fate = .gone chain (ResponseWriter.finish left.response).2)) ∧
    (dispatcher.Refuses request →
      (∀ resumptions : List (Resumption Recorder ρ),
        let left := (fallback request).run ({} : Recorder)
        left.panicked = false → left.response.ended = false →
        ∃ chain, (dispatcher.serve request {} resumptions).fate =
          .gone chain ⟨left.response.response.withLength, true⟩) ∧
      (∀ resumptions : List (Resumption Delivery ρ),
        let left := (fallback request).run ({} : Delivery)
        left.panicked = false → left.response.ended = false →
        ∃ chain, (dispatcher.serve request {} resumptions).fate =
          .gone chain { left.response with
            ended := true, mailbox := .full left.response.response.withLength })) := by
  intro dispatcher
  refine ⟨fun σ _ response resumptions hstatus unended => ?_, fun refuses => ⟨?_, ?_⟩⟩
  · intro run left
    obtain ⟨called, quiet⟩ :=
      dispatcher.fallbackCalls_serve rfl request hstatus unended resumptions
    obtain ⟨calledFirst, quietFirst⟩ :=
      dispatcher.fallbackCalls_serve rfl request hstatus unended []
    have refuses_of_mem {seen : Request} (mem : .fellBack seen ∈ run.log) :
        dispatcher.Refuses request := by
      refine Classical.byContradiction fun accepted => ?_
      have hcalls : seen ∈ fallbackCalls run.log := mem_fallbackCalls.mpr mem
      rw [quiet accepted] at hcalls
      exact List.not_mem_nil hcalls
    refine ⟨⟨fun ⟨_, mem⟩ => refuses_of_mem mem, fun refuses => ⟨request, ?_⟩⟩,
      fun seen mem => called (refuses_of_mem mem), ?_, fun view mem => quiet fun refuses => ?_,
      dispatcher.fate_of_refuses rfl response hstatus unended resumptions⟩
    · exact mem_fallbackCalls.mp (by simp [run, called refuses])
    · by_cases refuses : dispatcher.Refuses request
      · exact (calledFirst refuses).trans (called refuses).symm
      · exact (quietFirst refuses).trans (quiet refuses).symm
    · exact invoked_not_mem_of_refuses refuses response resumptions view mem
  · intro resumptions left returned unended
    obtain ⟨chain, fate⟩ := dispatcher.fate_of_refuses rfl ({} : Recorder) rfl rfl resumptions
      refuses returned unended
    refine ⟨chain, fate.trans (congrArg _ ?_)⟩
    simp [ResponseWriter.finish, Recorder.finish, left, unended]
  · intro resumptions left returned unended
    obtain ⟨chain, fate⟩ := dispatcher.fate_of_refuses rfl ({} : Delivery) rfl rfl resumptions
      refuses returned unended
    refine ⟨chain, fate.trans (congrArg _ ?_)⟩
    have waiting : left.response.mailbox = .waiting := (fallback request).mailbox_run unended
    simp [ResponseWriter.finish, Delivery.finish, left, unended, waiting]

/-- An entry is there for another method, and the fallback writes a body. The request goes past the
entry, and what has been written is delivered. -/
theorem serve_fallsBack_of_post :
    let handler : RouteEntry Unit := ⟨.only .post, .any, .handler, .send 200 []⟩
    let fallback : Fallback Unit := fun _ => .write (.edit (.append [104, 105])) fun _ => .done
    let dispatcher : Dispatcher Unit := ⟨[handler], some fallback⟩
    let request : Request := ⟨.get, "/", {}, none, none, .empty, none⟩
    let sent : Response := { headers := ⟨[("content-length", [50])]⟩, body := [104, 105] }
    ResponseWriter.status ({} : Recorder) = initialStatus ∧
      ResponseWriter.isEnded ({} : Recorder) = false ∧
      dispatcher.Refuses request ∧
      fallbackCalls (dispatcher.serve request ({} : Recorder) []).log = [request] ∧
      ((fallback request).run ({} : Delivery)).panicked = false ∧
      ((fallback request).run ({} : Delivery)).response.ended = false ∧
      ∃ chain final, (dispatcher.serve request ({} : Delivery) []).fate = .gone chain final ∧
        final.mailbox = .full sent := by
  intro handler fallback dispatcher request sent
  obtain ⟨run, delivered⟩ := serve_fallsBack [handler] fallback request
  have refuses : dispatcher.Refuses request := by
    intro entry mem
    obtain rfl := List.mem_singleton.mp mem
    rfl
  obtain ⟨called, once, -⟩ := run Recorder {} [] rfl rfl
  obtain ⟨seen, mem⟩ := called.mpr refuses
  obtain ⟨chain, fate⟩ := (delivered refuses).2 [] rfl rfl
  have hsent : ((fallback request).run ({} : Delivery)).response.response.withLength = sent := by
    decide +kernel
  exact ⟨rfl, rfl, refuses, once seen mem, rfl, rfl, chain, _, fate, congrArg Mailbox.full hsent⟩

/-- An action keeps its chain, and the request is taken out of it and dispatched once more. The
fallback that it is left to sees the parameter and the pattern of the entry that it came through. -/
theorem serve_fallsBack_of_moved_request :
    let router : Router Unit := ({} : Router Unit).route (.only .get) "/a/:id" (.hold 0)
    let first := router.dispatcher.serve ⟨.get, "/a/7", {}, none, none, .empty, none⟩
      ({} : Recorder) []
    let moved := first.fate.chain.request
    let dispatcher : Dispatcher Unit := ⟨[], some fun _ => .done⟩
    let run := dispatcher.serve moved ({} : Recorder) []
    dispatcher.Refuses moved ∧ fallbackCalls run.log = [moved] ∧
      moved.params.get? "id" = some "7" ∧ moved.route = some "/a/:id" ∧
      ¬ ∀ seen ∈ fallbackCalls run.log, seen.params = .empty ∧ seen.route = none := by
  intro router first moved dispatcher run
  have refuses : dispatcher.Refuses moved := by simp [Refuses, dispatcher]
  have hcalls : fallbackCalls run.log = [moved] :=
    (dispatcher.fallbackCalls_serve rfl moved rfl rfl []).1 refuses
  have hroute : moved.route = some "/a/:id" := by decide +kernel
  refine ⟨refuses, hcalls, by decide +kernel, hroute, fun fresh => ?_⟩
  have := (fresh moved (by simp [hcalls])).2
  simp [hroute] at this

end Dispatcher

end RouteChain
