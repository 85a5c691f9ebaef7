import Mathlib.Data.List.Forall2
import RouteChain.Proofs.Dispatch.Deeds
import RouteChain.Proofs.Dispatch.Failure
import RouteChain.Proofs.Dispatch.Leaving
import RouteChain.Response.Recorder
import RouteChain.Service

/-!
# What the events tell of a request

While a request is served an event is raised for every action that is invoked, and a few more when
the chain is given up. An operator who has the events has the course of the request.

## Main definitions

* `events`, `invocations` — the events that are raised, and what the actions that are invoked see.
* `Announces` — the event that is raised before an action is invoked.
* `Chain.lastEvents` — the events that are raised when a chain is given up.
* `lastRoute` — the pattern of the entry that was invoked last.
* `Behaviour.KeepsRoute` — actions that do not replace the pattern that their request carries.

The main result is `Dispatcher.serve_events`, which holds of whole runs.
-/

namespace RouteChain

variable {σ ρ : Type}

/-! ## Looking at a log -/

def Happening.event? : Happening ρ → Option Event
  | .raised event => some event
  | _ => none

def events (log : List (Happening ρ)) : List Event :=
  log.filterMap Happening.event?

def Happening.invoked? : Happening ρ → Option View
  | .invoked view => some view
  | _ => none

/-- What the actions see that are invoked, in order. -/
def invocations (log : List (Happening ρ)) : List View :=
  log.filterMap Happening.invoked?

@[simp] theorem events_append (log others : List (Happening ρ)) :
    events (log ++ others) = events log ++ events others :=
  List.filterMap_append

@[simp] theorem invocations_append (log others : List (Happening ρ)) :
    invocations (log ++ others) = invocations log ++ invocations others :=
  List.filterMap_append

@[simp] theorem events_notes (notes : List ρ) : events (notes.map Happening.told) = [] :=
  List.filterMap_eq_nil_iff.mpr (by simp [Happening.event?])

@[simp] theorem invocations_notes (notes : List ρ) : invocations (notes.map Happening.told) = [] :=
  List.filterMap_eq_nil_iff.mpr (by simp [Happening.invoked?])

@[simp] theorem finishes_notes (notes : List ρ) : finishes (notes.map Happening.told) = [] :=
  List.filterMap_eq_nil_iff.mpr (by simp [Happening.finished?])

/-- A response is ended by the chain only once that is given up. -/
theorem finishes_eq_nil {log : List (Happening ρ)}
    (h : ∀ happening ∈ log, happening.isEnding = false) : finishes log = [] := by
  refine List.filterMap_eq_nil_iff.mpr fun happening mem => ?_
  have := h happening mem
  cases happening <;> simp_all [Happening.isEnding, Happening.finished?]

/-! ## Events of a request -/

/-- The event is raised before the action is invoked that sees this. It tells the number, the
methods and the pattern of the entry, and the method and the path that the request has then. The
request carries the pattern. -/
def Announces (entries : List (RouteEntry ρ)) (view : View) (event : Event) : Prop :=
  ∃ index entry, view.position = some index ∧ entries[index]? = some entry ∧
    view.request.route = entry.pattern.source ∧
    event = .matched view.request.method view.request.path index entry.methods
      entry.pattern.source

/-- The event is one of those that tell the course of a request. Its level and what it says. -/
def Event.TellsCourse (event : Event) : Prop :=
  match event with
  | .matched _ _ _ _ _ => event.level = .debug ∧ event.message = "route entry matched"
  | .aborted _ _ _ _ => event.level = .error ∧ event.message = "request chain aborted"
  | .errorNotDelivered _ =>
    event.level = .warn ∧ event.message = "response already ended; error not delivered"
  | .endFailed _ _ _ => event.level = .warn ∧ event.message = "failed to end response"
  | .patternDisabled _ | .registered _ _ _ | .fallbackIgnored _ | .servicePanicked => False

theorem tellsCourse_of_announces {entries : List (RouteEntry ρ)} {views : List View}
    {matched : List Event} (announces : List.Forall₂ (Announces entries) views matched) :
    ∀ event ∈ matched, event.TellsCourse := by
  induction announces with
  | nil => simp
  | cons head _ ih =>
    obtain ⟨index, entry, -, -, -, rfl⟩ := head
    exact List.forall_mem_cons.mpr ⟨⟨rfl, rfl⟩, ih⟩

namespace Chain

variable [ResponseWriter σ]

/-- The events that are raised when a chain is given up, where this is what came of its attempts to
end the response. An error is reported, with the pattern that the request carries. If the response
has been ended by then the error is not delivered, and otherwise an attempt that fails is
reported. -/
def lastEvents (chain : Chain σ ρ) (attempts : List (Option WriteError)) : List Event :=
  let request := chain.request
  let failures := attempts.filterMap (Option.map (.endFailed request.method request.path))
  match chain.error with
  | none => failures
  | some cause =>
    .aborted request.method request.path request.route cause ::
      if ResponseWriter.isEnded chain.response then [.errorNotDelivered request.path]
      else failures

/-- What is raised when a chain is given up tells an error, or what came of the response. -/
theorem eq_of_mem_lastEvents (chain : Chain σ ρ) (attempts : List (Option WriteError))
    {event : Event} (h : event ∈ chain.lastEvents attempts) :
    (∃ method path route cause, event = .aborted method path route cause) ∨
      (∃ path, event = .errorNotDelivered path) ∨
      ∃ method path error, event = .endFailed method path error := by
  have hfailures (mem : event ∈ attempts.filterMap
      (Option.map (.endFailed chain.request.method chain.request.path))) :
        ∃ method path error, event = .endFailed method path error := by
    obtain ⟨attempt, -, hattempt⟩ := List.mem_filterMap.mp mem
    obtain ⟨error, -, rfl⟩ := Option.map_eq_some_iff.mp hattempt
    exact ⟨_, _, _, rfl⟩
  unfold lastEvents at h
  cases failed : chain.error with
  | none => exact .inr (.inr (hfailures (by simpa [failed] using h)))
  | some cause =>
    simp only [failed] at h
    rcases List.mem_cons.mp h with rfl | h
    · exact .inl ⟨_, _, _, _, rfl⟩
    · split at h
      · exact .inr (.inl ⟨_, List.mem_singleton.mp h⟩)
      · exact .inr (.inr (hfailures h))

theorem tellsCourse_of_mem_lastEvents (chain : Chain σ ρ) (attempts : List (Option WriteError))
    {event : Event} (h : event ∈ chain.lastEvents attempts) : event.TellsCourse := by
  rcases chain.eq_of_mem_lastEvents attempts h with
    ⟨_, _, _, _, rfl⟩ | ⟨_, rfl⟩ | ⟨_, _, _, rfl⟩ <;> exact ⟨rfl, rfl⟩

/-! ## The end of a request -/

/-- An attempt to end the response is reported if it fails. -/
theorem events_finish (chain : Chain σ ρ) :
    events chain.finish.log = (finishes chain.finish.log).filterMap
      (Option.map (.endFailed chain.request.method chain.request.path)) := by
  cases h : (ResponseWriter.finish chain.response).1 <;>
    simp [finish, h, events, finishes, List.filterMap_cons, Happening.event?, Happening.finished?]

@[simp] theorem events_answered (chain : Chain σ ρ) (fallback : Fallback ρ) :
    events (chain.answered fallback).log = [] := by
  refine List.filterMap_eq_nil_iff.mpr fun happening mem => ?_
  rcases List.mem_cons.mp mem with rfl | mem
  · rfl
  · obtain ⟨note, rfl⟩ := Answer.mem_log_run _ _ mem
    rfl

/-- Nobody is invoked while a request is brought to an end. -/
@[simp] theorem invocations_close (chain : Chain σ ρ) : invocations chain.close.log = [] := by
  refine List.filterMap_eq_nil_iff.mpr fun happening mem => ?_
  have := chain.isClosing_of_mem_close mem
  cases happening <;> simp_all [Happening.isClosing, Happening.invoked?]

@[simp] theorem invocations_giveUp (chain : Chain σ ρ) : invocations chain.giveUp.log = [] := by
  rw [log_giveUp]
  exact chain.invocations_close

@[simp] theorem finishes_giveUp (chain : Chain σ ρ) :
    finishes chain.giveUp.log = finishes chain.close.log := by
  rw [log_giveUp]
  rfl

@[simp] theorem events_giveUp (chain : Chain σ ρ) :
    events chain.giveUp.log = events chain.close.log := by
  rw [log_giveUp]
  rfl

/-- The events that are raised while a request is brought to an end. -/
theorem events_close (chain : Chain σ ρ) :
    events chain.close.log = chain.lastEvents (finishes chain.close.log) := by
  unfold close lastEvents
  cases failed : chain.error with
  | some cause =>
    dsimp only
    unfold abort
    split
    · rfl
    · exact congrArg (List.cons _) (events_finish (chain.edit (errorResponse cause)))
  | none =>
    dsimp only
    rw [complete_eq chain failed]
    cases chain.fallbackDue? with
    | none =>
      dsimp only
      split
      · rfl
      · exact events_finish chain
    | some fallback =>
      dsimp only
      split
      · simp
      · simpa using events_finish { chain with response := (chain.answered fallback).response }

/-- A chain that is given up ends its response once at most, whatever the fallback does. -/
theorem length_finishes_close (chain : Chain σ ρ) : (finishes chain.close.log).length ≤ 1 := by
  have outcome := chain.close_outcome
  split at outcome
  · rw [(Prod.mk.inj outcome).1]
    exact Nat.zero_le 1
  · rw [(Prod.mk.inj outcome).1]
    exact Nat.le_refl 1

/-! ## Steps -/

variable {entries : List (RouteEntry ρ)} {start chain left : Chain σ ρ}
  {log last : List (Happening ρ)}

/-- On its steps a request raises one event for each action that is invoked, and no others. -/
theorem Steps.announced (hahead : start.ahead = entries) (hcursor : start.cursor = 0)
    (steps : Steps start log chain) :
    List.Forall₂ (Announces entries) (invocations log) (events log) := by
  induction steps with
  | refl => exact .nil
  | @tail log last chain next steps step ih =>
    rw [invocations_append, events_append]
    refine List.rel_append ih ?_
    cases step with
    | write | edit | flag | tell => exact .nil
    | enter count entry params calm hmiss hentry hfit =>
      have isNext := (steps.trail hahead hcursor).isNext hmiss hentry hfit
      exact .cons ⟨chain.cursor + count, entry, rfl, isNext.getElem?_eq, rfl, rfl⟩ .nil

/-- From the last step on no action is invoked, and no event is raised before the chain is given
up. -/
theorem Stop.events_eq (stop : Stop chain last left) :
    events last = [] ∧ invocations last = [] := by
  cases stop <;> exact ⟨rfl, rfl⟩

/-- The events on the course of a request. The chain ends the response once at most. -/
theorem Course.announced {run : Run σ ρ} (course : Course start run)
    (hahead : start.ahead = entries) (hcursor : start.cursor = 0) :
    ∃ matched, List.Forall₂ (Announces entries) (invocations run.log) matched ∧
      match run.fate with
      | .held _ _ => events run.log = matched
      | .gone chain _ =>
        (finishes run.log).length ≤ 1 ∧
          events run.log = matched ++ chain.lastEvents (finishes run.log) := by
  cases course with
  | held slot steps fate =>
    rw [fate]
    exact ⟨_, steps.announced hahead hcursor, rfl⟩
  | @gone log last chain left notes steps stop hlog fate =>
    have hfinishes : finishes run.log = finishes left.close.log := by
      have hsteps : finishes log = [] := finishes_eq_nil fun _ => steps.not_isEnding
      have hstop : finishes last = [] := finishes_eq_nil fun _ => stop.not_isEnding
      simp [hlog, hsteps, hstop]
    have hinvocations : invocations run.log = invocations log := by
      simp [hlog, stop.events_eq.2]
    have hevents : events run.log = events log ++ events left.close.log := by
      simp [hlog, stop.events_eq.1]
    rw [fate, hinvocations]
    refine ⟨events log, steps.announced hahead hcursor, ?_, ?_⟩
    · exact hfinishes ▸ left.length_finishes_close
    · rw [hevents, hfinishes, events_close]

/-- Every event on the course of a request is one of those that tell it. -/
theorem Course.tellsCourse {run : Run σ ρ} (course : Course start run)
    (hahead : start.ahead = entries) (hcursor : start.cursor = 0) {event : Event}
    (h : event ∈ events run.log) : event.TellsCourse := by
  obtain ⟨matched, announces, hevents⟩ := course.announced hahead hcursor
  have hmatched := tellsCourse_of_announces announces
  cases fate : run.fate with
  | held slot chain =>
    rw [fate] at hevents
    exact hmatched event (hevents ▸ h)
  | gone chain final =>
    rw [fate] at hevents
    rw [hevents.2] at h
    rcases List.mem_append.mp h with mem | mem
    · exact hmatched event mem
    · exact chain.tellsCourse_of_mem_lastEvents _ mem

end Chain

/-! ## The pattern that a request carries -/

/-- The pattern of the entry that was invoked last, or this one if none was. -/
def lastRoute (route : Option String) (log : List (Happening ρ)) : Option String :=
  match (invocations log).getLast? with
  | some view => view.request.route
  | none => route

@[simp] theorem lastRoute_append (route : Option String) (log others : List (Happening ρ)) :
    lastRoute route (log ++ others) = lastRoute (lastRoute route log) others := by
  unfold lastRoute
  rw [invocations_append, List.getLast?_append]
  cases (invocations others).getLast? <;> rfl

theorem lastRoute_of_invocations {log : List (Happening ρ)} (h : invocations log = [])
    (route : Option String) : lastRoute route log = route := by
  simp [lastRoute, h]

/-- The action leaves the pattern alone that its request carries. -/
def Behaviour.KeepsRoute : Behaviour ρ → Prop
  | .look k => ∀ view, (k view).KeepsRoute
  | .write _ k => ∀ reply, (k reply).KeepsRoute
  | .edit change k => (∀ request, (change request).route = request.route) ∧ k.KeepsRoute
  | .takeBody k => ∀ body, (k body).KeepsRoute
  | .flag _ k | .tell _ k => k.KeepsRoute
  | .thread body _ | .andThen body _ => body.KeepsRoute
  | .pass | .send _ _ | .fail _ | .drop | .panic | .hold _ => True

/-- The request that carries this pattern when the run begins carries in the end the pattern of the
entry that was invoked last. -/
def Run.CarriesLast (run : Run σ ρ) (route : Option String) : Prop :=
  run.fate.chain.request.route = lastRoute route run.log

theorem Run.CarriesLast.after {run : Run σ ρ} {route : Option String} {log : List (Happening ρ)}
    (h : run.CarriesLast (lastRoute route log)) : (run.after log).CarriesLast route := by
  unfold CarriesLast at h ⊢
  rw [log_after, lastRoute_append, fate_after, h]

/-- Nobody is invoked by notes. -/
theorem Run.CarriesLast.followedBy {run other : Run σ ρ} {route : Option String}
    (h : run.CarriesLast route) (notes : List ρ) (hlog : other.log = run.log ++ notes.map .told)
    (hfate : other.fate = run.fate) : other.CarriesLast route := by
  unfold CarriesLast at h ⊢
  rw [hlog, lastRoute_append, lastRoute_of_invocations (invocations_notes notes), hfate, h]

theorem Run.CarriesLast.contain {run : Run σ ρ} {route : Option String} (h : run.CarriesLast route)
    (note : ρ) : (run.contain [.told note]).CarriesLast route := by
  unfold Run.contain
  split
  · exact h.followedBy [note] (run.log_followedBy _) rfl
  · exact h

theorem Run.CarriesLast.conclude {run : Run σ ρ} {route : Option String}
    (h : run.CarriesLast route) (rest : Aftermath ρ) : (run.conclude rest).CarriesLast route := by
  unfold Run.conclude
  split
  · exact h
  · exact h.followedBy rest.notes (run.log_followedBy _) rfl

namespace Chain

variable [ResponseWriter σ]

theorem carriesLast_giveUp (chain : Chain σ ρ) : chain.giveUp.CarriesLast chain.request.route :=
  (lastRoute_of_invocations chain.invocations_giveUp _).symm

theorem carriesLast_unwind (chain : Chain σ ρ) : chain.unwind.CarriesLast chain.request.route := by
  unfold unwind
  split
  · exact chain.carriesLast_giveUp
  · exact .after (carriesLast_giveUp { chain with error := some .panicked })

/-- The pattern is carried on by an action, if it is when a chain with these entries ahead is handed
on. -/
theorem carriesLast_run {ahead : List (RouteEntry ρ)} {next : Chain σ ρ → Run σ ρ}
    (hnext : ∀ chain, chain.ahead = ahead → (next chain).CarriesLast chain.request.route)
    (behaviour : Behaviour ρ) (keeps : behaviour.KeepsRoute) (chain : Chain σ ρ)
    (h : chain.ahead = ahead) : (behaviour.run next chain).CarriesLast chain.request.route := by
  induction behaviour generalizing chain with
  | look k ih => exact ih _ (keeps _) chain h
  | write call k ih =>
    exact ih _ (keeps _) { chain with response := (call.apply chain.response).2 } h
  | edit change k ih =>
    have := ih keeps.2 { chain with request := change chain.request } h
    rwa [keeps.1 chain.request] at this
  | takeBody k ih =>
    exact ih _ (keeps _) { chain with request := { chain.request with body := none } } h
  | flag cause k ih => exact .after (ih keeps { chain with error := some cause } h)
  | tell note k ih => exact .after (ih keeps chain h)
  | pass => exact hnext chain h
  | send status body => exact carriesLast_giveUp (chain.edit [.status status, .append body])
  | fail cause => exact .after (hnext { chain with error := some cause } h)
  | drop => exact chain.carriesLast_giveUp
  | panic => exact chain.carriesLast_unwind
  | hold slot => rfl
  | thread body note ih => exact (ih keeps chain h).contain note
  | andThen body rest ih => exact (ih keeps chain h).conclude rest

theorem carriesLast_advance {ahead : List (RouteEntry ρ)}
    (keeps : ∀ entry ∈ ahead, entry.action.KeepsRoute) (chain : Chain σ ρ) :
    (advance ahead chain).CarriesLast chain.request.route := by
  induction ahead generalizing chain with
  | nil => exact chain.carriesLast_giveUp
  | cons entry ahead ih =>
    have hahead := ih fun other mem => keeps other (List.mem_cons_of_mem _ mem)
    have hrun (params : Params) : ((entry.action.run (handOn (advance ahead))
        (chain.enter entry params)).after (chain.invocation entry params)).CarriesLast
          chain.request.route :=
      .after (carriesLast_run (fun other _ => .after (hahead other)) entry.action
        (keeps entry List.mem_cons_self) (chain.enter entry params) rfl)
    unfold advance
    split
    · exact chain.carriesLast_giveUp
    · split
      · exact hahead chain.skip
      · exact hrun .empty
      · exact hrun _

theorem carriesLast_next {chain : Chain σ ρ}
    (keeps : ∀ entry ∈ chain.ahead, entry.action.KeepsRoute) :
    chain.next.CarriesLast chain.request.route :=
  .after (carriesLast_advance keeps chain)

theorem carriesLast_resume {chain : Chain σ ρ}
    (keeps : ∀ entry ∈ chain.ahead, entry.action.KeepsRoute) {behaviour : Behaviour ρ}
    (keeps' : behaviour.KeepsRoute) :
    (chain.resume behaviour).CarriesLast chain.request.route :=
  carriesLast_run (fun _ h => carriesLast_next (h ▸ keeps)) behaviour keeps' chain rfl

end Chain

/-! ## Whole runs -/

variable [ResponseWriter σ]

theorem Run.CarriesLast.goOn {start : Chain σ ρ} {run : Run σ ρ} {route : Option String}
    (h : run.CarriesLast route) (course : Chain.Course start run)
    (keeps : ∀ entry ∈ start.ahead, entry.action.KeepsRoute) {resumption : Resumption σ ρ}
    (keeps' : resumption.behaviour.KeepsRoute) : (run.goOn resumption).CarriesLast route := by
  unfold Run.goOn
  cases fate : run.fate with
  | gone chain final => exact h
  | held slot chain =>
    have hroute : chain.request.route = lastRoute route run.log := by
      simpa [CarriesLast, fate, Fate.chain] using h
    let later : Chain σ ρ := { chain with response := resumption.meanwhile chain.response }
    have hahead : ∀ entry ∈ later.ahead, entry.action.KeepsRoute := fun entry mem =>
      keeps entry ((course.of_held fate).2 mem)
    refine .after ?_
    rw [← hroute]
    exact Chain.carriesLast_resume hahead keeps'

theorem Run.CarriesLast.foldl_goOn {start : Chain σ ρ} {run : Run σ ρ} {route : Option String}
    (h : run.CarriesLast route) (course : Chain.Course start run)
    (keeps : ∀ entry ∈ start.ahead, entry.action.KeepsRoute)
    {resumptions : List (Resumption σ ρ)}
    (keeps' : ∀ resumption ∈ resumptions, resumption.behaviour.KeepsRoute) :
    (resumptions.foldl Run.goOn run).CarriesLast route := by
  induction resumptions generalizing run with
  | nil => exact h
  | cons resumption resumptions ih =>
    obtain ⟨hhead, htail⟩ := List.forall_mem_cons.mp keeps'
    exact ih (h.goOn course keeps hhead) (course.goOn resumption) htail

namespace Dispatcher

/-- If no action replaces the pattern that its request carries, the request carries the pattern of
the entry that was invoked last. -/
theorem carriesLast_serve (dispatcher : Dispatcher ρ) (request : Request) (response : σ)
    {resumptions : List (Resumption σ ρ)}
    (keeps : ∀ entry ∈ dispatcher.entries, entry.action.KeepsRoute)
    (keeps' : ∀ resumption ∈ resumptions, resumption.behaviour.KeepsRoute) :
    (dispatcher.serve request response resumptions).CarriesLast request.route := by
  have course := Chain.course_next (dispatcher.start request response)
  exact (Chain.carriesLast_next keeps).foldl_goOn course keeps keeps'

/-- A service raises one more event if a panic leaves the dispatch of the request, and does so
before anybody goes on with the chain. -/
theorem events_call (dispatcher : Dispatcher ρ) (request : Request) (response : σ)
    (resumptions : List (Resumption σ ρ)) :
    let first := dispatcher.dispatch request response
    ∃ later, events (dispatcher.serve request response resumptions).log =
        events first.log ++ later ∧
      events (resumptions.foldl Run.goOn
          ((⟨dispatcher⟩ : Service ρ).call request response)).log =
        events first.log ++ (if first.unwinds then [.servicePanicked] else []) ++ later := by
  intro first
  have hfate : ((⟨dispatcher⟩ : Service ρ).call request response).fate = first.fate :=
    Run.fate_contain _ _
  have hcall : events ((⟨dispatcher⟩ : Service ρ).call request response).log =
      events first.log ++ if first.unwinds then [.servicePanicked] else [] := by
    unfold Service.call Run.contain
    split
    · exact (congrArg events (first.log_followedBy _)).trans (events_append _ _)
    · rw [List.append_nil]
  obtain ⟨later, hserve, hservice⟩ := Run.exists_later hfate resumptions
  refine ⟨events later, ?_, ?_⟩
  · rw [← events_append]
    exact congrArg events hserve
  · rw [hservice, events_append, hcall]

/-- The events of a run, with any writer and any fallback. One is raised for each action that is
invoked, and while somebody keeps the chain there are no others. When the chain is given up a few
more are raised, which depend on the error that was recorded last, on whether the response was ended
by then, and on what came of the attempt to end it, of which there is one at most. The pattern that
they tell is that of the entry that was invoked last, unless an action has replaced the one that its
request carried. A service raises one more event if a panic leaves the dispatch, and does so before
anybody goes on with the chain. -/
theorem serve_events (dispatcher : Dispatcher ρ) (request : Request) (response : σ)
    (resumptions : List (Resumption σ ρ)) :
    let run := dispatcher.serve request response resumptions
    (∃ matched, List.Forall₂ (Announces dispatcher.entries) (invocations run.log) matched ∧
      match run.fate with
      | .held _ _ => events run.log = matched
      | .gone chain _ =>
        events run.log = matched ++ chain.lastEvents (finishes run.log) ∧
        chain.error = lastFlag? run.log ∧ (finishes run.log).length ≤ 1) ∧
    (∀ event ∈ events run.log, event.TellsCourse) ∧
    ((∀ entry ∈ dispatcher.entries, entry.action.KeepsRoute) →
      (∀ resumption ∈ resumptions, resumption.behaviour.KeepsRoute) →
      run.fate.chain.request.route = lastRoute request.route run.log) ∧
    ∃ later, events run.log = events (dispatcher.dispatch request response).log ++ later ∧
      events (resumptions.foldl Run.goOn
          ((⟨dispatcher⟩ : Service ρ).call request response)).log =
        events (dispatcher.dispatch request response).log ++
          (if (dispatcher.dispatch request response).unwinds then [.servicePanicked] else []) ++
            later := by
  intro run
  have course : Chain.Course (dispatcher.start request response) run :=
    dispatcher.course_serve request response resumptions
  obtain ⟨matched, announces, hevents⟩ := course.announced rfl rfl
  refine ⟨⟨matched, announces, ?_⟩, fun event => course.tellsCourse rfl rfl,
    dispatcher.carriesLast_serve request response,
    dispatcher.events_call request response resumptions⟩
  cases fate : run.fate with
  | held slot chain =>
    rw [fate] at hevents
    exact hevents
  | gone chain final =>
    rw [fate] at hevents
    exact ⟨hevents.2, (course.error_eq rfl fate).1, hevents.1⟩

/-- A handler fails behind a middleware that lets its request pass. -/
theorem serve_events_of_failing_handler :
    let router : Router Unit := (({} : Router Unit).useAll .pass).route (.only .get) "/users/:id"
      (.fail (.raised "boom"))
    let run := router.dispatcher.serve ⟨.get, "/users/7", {}, none, none, .empty, none⟩
      ({} : Recorder) []
    events run.log =
        [.matched .get "/users/7" 0 .any none,
          .matched .get "/users/7" 1 (.only .get) (some "/users/:id"),
          .aborted .get "/users/7" (some "/users/:id") (.raised "boom")] ∧
      (∀ entry ∈ router.dispatcher.entries, entry.action.KeepsRoute) ∧
      lastRoute none run.log = some "/users/:id" ∧
      run.fate.chain.request.route = lastRoute none run.log := by
  intro router run
  have keeps : ∀ entry ∈ router.dispatcher.entries, entry.action.KeepsRoute := by
    simp [router, Router.dispatcher, Router.useAll, Router.route, Router.register, Router.add,
      Behaviour.KeepsRoute]
  refine ⟨by decide +kernel, keeps, by decide +kernel, ?_⟩
  exact (router.dispatcher.serve_events _ _ []).2.2.1 keeps (by simp)

/-- A handler replaces its request by a new one before it fails. The new request has not come
through any entry, and the event tells no pattern. -/
theorem serve_events_of_new_request :
    let replaced : Request := ⟨.get, "/other", {}, none, none, .empty, none⟩
    let router : Router Unit := ({} : Router Unit).route (.only .get) "/a"
      (.edit (fun _ => replaced) (.fail (.raised "boom")))
    let run := router.dispatcher.serve ⟨.get, "/a", {}, none, none, .empty, none⟩
      ({} : Recorder) []
    events run.log =
        [.matched .get "/a" 0 (.only .get) (some "/a"),
          .aborted .get "/other" none (.raised "boom")] ∧
      lastRoute none run.log = some "/a" ∧
      .aborted .get "/other" (lastRoute none run.log) (.raised "boom") ∉ events run.log := by
  intro replaced router run
  have hevents : events run.log =
      [.matched .get "/a" 0 (.only .get) (some "/a"),
        .aborted .get "/other" none (.raised "boom")] := by decide +kernel
  have hroute : lastRoute none run.log = some "/a" := by decide +kernel
  refine ⟨hevents, hroute, ?_⟩
  rw [hevents, hroute]
  decide

end Dispatcher

end RouteChain
