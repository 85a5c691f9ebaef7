import RouteChain.Proofs.Dispatch.Closing
import RouteChain.Proofs.Dispatch.Course

/-!
# Comparing runs with different writers

The same actions do the same with two writers that cannot be told apart by calling them. They also
do the same if only the replies to attempts to end the response differ, as long as no action looks
at those.

## Main definitions

* `Chain.map`, `Run.map` — a chain and a run with another writer.
* `Follows`, `Agrees` — a writer that goes along with another one, and one that replies alike.
* `Behaviour.Heedless` — actions that do not look at what came of ending the response.
* `Comparison` — a relation between runs that goes through all that runs are made of.

The main results are `Comparison.next` and `Comparison.resume`, by which a comparison holds between
the runs of two such writers, and `Dispatcher.serve_map`: with writers that reply alike whole runs
are the same.
-/

namespace RouteChain

variable {σ τ ρ : Type}

/-! ## Another writer -/

def Chain.map (f : σ → τ) (chain : Chain σ ρ) : Chain τ ρ where
  ahead := chain.ahead
  fallback := chain.fallback
  request := chain.request
  response := f chain.response
  cursor := chain.cursor
  error := chain.error
  matched := chain.matched

def Fate.map (f : σ → τ) : Fate σ ρ → Fate τ ρ
  | .gone chain response => .gone (chain.map f) (f response)
  | .held slot chain => .held slot (chain.map f)

@[simp] theorem Fate.response_map (f : σ → τ) (fate : Fate σ ρ) :
    (fate.map f).response = f fate.response := by
  cases fate <;> rfl

def Run.map (f : σ → τ) (run : Run σ ρ) : Run τ ρ where
  early := run.early
  fate := run.fate.map f
  late := run.late
  panicked := run.panicked
  strayed := run.strayed

variable [ResponseWriter σ] [ResponseWriter τ]

/-- A writer that goes along with another one: it shows the same and is changed alike, but may reply
differently when it is ended. -/
structure Follows (f : σ → τ) : Prop where
  status : ∀ writer, ResponseWriter.status (f writer) = ResponseWriter.status writer
  isEnded : ∀ writer, ResponseWriter.isEnded (f writer) = ResponseWriter.isEnded writer
  edit : ∀ writer change,
    ResponseWriter.edit (f writer) change = f (ResponseWriter.edit writer change)
  finish : ∀ writer, (ResponseWriter.finish (f writer)).2 = f (ResponseWriter.finish writer).2

/-- A writer that replies as another one does when it is ended. -/
def Agrees (f : σ → τ) : Prop :=
  ∀ writer, (ResponseWriter.finish (f writer)).1 = (ResponseWriter.finish writer).1

/-- The action goes on in the same way whatever came of its attempts to end the response. -/
def Behaviour.Heedless : Behaviour ρ → Prop
  | .look k => ∀ view, (k view).Heedless
  | .write call k =>
    (call = .finish → ∀ failure other, k (.finished failure) = k (.finished other)) ∧
      ∀ reply, (k reply).Heedless
  | .edit _ k | .flag _ k | .tell _ k => k.Heedless
  | .takeBody k => ∀ body, (k body).Heedless
  | .thread body _ | .andThen body _ => body.Heedless
  | .pass | .send _ _ | .fail _ | .drop | .panic | .hold _ => True

/-! ## Chains -/

namespace Chain

variable {f : σ → τ}

theorem view_map (hf : Follows f) (chain : Chain σ ρ) : (chain.map f).view = chain.view := by
  simp [view, map, position, hf.status, hf.isEnded]

theorem edit_map (hf : Follows f) (chain : Chain σ ρ) (changes : List Edit) :
    (chain.map f).edit changes = (chain.edit changes).map f := by
  have h : ∀ writer, changes.foldl ResponseWriter.edit (f writer) =
      f (changes.foldl ResponseWriter.edit writer) := by
    induction changes with
    | nil => exact fun _ => rfl
    | cons change changes ih =>
      intro writer
      rw [List.foldl_cons, hf.edit, ih, List.foldl_cons]
  simp only [edit, map, h]

theorem invocation_map (hf : Follows f) (chain : Chain σ ρ) (entry : RouteEntry ρ)
    (params : Params) : (chain.map f).invocation entry params = chain.invocation entry params := by
  have h : (chain.map f).enter entry params = (chain.enter entry params).map f := rfl
  simp only [invocation, h, view_map hf]
  rfl

end Chain

/-- The fallback is due with both writers or with none. -/
theorem Chain.fallbackDue?_map {f : σ → τ} (hf : Follows f) (chain : Chain σ ρ) :
    (chain.map f).fallbackDue? = chain.fallbackDue? := by
  simp only [fallbackDue?, map, hf.isEnded, hf.status]

/-- Whatever it is called for, the other writer goes along. -/
theorem Follows.apply {f : σ → τ} (hf : Follows f) (writer : σ) (call : WriterCall) :
    (call.apply (f writer)).2 = f (call.apply writer).2 := by
  cases call <;> simp only [WriterCall.apply, hf.edit, hf.finish]

/-! ## Comparisons -/

/-- A relation between the runs with two writers, the second of which goes along with the first. It
holds between runs that put a chain by or give it up, and goes through all that is made of them. -/
structure Comparison (f : σ → τ) (fallback : Option (Fallback ρ))
    (R : Run σ ρ → Run τ ρ → Prop) : Prop where
  follows : Follows f
  held : ∀ slot chain, R { fate := .held slot chain } { fate := .held slot (chain.map f) }
  giveUp : ∀ chain : Chain σ ρ, chain.fallback = fallback → R chain.giveUp (chain.map f).giveUp
  after : ∀ {run other} log, R run other → R (run.after log) (other.after log)
  panic : ∀ {run other}, R run other →
    R { run with panicked := true } { other with panicked := true }
  contain : ∀ {run other} note, R run other →
    R (run.contain [.told note]) (other.contain [.told note])
  conclude : ∀ {run other} rest, R run other → R (run.conclude rest) (other.conclude rest)

namespace Comparison

variable {f : σ → τ} {fallback : Option (Fallback ρ)} {R : Run σ ρ → Run τ ρ → Prop}

theorem unwind (hR : Comparison f fallback R) (chain : Chain σ ρ) (h : chain.fallback = fallback) :
    R chain.unwind (chain.map f).unwind := by
  unfold Chain.unwind
  cases failed : chain.error with
  | some cause =>
    have hmap : (chain.map f).error = some cause := failed
    simp only [hmap]
    exact hR.giveUp chain h
  | none =>
    have hmap : (chain.map f).error = none := failed
    simp only [hmap]
    exact hR.after _ (hR.giveUp { chain with error := some .panicked } h)

/-- The runs of an action with two writers compare, if those of a chain that is handed on do. -/
theorem run (hR : Comparison f fallback R) {ahead : List (RouteEntry ρ)}
    {next : Chain σ ρ → Run σ ρ} {next' : Chain τ ρ → Run τ ρ}
    (hnext : ∀ chain, chain.fallback = fallback ∧ chain.ahead = ahead →
      R (next chain) (next' (chain.map f)))
    (behaviour : Behaviour ρ) (quiet : Agrees f ∨ behaviour.Heedless) (chain : Chain σ ρ)
    (h : chain.fallback = fallback ∧ chain.ahead = ahead) :
    R (behaviour.run next chain) (behaviour.run next' (chain.map f)) := by
  induction behaviour generalizing chain with
  | look k ih =>
    have := ih chain.view (quiet.imp_right fun heedless => heedless chain.view) chain h
    simpa only [Behaviour.run, Chain.view_map hR.follows] using this
  | write call k ih =>
    have same : k (call.apply (f chain.response)).1 = k (call.apply chain.response).1 := by
      cases call with
      | finish =>
        rcases quiet with agrees | heedless
        · simp only [WriterCall.apply, agrees chain.response]
        · exact heedless.1 rfl _ _
      | edit change => rfl
      | status => simp only [WriterCall.apply, hR.follows.status]
      | isEnded => simp only [WriterCall.apply, hR.follows.isEnded]
    have := ih (call.apply chain.response).1 (quiet.imp_right fun heedless => heedless.2 _)
      { chain with response := (call.apply chain.response).2 } h
    simpa only [Behaviour.run, Chain.map, hR.follows.apply, same] using this
  | edit change k ih =>
    exact ih quiet { chain with request := change chain.request } h
  | takeBody k ih =>
    exact ih chain.request.body (quiet.imp_right fun heedless => heedless _)
      { chain with request := { chain.request with body := none } } h
  | flag cause k ih => exact hR.after _ (ih quiet { chain with error := some cause } h)
  | tell note k ih => exact hR.after _ (ih quiet chain h)
  | pass => exact hnext chain h
  | send status body =>
    have := hR.giveUp (chain.edit [.status status, .append body]) h.1
    simpa only [Behaviour.run, Chain.edit_map hR.follows] using this
  | fail cause => exact hR.after _ (hnext { chain with error := some cause } h)
  | drop => exact hR.giveUp chain h.1
  | panic => exact hR.panic (hR.unwind chain h.1)
  | hold slot => exact hR.held slot chain
  | thread body note ih => exact hR.contain note (ih quiet chain h)
  | andThen body rest ih => exact hR.conclude rest (ih quiet chain h)

theorem handOn (hR : Comparison f fallback R) {advance : Chain σ ρ → Run σ ρ}
    {advance' : Chain τ ρ → Run τ ρ} {chain : Chain σ ρ}
    (h : R (advance chain) (advance' (chain.map f))) :
    R (Chain.handOn advance chain) (Chain.handOn advance' (chain.map f)) := by
  have := hR.after [.handedOn chain.view] h
  simpa only [Chain.handOn, Chain.view_map hR.follows] using this

theorem advance (hR : Comparison f fallback R) (ahead : List (RouteEntry ρ))
    (quiet : Agrees f ∨ ∀ entry ∈ ahead, entry.action.Heedless) (chain : Chain σ ρ)
    (h : chain.fallback = fallback) :
    R (Chain.advance ahead chain) (Chain.advance ahead (chain.map f)) := by
  induction ahead generalizing chain with
  | nil => exact hR.giveUp chain h
  | cons entry ahead ih =>
    have hrest : Agrees f ∨ ∀ other ∈ ahead, other.action.Heedless :=
      quiet.imp_right fun heedless other mem => heedless other (List.mem_cons_of_mem _ mem)
    -- the action of the entry runs with the other writer as well
    have hrun (params : Params) :
        R ((entry.action.run (Chain.handOn (Chain.advance ahead)) (chain.enter entry params)).after
            (chain.invocation entry params))
          ((entry.action.run (Chain.handOn (Chain.advance ahead))
            ((chain.map f).enter entry params)).after ((chain.map f).invocation entry params)) := by
      rw [Chain.invocation_map hR.follows]
      refine hR.after _ (hR.run (fun other hother => hR.handOn (ih hrest other hother.1))
        entry.action ?_ (chain.enter entry params) ⟨h, rfl⟩)
      exact quiet.imp_right fun heedless => heedless entry List.mem_cons_self
    unfold Chain.advance
    have herror : (chain.map f).error = chain.error := rfl
    have hfit : entry.fit (chain.map f).request.method (chain.map f).request.path =
        entry.fit chain.request.method chain.request.path := rfl
    rw [herror, hfit]
    split
    · exact hR.giveUp chain h
    · split
      · exact ih hrest chain.skip h
      · exact hrun .empty
      · exact hrun _

/-- The runs of a chain with two writers compare. -/
theorem next (hR : Comparison f fallback R) (chain : Chain σ ρ) (h : chain.fallback = fallback)
    (quiet : Agrees f ∨ ∀ entry ∈ chain.ahead, entry.action.Heedless) :
    R chain.next (chain.map f).next :=
  hR.handOn (hR.advance chain.ahead quiet chain h)

/-- The runs of a chain that somebody goes on with compare. -/
theorem resume (hR : Comparison f fallback R) (chain : Chain σ ρ) (h : chain.fallback = fallback)
    (behaviour : Behaviour ρ) (quiet : Agrees f ∨ behaviour.Heedless)
    (hahead : Agrees f ∨ ∀ entry ∈ chain.ahead, entry.action.Heedless) :
    R (chain.resume behaviour) ((chain.map f).resume behaviour) :=
  hR.run (fun other hother => hR.next other hother.1 (by rwa [hother.2])) behaviour quiet chain
    ⟨h, rfl⟩

end Comparison

/-! ## Writers that reply alike -/

def Closing.map (f : σ → τ) (closing : Closing σ ρ) : Closing τ ρ where
  log := closing.log
  response := f closing.response
  panicked := closing.panicked

section Agreeing

variable {f : σ → τ}

/-- A fallback does the same with both writers. -/
theorem Answer.run_map (hf : Follows f) (agrees : Agrees f) (answer : Answer ρ) (writer : σ) :
    answer.run (f writer) = (answer.run writer).map f := by
  induction answer generalizing writer with
  | write call k ih =>
    have same : (call.apply (f writer)).1 = (call.apply writer).1 := by
      cases call with
      | edit change => rfl
      | finish => simp only [WriterCall.apply, agrees writer]
      | status => simp only [WriterCall.apply, hf.status]
      | isEnded => simp only [WriterCall.apply, hf.isEnded]
    simp only [run, same, hf.apply, ih]
  | tell note k ih =>
    simp only [run, ih]
    rfl
  | done => rfl
  | panic => rfl

namespace Chain

theorem finish_map (hf : Follows f) (agrees : Agrees f) (chain : Chain σ ρ) :
    (chain.map f).finish = chain.finish.map f := by
  simp only [finish, map, Closing.map, agrees chain.response, hf.finish]

theorem answered_map (hf : Follows f) (agrees : Agrees f) (chain : Chain σ ρ)
    (fallback : Fallback ρ) :
    (chain.map f).answered fallback = (chain.answered fallback).map f := by
  simp only [answered, map, Answer.run_map hf agrees]
  rfl

/-- A request is brought to its end in the same way with both writers. -/
theorem close_map (hf : Follows f) (agrees : Agrees f) (chain : Chain σ ρ) :
    (chain.map f).close = chain.close.map f := by
  have hended : ResponseWriter.isEnded (chain.map f).response =
      ResponseWriter.isEnded chain.response := hf.isEnded _
  cases failed : chain.error with
  | some cause =>
    have failed' : (chain.map f).error = some cause := failed
    simp only [close, failed, failed', abort, hended, edit_map hf, finish_map hf agrees]
    split <;> rfl
  | none =>
    have failed' : (chain.map f).error = none := failed
    simp only [close, failed, failed', complete_eq _ failed, complete_eq _ failed',
      fallbackDue?_map hf, hended, answered_map hf agrees, finish_map hf agrees]
    cases chain.fallbackDue? with
    | none =>
      dsimp only
      split <;> rfl
    | some fallback =>
      have hended' : ResponseWriter.isEnded ((chain.answered fallback).map f).response =
          ResponseWriter.isEnded (chain.answered fallback).response := hf.isEnded _
      have hpanicked : ((chain.answered fallback).map f).panicked =
          (chain.answered fallback).panicked := rfl
      simp only [hended', hpanicked]
      split
      · rfl
      · exact congrArg (Closing.after _)
          (finish_map hf agrees { chain with response := (chain.answered fallback).response })

end Chain

/-- Two writers that reply alike lead to the same run. -/
theorem comparison_map (hf : Follows f) (agrees : Agrees f) (fallback : Option (Fallback ρ)) :
    Comparison f fallback (fun run other => other = run.map f) where
  follows := hf
  held _ _ := rfl
  giveUp chain _ := by
    simp only [Chain.giveUp, Chain.close_map hf agrees]
    rfl
  after _ h := h ▸ rfl
  panic h := h ▸ rfl
  contain := by
    rintro ⟨early, fate, late, panicked, strayed⟩ _ note rfl
    cases panicked <;> cases strayed <;> rfl
  conclude := by
    rintro ⟨early, fate, late, panicked, strayed⟩ _ rest rfl
    cases panicked <;> cases strayed <;> rfl

theorem Chain.next_map (hf : Follows f) (agrees : Agrees f) (chain : Chain σ ρ) :
    (chain.map f).next = chain.next.map f :=
  (comparison_map hf agrees chain.fallback).next chain rfl (.inl agrees)

theorem Chain.resume_map (hf : Follows f) (agrees : Agrees f) (chain : Chain σ ρ)
    (behaviour : Behaviour ρ) : (chain.map f).resume behaviour = (chain.resume behaviour).map f :=
  (comparison_map hf agrees chain.fallback).resume chain rfl behaviour (.inl agrees) (.inl agrees)

end Agreeing

/-! ## Whole runs -/

/-- Somebody goes on with a chain that was put by, and nobody else has called its writer. -/
def Behaviour.resumption (behaviour : Behaviour ρ) : Resumption σ ρ :=
  ⟨id, behaviour⟩

/-- With two writers that reply alike, the whole run of a request is the same. -/
theorem Dispatcher.serve_map {f : σ → τ} (hf : Follows f) (agrees : Agrees f)
    (dispatcher : Dispatcher ρ) (request : Request) (writer : σ) (story : List (Behaviour ρ)) :
    dispatcher.serve request (f writer) (story.map Behaviour.resumption) =
      (dispatcher.serve request writer (story.map Behaviour.resumption)).map f := by
  have first : dispatcher.dispatch request (f writer) =
      (dispatcher.dispatch request writer).map f :=
    Chain.next_map hf agrees (dispatcher.start request writer)
  unfold serve
  rw [first]
  generalize dispatcher.dispatch request writer = run
  induction story generalizing run with
  | nil => rfl
  | cons behaviour story ih =>
    have hgoOn : (run.map f).goOn behaviour.resumption = (run.goOn behaviour.resumption).map f := by
      cases fate : run.fate with
      | gone chain response => simp only [Run.goOn, Run.map, fate, Fate.map]
      | held slot chain =>
        have := Chain.resume_map hf agrees chain behaviour
        simp only [Run.goOn, Run.map, fate, Fate.map]
        exact congrArg (Run.after run.log) this
    simp only [List.map_cons, List.foldl_cons, hgoOn, ih]

end RouteChain
