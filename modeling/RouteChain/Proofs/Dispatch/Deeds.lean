import RouteChain.Proofs.Dispatch.Invocation

/-!
# What the actions do to a response

Not everything an action does has to do with the response of its request. What counts is the calls
that it makes on the writer, the answer that it sends, and that it panics. These deeds follow one
another through all actions to which control is handed.

## Main definitions

* `Deed` — what an action does that has to do with the response.
* `Deed.effect` — the writer after some deeds.
* `Behaviour.deeds`, `Chain.deeds` — the deeds of an action and of those to which it hands control.
* `Episode` — what is done to a chain that was put by.
* `Dispatcher.deeds` — the deeds in the whole run of a request.

The main result is `Dispatcher.does_serve`: the deeds of a request tell all that has been done to
its writer by the time its chain is given up or put by.
-/

namespace RouteChain

variable {σ ρ : Type}

/-! ## Deeds -/

/-- What an action does that has to do with the response. -/
inductive Deed where
  /-- It makes a call on the writer. -/
  | called (call : WriterCall)
  /-- It sends an answer. -/
  | sent (status : Nat) (body : Bytes)
  /-- It panics while it has the chain. -/
  | panicked
  deriving Repr, DecidableEq

namespace Deed

def calls : Deed → List WriterCall
  | .called call => [call]
  | .sent status body => [.edit (.status status), .edit (.append body)]
  | .panicked => []

/-- A response is ended by calls that actions make themselves, and by no other deed. -/
theorem finish_mem_calls {deeds : List Deed} :
    .finish ∈ deeds.flatMap calls ↔ .called .finish ∈ deeds := by
  rw [List.mem_flatMap]
  constructor
  · rintro ⟨deed, mem, hcalls⟩
    cases deed <;> simp_all [calls]
  · exact fun mem => ⟨_, mem, List.mem_singleton_self _⟩

variable [ResponseWriter σ]

def effect (writer : σ) (deeds : List Deed) : σ :=
  (WriterCall.applyAll writer (deeds.flatMap calls)).2

@[simp] theorem effect_nil (writer : σ) : effect writer [] = writer := rfl

theorem effect_append (writer : σ) (deeds others : List Deed) :
    effect writer (deeds ++ others) = effect (effect writer deeds) others := by
  rw [effect, List.flatMap_append, WriterCall.applyAll_append]
  rfl

/-- Calls that are made one after the other are as many deeds. -/
theorem effect_map_called (writer : σ) (made : List WriterCall) :
    effect writer (made.map .called) = (WriterCall.applyAll writer made).2 := by
  simp [effect, List.flatMap_map, calls]

end Deed

section

variable [ResponseWriter σ]

/-- The deeds of an action that is handed this chain, where `next` are those that come of a chain
that is handed on. -/
def Behaviour.deeds (next : Chain σ ρ → List Deed) : Behaviour ρ → Chain σ ρ → List Deed
  | .look k, chain => (k chain.view).deeds next chain
  | .write call k, chain =>
    let (reply, response) := call.apply chain.response
    .called call :: (k reply).deeds next { chain with response }
  | .edit change k, chain => k.deeds next { chain with request := change chain.request }
  | .takeBody k, chain =>
    (k chain.request.body).deeds next { chain with request := { chain.request with body := none } }
  | .flag cause k, chain => k.deeds next { chain with error := some cause }
  | .tell _ k, chain => k.deeds next chain
  | .pass, chain => next chain
  | .send status body, _ => [.sent status body]
  | .fail cause, chain => next { chain with error := some cause }
  | .drop, _ | .hold _, _ => []
  | .panic, _ => [.panicked]
  | .thread body _, chain | .andThen body _, chain => body.deeds next chain

namespace Chain

/-- The deeds that come of handing a chain to the first of these entries that matches. -/
def deedsAhead : List (RouteEntry ρ) → Chain σ ρ → List Deed
  | [], _ => []
  | entry :: ahead, chain =>
    if chain.error.isSome then []
    else
      match entry.fit chain.request.method chain.request.path with
      | .misses => deedsAhead ahead chain.skip
      | .hits => entry.action.deeds (deedsAhead ahead) (chain.enter entry .empty)
      | .binds params => entry.action.deeds (deedsAhead ahead) (chain.enter entry params)

/-- The deeds that come of handing a chain to the next entry that matches. -/
def nextDeeds (chain : Chain σ ρ) : List Deed :=
  deedsAhead chain.ahead chain

def deeds (chain : Chain σ ρ) (behaviour : Behaviour ρ) : List Deed :=
  behaviour.deeds nextDeeds chain

end Chain

end

/-! ## Runs -/

variable [ResponseWriter σ]

/-- The deeds account for all that has been done to the writer in a run that starts from this one,
up to the moment when the chain is given up or put by. An action that panics has its chain given up,
and the request has then failed. There is no deed after that. -/
structure Run.Does (run : Run σ ρ) (start : σ) (deeds : List Deed) : Prop where
  written : run.fate.chain.response = Deed.effect start deeds
  failed : ∀ before after, deeds = before ++ .panicked :: after →
    after = [] ∧ ∃ chain final, run.fate = .gone chain final ∧ chain.error.isSome = true

namespace Run.Does

variable {run : Run σ ρ} {start : σ} {deeds : List Deed}

theorem of_fate {other : Run σ ρ} (h : run.Does start deeds) (hfate : other.fate = run.fate) :
    other.Does start deeds :=
  ⟨hfate ▸ h.written, hfate ▸ h.failed⟩

theorem of_calm (written : run.fate.chain.response = Deed.effect start deeds)
    (calm : .panicked ∉ deeds) : run.Does start deeds :=
  ⟨written, fun before after hdeeds => absurd (by simp [hdeeds]) calm⟩

/-- The deeds before a run account for what it starts from. -/
theorem append (earlier : List Deed) (h : run.Does (Deed.effect start earlier) deeds)
    (calm : .panicked ∉ earlier) : run.Does start (earlier ++ deeds) where
  written := h.written.trans (Deed.effect_append start earlier deeds).symm
  failed before after hdeeds := by
    obtain ⟨rest, hearlier, -⟩ | ⟨rest, hrest, -⟩ := eq_append_cons_of_append hdeeds
    · exact absurd (by simp [hearlier]) calm
    · exact h.failed rest after hrest

/-- A chain that is given up without further ado. -/
theorem giveUp (chain : Chain σ ρ) : chain.giveUp.Does chain.response [] :=
  of_calm rfl List.not_mem_nil

/-- A panic leaves the writer to the chain as it is. -/
theorem unwind (chain : Chain σ ρ) : chain.unwind.Does chain.response [.panicked] := by
  have last {before after : List Deed} (h : [.panicked] = before ++ .panicked :: after) :
      after = [] := by
    cases before with
    | nil => exact (List.cons.inj h).2.symm
    | cons deed rest => simp at h
  unfold Chain.unwind
  split
  · rename_i failed
    exact ⟨rfl, fun _ _ hdeeds => ⟨last hdeeds, _, _, rfl, by simp [failed]⟩⟩
  · exact ⟨rfl, fun _ _ hdeeds => ⟨last hdeeds, _, _, rfl, rfl⟩⟩

end Run.Does

/-! ## Actions and entries -/

/-- The deeds of an action account for what it does to the writer, if those that come of a chain
that is handed on do. -/
theorem Behaviour.does_run {ahead : List (RouteEntry ρ)} {next : Chain σ ρ → Run σ ρ}
    {nextDeeds : Chain σ ρ → List Deed}
    (hnext : ∀ chain, chain.ahead = ahead → (next chain).Does chain.response (nextDeeds chain))
    (behaviour : Behaviour ρ) (chain : Chain σ ρ) (h : chain.ahead = ahead) :
    (behaviour.run next chain).Does chain.response (behaviour.deeds nextDeeds chain) := by
  induction behaviour generalizing chain with
  | look k ih => exact ih chain.view chain h
  | write call k ih =>
    let written := call.apply chain.response
    exact (ih written.1 { chain with response := written.2 } h).append [.called call] (by simp)
  | edit change k ih => exact ih { chain with request := change chain.request } h
  | takeBody k ih =>
    exact ih chain.request.body { chain with request := { chain.request with body := none } } h
  | flag cause k ih => exact (ih { chain with error := some cause } h).of_fate rfl
  | tell note k ih => exact (ih chain h).of_fate rfl
  | pass => exact hnext chain h
  | send status body => exact .of_calm rfl (by simp [deeds])
  | fail cause => exact (hnext { chain with error := some cause } h).of_fate rfl
  | drop => exact .giveUp chain
  | panic => exact (Run.Does.unwind chain).of_fate rfl
  | hold slot => exact .of_calm rfl List.not_mem_nil
  | thread body note ih => exact (ih chain h).of_fate (Run.fate_contain _ _)
  | andThen body rest ih => exact (ih chain h).of_fate (Run.fate_conclude _ _)

namespace Chain

/-- The same for a chain that is handed to the first of some entries that matches. -/
theorem does_advance (ahead : List (RouteEntry ρ)) (chain : Chain σ ρ) (h : chain.ahead = ahead) :
    (advance ahead chain).Does chain.response (deedsAhead ahead chain) := by
  induction ahead generalizing chain with
  | nil => exact .giveUp chain
  | cons entry ahead ih =>
    have htail : chain.ahead.tail = ahead := by rw [h, List.tail_cons]
    have hnext (other : Chain σ ρ) (hother : other.ahead = ahead) :
        (handOn (advance ahead) other).Does other.response (deedsAhead ahead other) :=
      (ih other hother).of_fate rfl
    have hrun (params : Params) :
        ((entry.action.run (handOn (advance ahead)) (chain.enter entry params)).after
          (chain.invocation entry params)).Does chain.response
            (entry.action.deeds (deedsAhead ahead) (chain.enter entry params)) :=
      (entry.action.does_run hnext (chain.enter entry params) htail).of_fate rfl
    have hskip : (advance ahead chain.skip).Does chain.response (deedsAhead ahead chain.skip) :=
      ih chain.skip htail
    cases failed : chain.error with
    | some cause => simpa [advance, deedsAhead, failed] using Run.Does.giveUp chain
    | none =>
      cases hfit : entry.fit chain.request.method chain.request.path with
      | misses => simpa [advance, deedsAhead, failed, hfit] using hskip
      | hits => simpa [advance, deedsAhead, failed, hfit] using hrun .empty
      | binds params => simpa [advance, deedsAhead, failed, hfit] using hrun params

theorem does_next (chain : Chain σ ρ) : chain.next.Does chain.response chain.nextDeeds :=
  (does_advance chain.ahead chain rfl).of_fate rfl

theorem does_resume (chain : Chain σ ρ) (behaviour : Behaviour ρ) :
    (chain.resume behaviour).Does chain.response (chain.deeds behaviour) :=
  behaviour.does_run (fun other _ => does_next other) chain rfl

end Chain

/-! ## Whole runs -/

/-- What is done to a chain that was put by: meanwhile others who have its writer make some calls,
and then whoever kept it goes on with it. -/
structure Episode (ρ : Type) where
  meanwhile : List WriterCall := []
  behaviour : Behaviour ρ

def Episode.resumption (episode : Episode ρ) : Resumption σ ρ :=
  ⟨fun writer => (WriterCall.applyAll writer episode.meanwhile).2, episode.behaviour⟩

namespace Run

/-- The deeds of an episode, if somebody keeps the chain. The calls that others make are among
them. -/
def deedsIn (run : Run σ ρ) (episode : Episode ρ) : List Deed :=
  match run.fate with
  | .gone _ _ => []
  | .held _ chain =>
    let response := (WriterCall.applyAll chain.response episode.meanwhile).2
    episode.meanwhile.map .called ++
      ({ chain with response } : Chain σ ρ).deeds episode.behaviour

def laterDeeds (run : Run σ ρ) : List (Episode ρ) → List Deed
  | [] => []
  | episode :: episodes =>
    run.deedsIn episode ++ (run.goOn episode.resumption).laterDeeds episodes

variable {run : Run σ ρ} {start : σ} {deeds : List Deed}

/-- The deeds of an episode come after those before it. -/
theorem Does.goOn (h : run.Does start deeds) (episode : Episode ρ) :
    (run.goOn episode.resumption).Does start (deeds ++ run.deedsIn episode) := by
  unfold Run.goOn deedsIn
  cases fate : run.fate with
  | gone chain final => simpa [fate] using h
  | held slot chain =>
    have calm : .panicked ∉ deeds := by
      intro mem
      obtain ⟨before, after, hdeeds⟩ := List.append_of_mem mem
      obtain ⟨-, chain, final, gone, -⟩ := h.failed before after hdeeds
      simp [fate] at gone
    have hwriter : chain.response = Deed.effect start deeds := by
      simpa [fate, Fate.chain] using h.written
    have hmeanwhile : (WriterCall.applyAll chain.response episode.meanwhile).2 =
        Deed.effect start (deeds ++ episode.meanwhile.map .called) := by
      rw [Deed.effect_append, Deed.effect_map_called, hwriter]
    rw [← List.append_assoc]
    refine Does.append _ (Does.of_fate ?_ (Run.fate_after _ _)) (by simp [calm])
    rw [← hmeanwhile]
    exact Chain.does_resume _ episode.behaviour

theorem Does.foldl_goOn (h : run.Does start deeds) (episodes : List (Episode ρ)) :
    ((episodes.map Episode.resumption).foldl Run.goOn run).Does start
      (deeds ++ run.laterDeeds episodes) := by
  induction episodes generalizing run deeds with
  | nil => simpa [laterDeeds] using h
  | cons episode episodes ih =>
    rw [laterDeeds, ← List.append_assoc]
    exact ih (h.goOn episode)

end Run

namespace Dispatcher

def deeds (dispatcher : Dispatcher ρ) (request : Request) (response : σ)
    (episodes : List (Episode ρ)) : List Deed :=
  (dispatcher.start request response).nextDeeds ++
    (dispatcher.dispatch request response).laterDeeds episodes

/-- The deeds of a request account for all that is done to its writer until its chain is given up or
put by, whatever the actions do and whatever calls others make in between. -/
theorem does_serve (dispatcher : Dispatcher ρ) (request : Request) (response : σ)
    (episodes : List (Episode ρ)) :
    (dispatcher.serve request response (episodes.map Episode.resumption)).Does response
      (dispatcher.deeds request response episodes) :=
  (dispatcher.start request response).does_next.foldl_goOn episodes

end Dispatcher

end RouteChain
