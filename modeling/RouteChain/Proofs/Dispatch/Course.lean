import RouteChain.Dispatcher

/-!
# The course of a request

Whatever the actions do, a request goes on by small steps, each of which changes little of its
chain, until the chain is put by or given up. A chain that was put by goes on from there.

## Main definitions

* `Chain.Step`, `Chain.Steps` — one step of a request, and some steps with all that happened on
  them.
* `Chain.Stop` — what may still happen before a chain is given up.
* `Chain.Course` — the runs that consist of steps and then leave the chain.
* `Dispatcher.serve` — the whole run of a request, with all that is done to a chain that was put by.

The main result is `Dispatcher.course_serve`: the whole run of a request is such a course.
-/

namespace RouteChain

variable {σ ρ : Type}

def Fit.params? : Fit → Option Params
  | .misses => none
  | .hits => some .empty
  | .binds params => some params

def Fate.chain : Fate σ ρ → Chain σ ρ
  | .gone chain _ | .held _ chain => chain

namespace Chain

/-! ## Steps -/

def past (chain : Chain σ ρ) (count : Nat) : Chain σ ρ :=
  { chain with ahead := chain.ahead.drop count, cursor := chain.cursor + count }

@[simp] theorem past_zero (chain : Chain σ ρ) : chain.past 0 = chain := rfl

@[simp] theorem skip_past (chain : Chain σ ρ) (count : Nat) :
    (chain.past count).skip = chain.past (count + 1) := by
  simp [past, skip, Nat.add_assoc]

@[simp] theorem request_past (chain : Chain σ ρ) (count : Nat) :
    (chain.past count).request = chain.request := rfl

@[simp] theorem error_past (chain : Chain σ ρ) (count : Nat) :
    (chain.past count).error = chain.error := rfl

variable [ResponseWriter σ]

/-- One step of a request: something is written or changed, an error or a note is told, or control
goes to the next entry that matches, past some that do not. -/
inductive Step : Chain σ ρ → List (Happening ρ) → Chain σ ρ → Prop
  | write (chain : Chain σ ρ) (response : σ) : Step chain [] { chain with response }
  | edit (chain : Chain σ ρ) (request : Request) : Step chain [] { chain with request }
  | flag (chain : Chain σ ρ) (cause : Cause) :
      Step chain [.flagged cause] { chain with error := some cause }
  | tell (chain : Chain σ ρ) (note : ρ) : Step chain [.told note] chain
  | enter (chain : Chain σ ρ) (count : Nat) (entry : RouteEntry ρ) (params : Params) :
      chain.error = none →
      (∀ other ∈ chain.ahead.take count,
        other.fit chain.request.method chain.request.path = .misses) →
      chain.ahead[count]? = some entry →
      (entry.fit chain.request.method chain.request.path).params? = some params →
      Step chain (.handedOn chain.view :: (chain.past count).invocation entry params)
        ((chain.past count).enter entry params)

/-- Some steps of a request, with all that happened on them. -/
inductive Steps (start : Chain σ ρ) : List (Happening ρ) → Chain σ ρ → Prop
  | refl : Steps start [] start
  | tail {log last : List (Happening ρ)} {chain next : Chain σ ρ} :
      Steps start log chain → Step chain last next → Steps start (log ++ last) next

theorem Step.steps {chain next : Chain σ ρ} {log : List (Happening ρ)} (h : Step chain log next) :
    Steps chain log next :=
  .tail .refl h

theorem Steps.trans {a b c : Chain σ ρ} {log others : List (Happening ρ)} (h : Steps a log b)
    (h' : Steps b others c) : Steps a (log ++ others) c := by
  induction h' with
  | refl => simpa using h
  | tail _ step ih =>
    rw [← List.append_assoc]
    exact .tail ih step

/-- Telling notes leaves the chain as it is. -/
theorem Steps.told (chain : Chain σ ρ) (notes : List ρ) :
    Steps chain (notes.map .told) chain := by
  induction notes with
  | nil => exact .refl
  | cons note notes ih => exact (Step.tell chain note).steps.trans ih

/-! ## Courses -/

/-- What may still happen before a chain is given up: nothing, or control is handed on and there is
no entry to go to. -/
inductive Stop : Chain σ ρ → List (Happening ρ) → Chain σ ρ → Prop
  | here (chain : Chain σ ρ) : Stop chain [] chain
  | passed (chain : Chain σ ρ) (count : Nat) :
      (chain.error = none →
        ∀ entry ∈ chain.ahead, entry.fit chain.request.method chain.request.path = .misses) →
      Stop chain [.handedOn chain.view] (chain.past count)

/-- The runs that take some steps from a chain and then put it by or give it up. Nobody who has put
a chain by has panicked with it. Where a chain was given up there was such a panic only if its
request failed or its fallback panicked, and nothing but notes comes after that. -/
inductive Course (start : Chain σ ρ) (run : Run σ ρ) : Prop
  | held {chain : Chain σ ρ} (slot : Nat) :
      Steps start run.log chain → run.fate = .held slot chain → run.panicked = false →
      Course start run
  | gone {log last : List (Happening ρ)} {chain left : Chain σ ρ} (notes : List ρ) :
      Steps start log chain → Stop chain last left →
      run.log = log ++ last ++ left.giveUp.log ++ notes.map .told →
      run.fate = .gone left left.close.response →
      (run.panicked = true → left.error ≠ none ∨ left.close.panicked = true) → Course start run

namespace Course

/-- A course after some steps is a course. -/
theorem after {start chain : Chain σ ρ} {log : List (Happening ρ)} {run : Run σ ρ}
    (h : Steps start log chain) (course : Course chain run) : Course start (run.after log) := by
  cases course with
  | held slot steps fate calm =>
    refine .held slot ?_ fate calm
    rw [Run.log_after]
    exact h.trans steps
  | gone notes steps stop hlog fate why =>
    refine .gone notes (h.trans steps) stop ?_ fate why
    simp [hlog]

/-- Giving a chain up is a course. -/
theorem giveUp (chain : Chain σ ρ) : Course chain chain.giveUp :=
  .gone [] .refl (.here chain) (by simp) rfl .inr

/-- Giving the chain of a failed request up is a course, even if a panic goes on. -/
theorem giveUp_failed (chain : Chain σ ρ) (failed : chain.error ≠ none) :
    Course chain { chain.giveUp with panicked := true } :=
  .gone [] .refl (.here chain) (List.append_nil _).symm rfl fun _ => .inl failed

/-- Unwinding is a course. -/
theorem unwind (chain : Chain σ ρ) : Course chain { chain.unwind with panicked := true } := by
  unfold Chain.unwind
  split
  · rename_i failed
    exact giveUp_failed chain (by simp [failed])
  · exact .after (Step.flag chain .panicked).steps (giveUp_failed _ (by simp))

/-- What a chain leaves behind is its writer as its request was brought to an end. -/
theorem final_eq {start chain : Chain σ ρ} {run : Run σ ρ} {final : σ} (course : Course start run)
    (fate : run.fate = .gone chain final) : final = chain.close.response := by
  cases course with
  | held slot _ held => simp [fate] at held
  | gone notes steps stop hlog gone =>
    obtain ⟨rfl, rfl⟩ : chain = _ ∧ final = _ := by simpa [fate] using gone
    rfl

/-- A course that is followed by notes is a course, unless they come with a new panic. -/
theorem followedBy {start : Chain σ ρ} {run other : Run σ ρ} (course : Course start run)
    (notes : List ρ) (hlog : other.log = run.log ++ notes.map .told)
    (hfate : other.fate = run.fate) (why : other.panicked = true → run.panicked = true) :
    Course start other := by
  cases course with
  | @held chain slot steps fate calm =>
    refine .held slot ?_ (hfate.trans fate) (Bool.eq_false_iff.mpr fun panicked => ?_)
    · rw [hlog]
      exact steps.trans (.told chain notes)
    · exact Bool.false_ne_true (calm.symm.trans (why panicked))
  | gone earlier steps stop hrun fate failed =>
    refine .gone (earlier ++ notes) steps stop ?_ (hfate.trans fate) (failed ∘ why)
    simp [hlog, hrun]

/-- Stopping a panic adds a note at most. -/
theorem contain {start : Chain σ ρ} {run : Run σ ρ} (note : ρ) (course : Course start run) :
    Course start (run.contain [.told note]) := by
  unfold Run.contain
  split
  · exact course.followedBy [note] (run.log_followedBy _) rfl (by simp)
  · exact course

/-- What an action does without its chain adds notes at most. -/
theorem conclude {start : Chain σ ρ} {run : Run σ ρ} (rest : Aftermath ρ)
    (course : Course start run) : Course start (run.conclude rest) := by
  unfold Run.conclude
  split
  · exact course
  · exact course.followedBy rest.notes (run.log_followedBy _) rfl id

end Course

/-! ## Runs of actions -/

/-- The course of an action, if handing on a chain with these entries ahead is a course. -/
theorem course_run {ahead : List (RouteEntry ρ)} {next : Chain σ ρ → Run σ ρ}
    (hnext : ∀ chain, chain.ahead = ahead → Course chain (next chain)) (behaviour : Behaviour ρ)
    (chain : Chain σ ρ) (h : chain.ahead = ahead) : Course chain (behaviour.run next chain) := by
  induction behaviour generalizing chain with
  | look k ih => exact ih chain.view chain h
  | write call k ih =>
    let written := call.apply chain.response
    exact (ih written.1 { chain with response := written.2 } h).after
      (Step.write chain written.2).steps
  | edit change k ih =>
    let request := change chain.request
    exact (ih { chain with request } h).after (Step.edit chain request).steps
  | takeBody k ih =>
    let request := { chain.request with body := none }
    exact (ih chain.request.body { chain with request } h).after (Step.edit chain request).steps
  | flag cause k ih =>
    exact (ih { chain with error := some cause } h).after (Step.flag chain cause).steps
  | tell note k ih => exact (ih chain h).after (Step.tell chain note).steps
  | pass => exact hnext chain h
  | send status body =>
    let sent := chain.edit [.status status, .append body]
    exact (Course.giveUp sent).after (Step.write chain sent.response).steps
  | fail cause =>
    exact (hnext { chain with error := some cause } h).after (Step.flag chain cause).steps
  | drop => exact .giveUp chain
  | panic => exact .unwind chain
  | hold slot => exact .held slot .refl rfl rfl
  | thread body note ih => exact (ih chain h).contain note
  | andThen body rest ih => exact (ih chain h).conclude rest

/-- Handing a chain to the next of these entries, which stand behind some that do not match. -/
theorem course_advance (ahead : List (RouteEntry ρ)) (chain : Chain σ ρ) (count : Nat)
    (hahead : chain.ahead.drop count = ahead)
    (hmiss : chain.error = none → ∀ entry ∈ chain.ahead.take count,
      entry.fit chain.request.method chain.request.path = .misses) :
    Course chain ((advance ahead (chain.past count)).after [.handedOn chain.view]) := by
  induction ahead generalizing chain count with
  | nil =>
    refine .gone [] .refl (.passed chain count fun calm entry mem => ?_) (by simp [advance]) rfl
      .inr
    have all : chain.ahead.take count = chain.ahead := by
      simpa [hahead] using List.take_append_drop count chain.ahead
    exact hmiss calm entry (by rwa [all])
  | cons entry ahead ih =>
    have hentry : chain.ahead[count]? = some entry := by
      rw [← List.head?_drop, hahead, List.head?_cons]
    have htail : chain.ahead.drop (count + 1) = ahead := by
      rw [← List.tail_drop, hahead, List.tail_cons]
    have hnext (other : Chain σ ρ) (h : other.ahead = ahead) :
        Course other (handOn (advance ahead) other) :=
      ih other 0 h (by simp)
    -- the action of an entry that matches runs with the entries behind it ahead
    have hrun (params : Params) (calm : chain.error = none)
        (hfit : (entry.fit chain.request.method chain.request.path).params? = some params) :
        Course chain ((entry.action.run (handOn (advance ahead))
          ((chain.past count).enter entry params)).after
            (.handedOn chain.view :: (chain.past count).invocation entry params)) := by
      refine (course_run hnext entry.action _ ?_).after
        (Step.enter chain count entry params calm (hmiss calm) hentry hfit).steps
      simp [enter, past, htail]
    cases failed : chain.error with
    | some cause =>
      exact .gone [] .refl (.passed chain count (by simp [failed])) (by simp [advance, failed])
        (by simp [advance, failed, giveUp]) fun _ => .inl (by simp [failed])
    | none =>
      cases hfit : entry.fit chain.request.method chain.request.path with
      | misses =>
        have hskip := ih chain (count + 1) htail (fun calm other mem => by
          rw [List.take_add_one, hentry] at mem
          rcases List.mem_append.mp mem with mem | mem
          · exact hmiss calm other mem
          · grind)
        simpa [advance, failed, hfit] using hskip
      | hits => simpa [advance, failed, hfit] using hrun .empty failed (by simp [hfit, Fit.params?])
      | binds params =>
        simpa [advance, failed, hfit] using hrun params failed (by simp [hfit, Fit.params?])

/-- Handing a chain on is a course. -/
theorem course_next (chain : Chain σ ρ) : Course chain chain.next :=
  course_advance chain.ahead chain 0 rfl (by simp)

/-- Going on with a chain that was put by is a course. -/
theorem course_resume (chain : Chain σ ρ) (behaviour : Behaviour ρ) :
    Course chain (chain.resume behaviour) :=
  course_run (fun other _ => course_next other) behaviour chain rfl

end Chain

/-! ## Whole runs -/

/-- What is done to a chain that was put by: meanwhile others may have called its writer, and then
whoever kept it goes on with it. -/
structure Resumption (σ ρ : Type) where
  meanwhile : σ → σ
  behaviour : Behaviour ρ

variable [ResponseWriter σ]

/-- The run with a resumption, if its chain was put by. -/
def Run.goOn (run : Run σ ρ) (resumption : Resumption σ ρ) : Run σ ρ :=
  match run.fate with
  | .gone _ _ => run
  | .held _ chain =>
    let response := resumption.meanwhile chain.response
    (({ chain with response } : Chain σ ρ).resume resumption.behaviour).after run.log

/-- A run that has given its chain up is over: there is nothing left that could be resumed. -/
theorem Run.foldl_goOn_of_gone {run : Run σ ρ} {chain : Chain σ ρ} {final : σ}
    (fate : run.fate = .gone chain final) (resumptions : List (Resumption σ ρ)) :
    resumptions.foldl Run.goOn run = run := by
  have hgoOn (resumption : Resumption σ ρ) : run.goOn resumption = run := by
    simp [Run.goOn, fate]
  induction resumptions with
  | nil => rfl
  | cons resumption resumptions ih => rw [List.foldl_cons, hgoOn, ih]

/-- What happened before is still there when somebody goes on with the chain of a run. -/
theorem Run.goOn_after (run : Run σ ρ) (log : List (Happening ρ)) (resumption : Resumption σ ρ) :
    (run.after log).goOn resumption = (run.goOn resumption).after log := by
  cases fate : run.fate <;> simp [goOn, fate]

theorem Run.foldl_goOn_after (run : Run σ ρ) (log : List (Happening ρ))
    (resumptions : List (Resumption σ ρ)) :
    resumptions.foldl goOn (run.after log) = (resumptions.foldl goOn run).after log := by
  induction resumptions generalizing run with
  | nil => rfl
  | cons resumption resumptions ih => rw [List.foldl_cons, goOn_after, ih, List.foldl_cons]

/-- What is done to the chain of a run depends on nothing but what has become of it. -/
theorem Run.exists_later {run other : Run σ ρ} (h : other.fate = run.fate)
    (resumptions : List (Resumption σ ρ)) :
    ∃ later, (resumptions.foldl goOn run).log = run.log ++ later ∧
      (resumptions.foldl goOn other).log = other.log ++ later := by
  cases fate : run.fate with
  | gone chain final =>
    refine ⟨[], ?_⟩
    rw [foldl_goOn_of_gone fate, foldl_goOn_of_gone (h.trans fate)]
    simp
  | held slot chain =>
    cases resumptions with
    | nil => exact ⟨[], by simp⟩
    | cons resumption resumptions =>
      let response := resumption.meanwhile chain.response
      let next := ({ chain with response } : Chain σ ρ).resume resumption.behaviour
      have hrun : run.goOn resumption = next.after run.log := by simp [goOn, fate, next, response]
      have hother : other.goOn resumption = next.after other.log := by
        simp [goOn, h, fate, next, response]
      refine ⟨(resumptions.foldl goOn next).log, ?_⟩
      rw [List.foldl_cons, List.foldl_cons, hrun, hother, foldl_goOn_after, foldl_goOn_after,
        log_after, log_after]
      exact ⟨rfl, rfl⟩

namespace Dispatcher

/-- The whole run of a request: it is dispatched, and resumed whenever it was put by. -/
def serve (dispatcher : Dispatcher ρ) (request : Request) (response : σ)
    (resumptions : List (Resumption σ ρ)) : Run σ ρ :=
  resumptions.foldl Run.goOn (dispatcher.dispatch request response)

end Dispatcher

open Chain

/-- A resumption continues a course. -/
theorem Chain.Course.goOn {start : Chain σ ρ} {run : Run σ ρ} (course : Course start run)
    (resumption : Resumption σ ρ) : Course start (run.goOn resumption) := by
  unfold Run.goOn
  cases course with
  | @held chain slot steps fate calm =>
    rw [fate]
    have meanwhile := steps.tail (Step.write chain (resumption.meanwhile chain.response))
    rw [List.append_nil] at meanwhile
    exact (course_resume _ _).after meanwhile
  | gone notes steps stop hlog fate why =>
    rw [fate]
    exact .gone notes steps stop hlog fate why

theorem Chain.Course.foldl_goOn {start : Chain σ ρ} {run : Run σ ρ} (course : Course start run)
    (resumptions : List (Resumption σ ρ)) : Course start (resumptions.foldl Run.goOn run) := by
  induction resumptions generalizing run with
  | nil => exact course
  | cons resumption resumptions ih => exact ih (course.goOn resumption)

/-- The whole run of a request is a course. -/
theorem Dispatcher.course_serve (dispatcher : Dispatcher ρ) (request : Request) (response : σ)
    (resumptions : List (Resumption σ ρ)) :
    Course (dispatcher.start request response)
      (dispatcher.serve request response resumptions) :=
  (course_next (dispatcher.start request response)).foldl_goOn resumptions

end RouteChain
