import RouteChain.Router.Entry

/-!
# Chains

The chain is the state of one request on its way through the entries. Whoever has the chain controls
the request.

## Main definitions

* `Chain` — a request, its writer, and the entries that are still ahead.
* `Happening` — what can be seen to happen while a request is served.
* `Run` — what happened from one point on, and what became of the chain.
-/

namespace RouteChain

/-- The state of a request on its way through the entries. The cursor is the number of the first
entry that is still ahead. -/
structure Chain (σ ρ : Type) where
  ahead : List (RouteEntry ρ)
  fallback : Option (Fallback ρ)
  request : Request
  response : σ
  cursor : Nat := 0
  error : Option Cause := none
  matched : Bool := false

namespace Chain

variable {σ ρ : Type}

/-- The number of the entry that holds the chain. -/
def position (chain : Chain σ ρ) : Option Nat :=
  match chain.cursor with
  | 0 => none
  | index + 1 => some index

def view [ResponseWriter σ] (chain : Chain σ ρ) : View where
  request := chain.request
  position := chain.position
  error := chain.error
  matched := chain.matched
  status := ResponseWriter.status chain.response
  ended := ResponseWriter.isEnded chain.response

def edit [ResponseWriter σ] (chain : Chain σ ρ) (changes : List Edit) : Chain σ ρ :=
  { chain with response := changes.foldl ResponseWriter.edit chain.response }

end Chain

/-! ## Runs -/

/-- What can be seen to happen while a request is served, besides calls on its writer. -/
inductive Happening (ρ : Type) where
  /-- Control is to go to the next entry that matches, with this to see. -/
  | handedOn (view : View)
  /-- The action of an entry is invoked, with this to see. -/
  | invoked (view : View)
  /-- The request is flagged as failed. -/
  | flagged (cause : Cause)
  /-- An action or a fallback tells a note. -/
  | told (note : ρ)
  /-- An event is raised. -/
  | raised (event : Event)
  /-- The chain is given up, with or without an error. -/
  | givenUp (error : Option Cause)
  /-- The fallback is called. -/
  | fellBack (request : Request)
  /-- The chain ends the response. -/
  | finished (failure : Option WriteError)
  deriving Repr, DecidableEq

/-- What became of a chain: it was given up as it is here and left its writer behind, or somebody
keeps it in a slot. -/
inductive Fate (σ ρ : Type) where
  | gone (chain : Chain σ ρ) (response : σ)
  | held (slot : Nat) (chain : Chain σ ρ)

/-- What happened from one point on, what became of the chain, and whether a panic goes on from
there. What is late happened after the chain had been given up or put by. A panic is one of whoever
had the chain or of the fallback, unless it has strayed: then an action panicked that had parted
with its chain. -/
structure Run (σ ρ : Type) where
  early : List (Happening ρ) := []
  fate : Fate σ ρ
  late : List (Happening ρ) := []
  panicked : Bool := false
  strayed : Bool := false

namespace Fate

variable {σ ρ : Type}

def response : Fate σ ρ → σ
  | .gone _ response => response
  | .held _ chain => chain.response

end Fate

namespace Run

variable {σ ρ : Type}

/-- All that happened, in order. -/
def log (run : Run σ ρ) : List (Happening ρ) :=
  run.early ++ run.late

/-- Does a panic go on from the run? -/
def unwinds (run : Run σ ρ) : Bool :=
  run.panicked || run.strayed

/-- The run with something that happened before it. -/
def after (log : List (Happening ρ)) (run : Run σ ρ) : Run σ ρ :=
  { run with early := log ++ run.early }

@[simp] theorem log_after (log : List (Happening ρ)) (run : Run σ ρ) :
    (run.after log).log = log ++ run.log :=
  List.append_assoc _ _ _

@[simp] theorem fate_after (log : List (Happening ρ)) (run : Run σ ρ) :
    (run.after log).fate = run.fate := rfl

@[simp] theorem after_after (log others : List (Happening ρ)) (run : Run σ ρ) :
    (run.after others).after log = run.after (log ++ others) := by
  simp [after]

def followedBy (run : Run σ ρ) (log : List (Happening ρ)) : Run σ ρ :=
  { run with late := run.late ++ log }

@[simp] theorem log_followedBy (run : Run σ ρ) (log : List (Happening ρ)) :
    (run.followedBy log).log = run.log ++ log :=
  (List.append_assoc _ _ _).symm

/-- The run with its panic stopped. If there was one, this happens afterwards. -/
def contain (run : Run σ ρ) (log : List (Happening ρ)) : Run σ ρ :=
  if run.unwinds then { run.followedBy log with panicked := false, strayed := false } else run

/-- No panic goes on from a run that is contained. -/
@[simp] theorem unwinds_contain (log : List (Happening ρ)) (run : Run σ ρ) :
    (run.contain log).unwinds = false := by
  unfold contain
  split
  · rfl
  · simp_all

/-- Containing a run does not change what becomes of the chain. -/
@[simp] theorem fate_contain (log : List (Happening ρ)) (run : Run σ ρ) :
    (run.contain log).fate = run.fate := by
  by_cases h : run.unwinds <;> simp [contain, followedBy, h]

/-- The run of an action that goes on like this once it has parted with its chain. It does not get
there if a panic comes before. -/
def conclude (run : Run σ ρ) (rest : Aftermath ρ) : Run σ ρ :=
  if run.unwinds then run
  else { run.followedBy (rest.notes.map .told) with strayed := rest.panics }

/-- What an action does without its chain does not change what becomes of it. -/
@[simp] theorem fate_conclude (rest : Aftermath ρ) (run : Run σ ρ) :
    (run.conclude rest).fate = run.fate := by
  by_cases h : run.unwinds <;> simp [conclude, followedBy, h]

end Run

end RouteChain
