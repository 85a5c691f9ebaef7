import RouteChain.Dispatch.Cause
import RouteChain.Request
import RouteChain.Response.Writer

/-!
# Behaviour of actions

An action is told by what it does with the chain that it is handed, step by step. A step that asks
something goes on with the answer. Sooner or later it parts with the chain: it hands the chain on,
answers or fails the request, gives the chain up, panics, or puts the chain by. An action that has
not panicked may go on without its chain, and panic then.

## Main definitions

* `View` — what an action can see of its chain.
* `Aftermath` — what an action does once it has parted with its chain.
* `Behaviour` — what an action does, telling notes of type `ρ` on the way.
* `Answer`, `Fallback` — what a fallback does: it has the request to look at and the writer to call,
  but no chain.
-/

namespace RouteChain

/-! ## Actions -/

/-- What an action can see of its chain. The position is the number of the entry that holds it. -/
structure View where
  request : Request
  position : Option Nat
  error : Option Cause
  matched : Bool
  status : Nat
  ended : Bool
  deriving Repr, DecidableEq

def View.describe (view : View) : String :=
  "Chain \x7b method: " ++ view.request.method.name ++
    ", path: " ++ Text.quote view.request.path ++
    ", position: " ++
    (match view.position with
      | some index => "Some(" ++ toString index ++ ")"
      | none => "None") ++
    ", error: " ++ Text.quoteOption (view.error.map Cause.message) ++
    ", matched: " ++ toString view.matched ++ " \x7d"

/-- What an action does once it has parted with its chain: it tells some notes, and may panic. -/
structure Aftermath (ρ : Type) where
  notes : List ρ := []
  panics : Bool := false
  deriving Repr, DecidableEq

/-- What an action does with its chain. -/
inductive Behaviour (ρ : Type) where
  /-- Looks at the chain. -/
  | look (next : View → Behaviour ρ)
  /-- Makes a call on the writer. -/
  | write (call : WriterCall) (next : Reply → Behaviour ρ)
  /-- Changes the request. -/
  | edit (change : Request → Request) (next : Behaviour ρ)
  /-- Takes the body of the request, which is there at most once. -/
  | takeBody (next : Option Bytes → Behaviour ρ)
  /-- Flags the request as failed. The cause replaces an earlier one. -/
  | flag (cause : Cause) (next : Behaviour ρ)
  /-- Tells a note. -/
  | tell (note : ρ) (next : Behaviour ρ)
  /-- Hands control to the next entry. -/
  | pass
  /-- Writes a response and stops. -/
  | send (status : Nat) (body : Bytes)
  /-- Flags the request as failed and hands control on. -/
  | fail (cause : Cause)
  /-- Gives the chain up. -/
  | drop
  /-- Panics. -/
  | panic
  /-- Puts the chain by, to be resumed later. -/
  | hold (slot : Nat)
  /-- Goes on in a thread of its own, and tells a note if that panics. -/
  | thread (body : Behaviour ρ) (note : ρ)
  /-- Goes on like this until it has parted with the chain, and then without it. -/
  | andThen (body : Behaviour ρ) (rest : Aftermath ρ)

/-! ## Fallbacks -/

inductive Answer (ρ : Type) where
  /-- Makes a call on the writer. -/
  | write (call : WriterCall) (next : Reply → Answer ρ)
  /-- Tells a note. -/
  | tell (note : ρ) (next : Answer ρ)
  /-- Leaves the response as it is. -/
  | done
  /-- Panics. -/
  | panic

abbrev Fallback (ρ : Type) := Request → Answer ρ

end RouteChain
