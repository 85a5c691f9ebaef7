import RouteChain.Dispatch.GiveUp

/-!
# Advancing through the entries

A chain goes from entry to entry in the order of registration. Each entry that matches the request,
as it is at that moment, is invoked with the chain, and it is for its action to hand control on.

## Main definitions

* `Chain.unwind` — giving up the chain of an action that panics.
* `Behaviour.run` — what comes of an action.
* `Chain.handOn` — what comes of a chain that an action hands on.
* `Chain.advance`, `Chain.next` — handing control to the next entry that matches.
* `Chain.resume` — going on with a chain that was put by.
-/

namespace RouteChain

variable {σ ρ : Type} [ResponseWriter σ]

/-! ## Actions -/

/-- Gives up the chain of an action that panics. That counts as an error unless there is one. -/
def Chain.unwind (chain : Chain σ ρ) : Run σ ρ :=
  match chain.error with
  | some _ => chain.giveUp
  | none => ({ chain with error := some .panicked }.giveUp).after [.flagged .panicked]

/-- What comes of an action that is handed this chain, where `next` is what comes of a chain that is
handed on. -/
def Behaviour.run (next : Chain σ ρ → Run σ ρ) : Behaviour ρ → Chain σ ρ → Run σ ρ
  | .look k, chain => (k chain.view).run next chain
  | .write call k, chain =>
    let (reply, response) := call.apply chain.response
    (k reply).run next { chain with response }
  | .edit change k, chain => k.run next { chain with request := change chain.request }
  | .takeBody k, chain =>
    (k chain.request.body).run next { chain with request := { chain.request with body := none } }
  | .flag cause k, chain => (k.run next { chain with error := some cause }).after [.flagged cause]
  | .tell note k, chain => (k.run next chain).after [.told note]
  | .pass, chain => next chain
  | .send status body, chain => (chain.edit [.status status, .append body]).giveUp
  | .fail cause, chain => (next { chain with error := some cause }).after [.flagged cause]
  | .drop, chain => chain.giveUp
  | .panic, chain => { chain.unwind with panicked := true }
  | .hold slot, chain => { fate := .held slot chain }
  | .thread body note, chain => (body.run next chain).contain [.told note]
  | .andThen body rest, chain => (body.run next chain).conclude rest

/-! ## Entries -/

namespace Chain

/-- The chain as the action of the next entry is handed it: with the parameters and the pattern of
that entry, and with the entries after it ahead. -/
def enter (chain : Chain σ ρ) (entry : RouteEntry ρ) (params : Params) : Chain σ ρ :=
  { chain with
    ahead := chain.ahead.tail
    cursor := chain.cursor + 1
    matched := true
    request := { chain.request with params, route := entry.pattern.source } }

def skip (chain : Chain σ ρ) : Chain σ ρ :=
  { chain with ahead := chain.ahead.tail, cursor := chain.cursor + 1 }

def invocation (chain : Chain σ ρ) (entry : RouteEntry ρ) (params : Params) : List (Happening ρ) :=
  let request := chain.request
  [.raised (.matched request.method request.path chain.cursor entry.methods entry.pattern.source),
    .invoked (chain.enter entry params).view]

/-- Hands the chain on, where `advance` finds out to which entry. -/
def handOn (advance : Chain σ ρ → Run σ ρ) (chain : Chain σ ρ) : Run σ ρ :=
  (advance chain).after [.handedOn chain.view]

/-- Hands the chain to the first of these entries that matches the request, unless the request has
failed. If there is none the chain is given up. -/
def advance : List (RouteEntry ρ) → Chain σ ρ → Run σ ρ
  | [], chain => chain.giveUp
  | entry :: ahead, chain =>
    if chain.error.isSome then chain.giveUp
    else
      match entry.fit chain.request.method chain.request.path with
      | .misses => advance ahead chain.skip
      | .hits =>
        (entry.action.run (handOn (advance ahead)) (chain.enter entry .empty)).after
          (chain.invocation entry .empty)
      | .binds params =>
        (entry.action.run (handOn (advance ahead)) (chain.enter entry params)).after
          (chain.invocation entry params)

def next (chain : Chain σ ρ) : Run σ ρ :=
  handOn (advance chain.ahead) chain

/-- Goes on with a chain that was put by: whoever kept it does this with it. -/
def resume (chain : Chain σ ρ) (behaviour : Behaviour ρ) : Run σ ρ :=
  behaviour.run next chain

end Chain

end RouteChain
