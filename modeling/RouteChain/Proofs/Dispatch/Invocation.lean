import RouteChain.Proofs.Dispatch.Closing
import RouteChain.Proofs.Dispatch.Course

/-!
# Which actions are invoked

A chain goes through the entries once, from the first to the last, and stops only at those that
match the request as it is when the chain comes there.

## Main definitions

* `IsNext` — the first entry, from a number on, that accepts a request.
* `HandedTo` — what has to follow where control is handed on.
* `positions` — the numbers of the entries whose actions are invoked, in order.
* `Chain.Trail` — what the steps of a request leave behind.

The main result is `Dispatcher.serve_invocations`, which holds of whole runs.
-/

namespace RouteChain

variable {σ ρ : Type}

/-! ## Looking at a log -/

/-- A happening in a log of two parts is in one of them. -/
theorem eq_append_cons_of_append {α : Type} {log others before after : List α} {x : α}
    (h : log ++ others = before ++ x :: after) :
    (∃ rest, log = before ++ x :: rest ∧ after = rest ++ others) ∨
      ∃ rest, others = rest ++ x :: after ∧ before = log ++ rest := by
  obtain ⟨rest, hbefore, hothers⟩ | ⟨rest, hlog, hrest⟩ := List.append_eq_append_iff.mp h
  · exact .inr ⟨rest, hothers, hbefore⟩
  · cases rest with
    | nil => exact .inr ⟨[], hrest.symm, by simp [hlog]⟩
    | cons y rest =>
      obtain ⟨rfl, rfl⟩ := List.cons.inj hrest
      exact .inl ⟨rest, hlog, rfl⟩

def Happening.position? : Happening ρ → Option Nat
  | .invoked view => view.position
  | _ => none

def positions (log : List (Happening ρ)) : List Nat :=
  log.filterMap Happening.position?

@[simp] theorem positions_append (log others : List (Happening ρ)) :
    positions (log ++ others) = positions log ++ positions others :=
  List.filterMap_append

/-! ## The next entry -/

/-- The number of the first entry that is ahead of a chain that looks like this. -/
def View.cursor (view : View) : Nat :=
  view.position.elim 0 (· + 1)

@[simp] theorem Chain.cursor_view [ResponseWriter σ] (chain : Chain σ ρ) :
    chain.view.cursor = chain.cursor := by
  cases h : chain.cursor <;> simp [view, View.cursor, position, h]

/-- The entry has the least number, from `cursor` on, among those that accept a request of this
method and path, and it binds these parameters. -/
structure IsNext (entries : List (RouteEntry ρ)) (cursor : Nat) (method : Method) (path : String)
    (index : Nat) (entry : RouteEntry ρ) (params : Params) : Prop where
  cursor_le : cursor ≤ index
  getElem?_eq : entries[index]? = some entry
  accepts : (entry.fit method path).params? = some params
  least : ∀ other ∈ (entries.take index).drop cursor, other.fit method path = .misses

/-- What the action of an entry sees when control comes to it from a chain that looked like this. -/
def View.entering (view : View) (index : Nat) (entry : RouteEntry ρ) (params : Params) : View :=
  { view with
    request := { view.request with params, route := entry.pattern.source }
    position := some index
    matched := true }

/-- What follows where control is handed on by a chain that looks like this: if the request has not
failed, the action of the next entry that accepts it is invoked, and if there is none, or the
request has failed, the chain is given up. -/
def HandedTo (entries : List (RouteEntry ρ)) (view : View) (after : List (Happening ρ)) : Prop :=
  (view.error = none ∧ ∃ index entry params rest,
    IsNext entries view.cursor view.request.method view.request.path index entry params ∧
    after = .raised (.matched view.request.method view.request.path index entry.methods
      entry.pattern.source) :: .invoked (view.entering index entry params) :: rest) ∨
  ((view.error = none → ∀ entry ∈ entries.drop view.cursor,
      entry.fit view.request.method view.request.path = .misses) ∧
    ∃ rest, after = .givenUp view.error :: rest)

theorem HandedTo.append {entries : List (RouteEntry ρ)} {view : View}
    {after : List (Happening ρ)} (h : HandedTo entries view after) (others : List (Happening ρ)) :
    HandedTo entries view (after ++ others) := by
  rcases h with ⟨calm, index, entry, params, rest, isNext, rfl⟩ | ⟨none, rest, rfl⟩
  · exact .inl ⟨calm, index, entry, params, rest ++ others, isNext, rfl⟩
  · exact .inr ⟨none, rest ++ others, rfl⟩

/-- An action is invoked when control has just been handed on, and what it sees is that its own
entry was matched: the number and the pattern of that entry, the parameters that it binds on the
present path and no others, and no error. -/
def Entered (entries : List (RouteEntry ρ)) (before : List (Happening ρ)) (view : View) : Prop :=
  (∃ earlier handed event, before = earlier ++ [.handedOn handed, .raised event]) ∧
  ∃ index entry, view.position = some index ∧ entries[index]? = some entry ∧
    view.error = none ∧ view.request.route = entry.pattern.source ∧
    (entry.fit view.request.method view.request.path).params? = some view.request.params

/-! ## What steps leave behind -/

namespace Chain

variable {entries : List (RouteEntry ρ)} {log last : List (Happening ρ)} {chain next : Chain σ ρ}

/-- What the steps of a request through these entries leave behind. The entries ahead are those from
the cursor on, so every invocation is one of an entry that the chain has passed since. -/
structure Trail (entries : List (RouteEntry ρ)) (log : List (Happening ρ)) (chain : Chain σ ρ) :
    Prop where
  ahead_eq : chain.ahead = entries.drop chain.cursor
  cursor_le : chain.cursor ≤ entries.length
  ordered : (positions log).Pairwise (· < ·)
  below : ∀ index ∈ positions log, index < chain.cursor
  length_le : (positions log).length ≤ chain.cursor
  handed : ∀ before view after, log = before ++ .handedOn view :: after →
    HandedTo entries view after
  entered : ∀ before view after, log = before ++ .invoked view :: after →
    Entered entries before view
  failed : ∀ cause, .flagged cause ∈ log → chain.error ≠ none
  stopped : ∀ before cause after, log = before ++ .flagged cause :: after →
    ∀ view, .invoked view ∉ after

/-- The next entry of a chain among all entries. -/
theorem Trail.isNext (trail : Trail entries log chain) {count : Nat} {entry : RouteEntry ρ}
    {params : Params}
    (hmiss : ∀ other ∈ chain.ahead.take count,
      other.fit chain.request.method chain.request.path = .misses)
    (hentry : chain.ahead[count]? = some entry)
    (hfit : (entry.fit chain.request.method chain.request.path).params? = some params) :
    IsNext entries chain.cursor chain.request.method chain.request.path (chain.cursor + count)
      entry params where
  cursor_le := by omega
  getElem?_eq := by rw [← hentry, trail.ahead_eq, List.getElem?_drop]
  accepts := hfit
  least other mem := by
    refine hmiss other ?_
    rwa [trail.ahead_eq, List.take_drop]

/-- A step that invokes nothing and goes past no entry. -/
theorem Trail.quiet (trail : Trail entries log chain) (hahead : next.ahead = chain.ahead)
    (hcursor : next.cursor = chain.cursor) (herror : chain.error ≠ none → next.error ≠ none)
    (hlast : ∀ happening ∈ last, (∃ note, happening = .told note) ∨
      ∃ cause, happening = .flagged cause ∧ next.error ≠ none) :
    Trail entries (log ++ last) next := by
  have hpositions : positions last = [] := by
    refine List.filterMap_eq_nil_iff.mpr fun happening mem => ?_
    rcases hlast happening mem with ⟨note, rfl⟩ | ⟨cause, rfl, -⟩ <;> rfl
  have hinvoked : ∀ view, .invoked view ∉ last := fun view mem => by simpa using hlast _ mem
  constructor
  · rw [hahead, hcursor, trail.ahead_eq]
  · rw [hcursor]
    exact trail.cursor_le
  · simpa [hpositions] using trail.ordered
  · simpa [hpositions, hcursor] using trail.below
  · simpa [hpositions, hcursor] using trail.length_le
  · intro before view after h
    rcases eq_append_cons_of_append h with ⟨rest, hlog, rfl⟩ | ⟨rest, rfl, -⟩
    · exact (trail.handed _ _ _ hlog).append last
    · simpa using hlast (.handedOn view) (by simp)
  · intro before view after h
    rcases eq_append_cons_of_append h with ⟨rest, hlog, -⟩ | ⟨rest, rfl, -⟩
    · exact trail.entered _ _ _ hlog
    · exact absurd (by simp) (hinvoked view)
  · intro cause mem
    rcases List.mem_append.mp mem with mem | mem
    · exact herror (trail.failed cause mem)
    · simpa using hlast _ mem
  · intro before cause after h view mem
    rcases eq_append_cons_of_append h with ⟨rest, hlog, rfl⟩ | ⟨rest, rfl, -⟩
    · rcases List.mem_append.mp mem with mem | mem
      · exact trail.stopped _ _ _ hlog view mem
      · exact hinvoked view mem
    · exact hinvoked view (by simp [mem])

variable [ResponseWriter σ]

/-- A step to the next entry. -/
theorem Trail.enter (trail : Trail entries log chain) {count : Nat} {entry : RouteEntry ρ}
    {params : Params} (calm : chain.error = none)
    (hmiss : ∀ other ∈ chain.ahead.take count,
      other.fit chain.request.method chain.request.path = .misses)
    (hentry : chain.ahead[count]? = some entry)
    (hfit : (entry.fit chain.request.method chain.request.path).params? = some params) :
    Trail entries (log ++ .handedOn chain.view :: (chain.past count).invocation entry params)
      ((chain.past count).enter entry params) := by
  have isNext := trail.isNext hmiss hentry hfit
  have hlt : chain.cursor + count < entries.length :=
    (List.getElem?_eq_some_iff.mp isNext.getElem?_eq).1
  have hpositions : positions ((.handedOn chain.view : Happening ρ) ::
      (chain.past count).invocation entry params) = [chain.cursor + count] := rfl
  have hnoFlag : ∀ cause, .flagged cause ∉ log := fun cause mem => trail.failed cause mem calm
  constructor
  · simp [Chain.enter, past, trail.ahead_eq, Nat.add_assoc]
  · exact hlt
  · rw [positions_append, hpositions, List.pairwise_append]
    refine ⟨trail.ordered, List.pairwise_singleton _ _, fun index mem other hother => ?_⟩
    have := trail.below index mem
    rw [List.mem_singleton.mp hother]
    omega
  · intro index mem
    rw [positions_append, hpositions, List.mem_append, List.mem_singleton] at mem
    simp only [Chain.enter, past]
    rcases mem with mem | rfl
    · have := trail.below index mem
      omega
    · omega
  · have := trail.length_le
    rw [positions_append, hpositions, List.length_append, List.length_singleton]
    simp only [Chain.enter, past]
    omega
  · intro before view after h
    rcases eq_append_cons_of_append h with ⟨rest, hlog, rfl⟩ | ⟨rest, hrest, -⟩
    · exact (trail.handed _ _ _ hlog).append _
    · -- control is handed on once, and what follows is the invocation of the next entry
      have first : chain.view = view ∧ (chain.past count).invocation entry params = after := by
        cases rest with
        | nil => simpa using hrest
        | cons happening rest =>
          have mem : .handedOn view ∈ (chain.past count).invocation entry params := by
            simp [(List.cons.inj hrest).2]
          simp [invocation] at mem
      obtain ⟨rfl, rfl⟩ := first
      refine .inl ⟨calm, chain.cursor + count, entry, params, [], ?_, rfl⟩
      rw [cursor_view]
      exact isNext
  · intro before view after h
    rcases eq_append_cons_of_append h with ⟨rest, hlog, -⟩ | ⟨rest, hrest, rfl⟩
    · exact trail.entered _ _ _ hlog
    · obtain ⟨event, hbefore, rfl⟩ : ∃ event, rest = [.handedOn chain.view, .raised event] ∧
          ((chain.past count).enter entry params).view = view := by
        rcases rest with _ | ⟨first, _ | ⟨second, _ | ⟨third, rest⟩⟩⟩ <;>
          simp [invocation] at hrest
        obtain ⟨rfl, rfl, hview, -⟩ := hrest
        exact ⟨_, rfl, hview⟩
      exact ⟨⟨log, chain.view, event, by rw [hbefore]⟩, chain.cursor + count, entry, rfl,
        isNext.getElem?_eq, calm, rfl, hfit⟩
  · intro cause mem
    rcases List.mem_append.mp mem with mem | mem
    · exact absurd mem (hnoFlag cause)
    · simp [invocation] at mem
  · intro before cause after h
    rcases eq_append_cons_of_append h with ⟨rest, hlog, -⟩ | ⟨rest, hrest, -⟩
    · exact absurd (by simp [hlog]) (hnoFlag cause)
    · have mem : .flagged cause ∈ (.handedOn chain.view : Happening ρ) ::
          (chain.past count).invocation entry params := by simp [hrest]
      simp [invocation] at mem

/-- Every step keeps the trail. -/
theorem Trail.step (trail : Trail entries log chain) (step : Step chain last next) :
    Trail entries (log ++ last) next := by
  cases step with
  | write response => exact trail.quiet rfl rfl id (by simp)
  | edit request => exact trail.quiet rfl rfl id (by simp)
  | flag cause => exact trail.quiet rfl rfl (by simp) (by simp)
  | tell note => exact trail.quiet rfl rfl id (by simp)
  | enter count entry params calm hmiss hentry hfit => exact trail.enter calm hmiss hentry hfit

/-- A request that has all entries ahead leaves a trail. -/
theorem Steps.trail {start : Chain σ ρ} (hahead : start.ahead = entries)
    (hcursor : start.cursor = 0) (steps : Steps start log chain) : Trail entries log chain := by
  induction steps with
  | refl =>
    constructor <;> simp [positions, hahead, hcursor]
  | tail _ step ih => exact ih.step step

end Chain

/-! ## Whole runs -/

variable [ResponseWriter σ]

open Chain

/-- From the last step of a chain that is given up nobody is invoked and no error is recorded. -/
theorem Chain.Stop.not_mem {last closing : List (Happening ρ)} {chain left : Chain σ ρ}
    (stop : Stop chain last left) (hclosing : ∀ happening ∈ closing, happening.isClosing)
    {happening : Happening ρ} (h : happening ∈ last ++ .givenUp left.error :: closing) :
    (∀ view, happening ≠ .invoked view) ∧ ∀ cause, happening ≠ .flagged cause := by
  rcases List.mem_append.mp h with mem | mem
  · cases stop with
    | here => simp at mem
    | passed => grind
  · rcases List.mem_cons.mp mem with rfl | mem
    · simp
    · have := hclosing _ mem
      cases happening <;> grind [Happening.isClosing]

/-- Where control is handed on last, by a chain that is then given up, there is no entry to go
to. -/
theorem Chain.Trail.handedTo_stop {entries : List (RouteEntry ρ)}
    {log last before after closing : List (Happening ρ)} {chain left : Chain σ ρ} {view : View}
    (trail : Trail entries log chain) (stop : Stop chain last left)
    (hclosing : ∀ happening ∈ closing, happening.isClosing)
    (h : last ++ .givenUp left.error :: closing = before ++ .handedOn view :: after) :
    HandedTo entries view after := by
  have hrest : ∀ others : List (Happening ρ),
      .givenUp left.error :: closing ≠ others ++ .handedOn view :: after := by
    intro others heq
    have mem : .handedOn view ∈ .givenUp left.error :: closing := by simp [heq]
    rcases List.mem_cons.mp mem with mem | mem
    · cases mem
    · simpa [Happening.isClosing] using hclosing _ mem
  cases stop with
  | here => exact absurd h (hrest before)
  | passed count hnone =>
    cases before with
    | cons first before => exact absurd (List.cons.inj h).2 (hrest before)
    | nil =>
      obtain ⟨heq, rfl⟩ := List.cons.inj h
      obtain rfl : chain.view = view := by simpa using heq
      refine .inr ⟨fun calm entry mem => ?_, closing, rfl⟩
      rw [cursor_view, ← trail.ahead_eq] at mem
      exact hnone calm entry mem

/-- What happens on a course that starts with all entries ahead is what happens on some steps, and
then nobody is invoked and no error is recorded any more. -/
theorem Chain.Course.split {entries : List (RouteEntry ρ)} {start : Chain σ ρ} {run : Run σ ρ}
    (course : Course start run) (hahead : start.ahead = entries) (hcursor : start.cursor = 0) :
    ∃ head tail chain, run.log = head ++ tail ∧ Steps start head chain ∧
      (∀ happening ∈ tail, (∀ view, happening ≠ .invoked view) ∧
        ∀ cause, happening ≠ .flagged cause) ∧
      ∀ before view after, tail = before ++ .handedOn view :: after →
        HandedTo entries view after := by
  cases course with
  | @held chain slot steps => exact ⟨run.log, [], chain, by simp, steps, by simp, by simp⟩
  | @gone head last chain left notes steps stop hlog =>
    let closing := left.close.log ++ notes.map .told
    have hclosing : ∀ happening ∈ closing, happening.isClosing := by
      intro happening mem
      rcases List.mem_append.mp mem with mem | mem
      · exact isClosing_of_mem_close left mem
      · obtain ⟨note, -, rfl⟩ := List.mem_map.mp mem
        rfl
    refine ⟨head, last ++ .givenUp left.error :: closing, chain, ?_, steps,
      fun happening => stop.not_mem hclosing, fun before view after => ?_⟩
    · simp [closing, hlog, Chain.log_giveUp]
    · exact (steps.trail hahead hcursor).handedTo_stop stop hclosing

/-- Nothing is invoked once an error is recorded. -/
theorem Chain.Course.stopped {start : Chain σ ρ} {run : Run σ ρ} (course : Course start run)
    (hcursor : start.cursor = 0) {before after : List (Happening ρ)} {cause : Cause}
    (h : run.log = before ++ .flagged cause :: after) (view : View) : .invoked view ∉ after := by
  obtain ⟨head, tail, chain, hlog, steps, htail, -⟩ := course.split rfl hcursor
  intro mem
  rcases eq_append_cons_of_append (hlog.symm.trans h) with ⟨rest, hhead, rfl⟩ | ⟨rest, h, -⟩
  · rcases List.mem_append.mp mem with mem | mem
    · exact (steps.trail rfl hcursor).stopped _ _ _ hhead view mem
    · exact (htail _ mem).1 view rfl
  · exact (htail (.flagged cause) (by simp [h])).2 cause rfl

/-- The whole run of a request, whatever the actions do. The numbers of the entries that are invoked
increase. Where control is handed on it goes to the first entry, from the cursor on, that accepts
the request as it is then, and if there is none the chain is given up. Nothing is invoked after an
error. What an action sees belongs to its own entry. -/
theorem Dispatcher.serve_invocations (dispatcher : Dispatcher ρ) (request : Request) (response : σ)
    (resumptions : List (Resumption σ ρ)) :
    let log := (dispatcher.serve request response resumptions).log
    ((positions log).Pairwise (· < ·) ∧
      (∀ index ∈ positions log, index < dispatcher.entries.length) ∧
      (positions log).length ≤ dispatcher.entries.length) ∧
    (∀ before view after, log = before ++ .handedOn view :: after →
      HandedTo dispatcher.entries view after) ∧
    (∀ before cause after, log = before ++ .flagged cause :: after →
      ∀ view, .invoked view ∉ after) ∧
    (∀ before view after, log = before ++ .invoked view :: after →
      Entered dispatcher.entries before view) := by
  intro log
  have course := dispatcher.course_serve request response resumptions
  obtain ⟨head, tail, chain, hlog, steps, htail, hhanded⟩ := course.split rfl rfl
  have trail := steps.trail rfl rfl
  have bound := trail.cursor_le
  have hsplit : log = head ++ tail := hlog
  have hpositions : positions log = positions head := by
    have : positions tail = [] := by
      refine List.filterMap_eq_nil_iff.mpr fun happening mem => ?_
      have hinvoked := (htail happening mem).1
      cases happening with
      | invoked view => exact absurd rfl (hinvoked view)
      | _ => rfl
    rw [hsplit, positions_append, this, List.append_nil]
  rw [hpositions]
  refine ⟨⟨trail.ordered, fun index mem => ?_, Nat.le_trans trail.length_le bound⟩, ?_,
    fun _ _ _ => course.stopped rfl, ?_⟩
  · exact Nat.lt_of_lt_of_le (trail.below index mem) bound
  · intro before view after h
    rcases eq_append_cons_of_append (hsplit.symm.trans h) with ⟨rest, hhead, rfl⟩ | ⟨rest, h, -⟩
    · exact (trail.handed _ _ _ hhead).append tail
    · exact hhanded _ _ _ h
  · intro before view after h
    rcases eq_append_cons_of_append (hsplit.symm.trans h) with ⟨rest, hhead, -⟩ | ⟨rest, h, -⟩
    · exact trail.entered _ _ _ hhead
    · exact absurd rfl ((htail (.invoked view) (by simp [h])).1 view)

end RouteChain
