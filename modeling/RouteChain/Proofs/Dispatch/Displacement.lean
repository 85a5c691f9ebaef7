import RouteChain.Proofs.Dispatch.Events

/-!
# One more entry that matches nothing

An entry that no request matches may stand anywhere among the others. The entries behind it have
other numbers then, and that is all: unless an action looks at its number, every request is served
as it would be without that entry.

## Main definitions

* `displaced` — the number of an entry when another one has been put in.
* `Happening.displace`, `Chain.displace` — what happens, and a chain, with one more entry.
* `Behaviour.Unplaced` — actions that do not look at their number.
* `Displaces` — a run that goes on like another one, apart from the numbers.

The main result is `Dispatcher.displaces_serve`, which holds of whole runs.
-/

namespace RouteChain

variable {σ ρ : Type}

/-! ## Numbers -/

/-- The number of an entry when another one has been put in at this place. -/
def displaced (place index : Nat) : Nat :=
  if index < place then index else index + 1

def View.displace (place : Nat) (view : View) : View :=
  { view with position := view.position.map (displaced place) }

def Event.displace (place : Nat) : Event → Event
  | .matched method path index methods source =>
    .matched method path (displaced place index) methods source
  | event => event

def Happening.displace (place : Nat) : Happening ρ → Happening ρ
  | .handedOn view => .handedOn (view.displace place)
  | .invoked view => .invoked (view.displace place)
  | .raised event => .raised (event.displace place)
  | happening => happening

/-- The action goes on in the same way whatever its number is. -/
def Behaviour.Unplaced : Behaviour ρ → Prop
  | .look k =>
    (∀ view position, k { view with position } = k view) ∧ ∀ view, (k view).Unplaced
  | .write _ k => ∀ reply, (k reply).Unplaced
  | .takeBody k => ∀ body, (k body).Unplaced
  | .edit _ k | .flag _ k | .tell _ k => k.Unplaced
  | .thread body _ | .andThen body _ => body.Unplaced
  | .pass | .send _ _ | .fail _ | .drop | .panic | .hold _ => True

/-! ## Chains -/

namespace Chain

/-- The chain with other entries ahead, the first of which has this number. -/
def relocate (chain : Chain σ ρ) (ahead : List (RouteEntry ρ)) (cursor : Nat) : Chain σ ρ :=
  { chain with ahead, cursor }

/-- The chain when an entry has been put in at this place. The entry is ahead until the chain has
come past the place. -/
def displace (place : Nat) (entry : RouteEntry ρ) (chain : Chain σ ρ) : Chain σ ρ :=
  chain.relocate
    (if chain.cursor ≤ place then chain.ahead.insertIdx (place - chain.cursor) entry
      else chain.ahead)
    (displaced (place + 1) chain.cursor)

/-- An entry that is put in further ahead is there for a chain that has not come to its place. -/
theorem displace_of_le {place : Nat} {chain : Chain σ ρ} (h : chain.cursor ≤ place)
    (entry : RouteEntry ρ) : chain.displace place entry =
      chain.relocate (chain.ahead.insertIdx (place - chain.cursor) entry) chain.cursor := by
  simp [displace, displaced, h, Nat.lt_succ_of_le h]

/-- A chain that has come past the place only counts one entry more. -/
theorem displace_of_lt {place : Nat} {chain : Chain σ ρ} (h : place < chain.cursor)
    (entry : RouteEntry ρ) :
    chain.displace place entry = chain.relocate chain.ahead (chain.cursor + 1) := by
  simp [displace, displaced, Nat.not_le_of_lt h, Nat.not_lt_of_le h]

variable [ResponseWriter σ]

/-- The number of the entry that holds a chain is all that is seen to be different. -/
theorem view_displace (place : Nat) (entry : RouteEntry ρ) (chain : Chain σ ρ) :
    (chain.displace place entry).view = chain.view.displace place := by
  have hposition : (chain.displace place entry).position =
      chain.position.map (displaced place) := by
    unfold position displace displaced relocate
    cases chain.cursor <;> grind
  unfold view View.displace
  rw [hposition]
  rfl

/-- Nothing that happens while a request is brought to an end tells the number of an entry. -/
theorem displace_of_mem_close (chain : Chain σ ρ) (place : Nat) {happening : Happening ρ}
    (h : happening ∈ chain.close.log) : happening.displace place = happening := by
  have closing := chain.isClosing_of_mem_close h
  cases happening with
  | raised event =>
    have mem : event ∈ events chain.close.log := List.mem_filterMap.mpr ⟨_, h, rfl⟩
    rw [events_close] at mem
    rcases chain.eq_of_mem_lastEvents _ mem with
      ⟨_, _, _, _, rfl⟩ | ⟨_, rfl⟩ | ⟨_, _, _, rfl⟩ <;> rfl
  | told | fellBack | finished => rfl
  | handedOn | invoked | flagged | givenUp => simp [Happening.isClosing] at closing

end Chain

/-! ## Displaced runs -/

/-- A run that goes on like another one when an entry has been put in at this place: the same
happens apart from the numbers of the entries, a panic goes on from both or from neither, the writer
is left alike, and the chain is put by in the same slot or gone in both. -/
structure Displaces (place : Nat) (entry : RouteEntry ρ) (run other : Run σ ρ) : Prop where
  log_eq : other.log = run.log.map (Happening.displace place)
  panicked_eq : other.panicked = run.panicked
  strayed_eq : other.strayed = run.strayed
  response_eq : other.fate.response = run.fate.response
  kept?_eq : other.fate.kept? = run.fate.kept?.map (Prod.map id (Chain.displace place entry))

namespace Displaces

variable {place : Nat} {entry : RouteEntry ρ}

section

variable {run other : Run σ ρ}

theorem after (h : Displaces place entry run other) {log others : List (Happening ρ)}
    (hlog : others = log.map (Happening.displace place)) :
    Displaces place entry (run.after log) (other.after others) where
  log_eq := by simp [hlog, h.log_eq]
  panicked_eq := h.panicked_eq
  strayed_eq := h.strayed_eq
  response_eq := h.response_eq
  kept?_eq := h.kept?_eq

theorem unwinds_eq (h : Displaces place entry run other) : other.unwinds = run.unwinds := by
  rw [Run.unwinds, h.panicked_eq, h.strayed_eq, Run.unwinds]

/-- Notes tell no number. -/
theorem log_followedBy (h : Displaces place entry run other) (notes : List ρ) :
    (other.followedBy (notes.map .told)).log =
      (run.followedBy (notes.map .told)).log.map (Happening.displace place) := by
  have hnotes : (notes.map Happening.told).map (Happening.displace place) =
      notes.map Happening.told := by
    rw [List.map_map]
    rfl
  rw [Run.log_followedBy, Run.log_followedBy, List.map_append, h.log_eq, hnotes]

theorem contain (h : Displaces place entry run other) (note : ρ) :
    Displaces place entry (run.contain [.told note]) (other.contain [.told note]) := by
  unfold Run.contain
  rw [h.unwinds_eq]
  split
  · exact ⟨h.log_followedBy [note], rfl, rfl, h.response_eq, h.kept?_eq⟩
  · exact h

theorem conclude (h : Displaces place entry run other) (rest : Aftermath ρ) :
    Displaces place entry (run.conclude rest) (other.conclude rest) := by
  unfold Run.conclude
  rw [h.unwinds_eq]
  split
  · exact h
  · exact ⟨h.log_followedBy rest.notes, h.panicked_eq, rfl, h.response_eq, h.kept?_eq⟩

theorem panic (h : Displaces place entry run other) :
    Displaces place entry { run with panicked := true } { other with panicked := true } :=
  ⟨h.log_eq, rfl, h.strayed_eq, h.response_eq, h.kept?_eq⟩

end

variable [ResponseWriter σ]

/-- What is still ahead of a chain does not matter when it is given up. -/
theorem giveUp (chain : Chain σ ρ) (ahead : List (RouteEntry ρ)) (cursor : Nat) :
    Displaces place entry chain.giveUp (chain.relocate ahead cursor).giveUp where
  log_eq := by
    have hclose : chain.close.log.map (Happening.displace place) = chain.close.log :=
      (List.map_congr_left fun _ => chain.displace_of_mem_close place).trans (List.map_id _)
    rw [Chain.log_giveUp, Chain.log_giveUp, List.map_cons, hclose]
    rfl
  panicked_eq := rfl
  strayed_eq := rfl
  response_eq := rfl
  kept?_eq := rfl

theorem unwind (chain : Chain σ ρ) :
    Displaces place entry chain.unwind (chain.displace place entry).unwind := by
  have herror : (chain.displace place entry).error = chain.error := rfl
  unfold Chain.unwind
  rw [herror]
  cases chain.error with
  | some cause => exact giveUp chain _ _
  | none => exact (giveUp { chain with error := some .panicked } _ _).after rfl

/-- An action goes on as it did if it does not look at its number, and if the chains that it hands
on do. -/
theorem run {ahead : List (RouteEntry ρ)} {cursor : Nat} {next next' : Chain σ ρ → Run σ ρ}
    (hnext : ∀ chain, chain.ahead = ahead → chain.cursor = cursor →
      Displaces place entry (next chain) (next' (chain.displace place entry)))
    (behaviour : Behaviour ρ) (unplaced : behaviour.Unplaced) (chain : Chain σ ρ)
    (hahead : chain.ahead = ahead) (hcursor : chain.cursor = cursor) :
    Displaces place entry (behaviour.run next chain)
      (behaviour.run next' (chain.displace place entry)) := by
  induction behaviour generalizing chain with
  | look k ih =>
    have same : k (chain.view.displace place) = k chain.view := unplaced.1 _ _
    have := ih chain.view (unplaced.2 _) chain hahead hcursor
    simpa only [Behaviour.run, Chain.view_displace, same] using this
  | write call k ih =>
    exact ih _ (unplaced _) { chain with response := (call.apply chain.response).2 } hahead hcursor
  | edit change k ih =>
    exact ih unplaced { chain with request := change chain.request } hahead hcursor
  | takeBody k ih =>
    exact ih _ (unplaced _) { chain with request := { chain.request with body := none } } hahead
      hcursor
  | flag cause k ih =>
    exact (ih unplaced { chain with error := some cause } hahead hcursor).after rfl
  | tell note k ih => exact (ih unplaced chain hahead hcursor).after rfl
  | pass => exact hnext chain hahead hcursor
  | send status body => exact giveUp (chain.edit [.status status, .append body]) _ _
  | fail cause => exact (hnext { chain with error := some cause } hahead hcursor).after rfl
  | drop => exact giveUp chain _ _
  | panic => exact (unwind chain).panic
  | hold slot => exact ⟨rfl, rfl, rfl, rfl, rfl⟩
  | thread body note ih => exact (ih unplaced chain hahead hcursor).contain note
  | andThen body rest ih => exact (ih unplaced chain hahead hcursor).conclude rest

/-! ## Entries -/

theorem handOn {advance advance' : Chain σ ρ → Run σ ρ} {chain : Chain σ ρ}
    (h : Displaces place entry (advance chain) (advance' (chain.displace place entry))) :
    Displaces place entry (Chain.handOn advance chain)
      (Chain.handOn advance' (chain.displace place entry)) :=
  h.after (by rw [Chain.view_displace]; rfl)

/-- Two chains that come to an entry go on alike, if they do past it and if chains that are handed
on from it do. -/
theorem advance_cons {next : RouteEntry ρ} {ahead ahead' others : List (RouteEntry ρ)}
    {chain : Chain σ ρ} {cursor : Nat} (unplaced : next.action.Unplaced)
    (hcursor : cursor = displaced place chain.cursor)
    (henter : ∀ params, (chain.relocate others cursor).enter next params =
      (chain.enter next params).displace place entry)
    (hskip : Displaces place entry (Chain.advance ahead chain.skip)
      (Chain.advance ahead' (chain.relocate others cursor).skip))
    (hnext : ∀ later : Chain σ ρ, later.ahead = chain.ahead.tail →
      later.cursor = chain.cursor + 1 → Displaces place entry (Chain.advance ahead later)
        (Chain.advance ahead' (later.displace place entry))) :
    Displaces place entry (Chain.advance (next :: ahead) chain)
      (Chain.advance (next :: ahead') (chain.relocate others cursor)) := by
  have hrun (params : Params) : Displaces place entry
      ((next.action.run (Chain.handOn (Chain.advance ahead)) (chain.enter next params)).after
        (chain.invocation next params))
      ((next.action.run (Chain.handOn (Chain.advance ahead'))
        ((chain.relocate others cursor).enter next params)).after
          ((chain.relocate others cursor).invocation next params)) := by
    have hinvocation : (chain.relocate others cursor).invocation next params =
        (chain.invocation next params).map (Happening.displace place) := by
      simp only [Chain.invocation, henter, Chain.view_displace]
      simp only [Chain.relocate, hcursor]
      rfl
    rw [henter]
    exact (run (fun later hahead hcursor => handOn (hnext later hahead hcursor)) next.action
      unplaced _ rfl rfl).after hinvocation
  have herror : (chain.relocate others cursor).error = chain.error := rfl
  have hrequest : (chain.relocate others cursor).request = chain.request := rfl
  unfold Chain.advance
  rw [herror, hrequest]
  split
  · exact giveUp chain _ _
  · split
    · exact hskip
    · exact hrun .empty
    · exact hrun _

/-- A chain that has come past the place goes on alike. -/
theorem advance_behind {ahead : List (RouteEntry ρ)}
    (unplaced : ∀ next ∈ ahead, next.action.Unplaced) {chain : Chain σ ρ}
    (hahead : chain.ahead = ahead) (h : place ≤ chain.cursor) :
    Displaces place entry (Chain.advance ahead chain)
      (Chain.advance ahead (chain.relocate ahead (chain.cursor + 1))) := by
  induction ahead generalizing chain with
  | nil => exact giveUp chain _ _
  | cons next ahead ih =>
    obtain ⟨hnext, unplaced⟩ := List.forall_mem_cons.mp unplaced
    refine advance_cons hnext ?_ (fun params => ?_) ?_ fun later hlater hcursor => ?_
    · simp [displaced, Nat.not_lt_of_le h]
    · rw [Chain.displace_of_lt (Nat.lt_succ_of_le h)]
      simp [Chain.relocate, Chain.enter, hahead]
    · have htail : chain.skip.ahead = ahead := by simp [Chain.skip, hahead]
      exact ih unplaced htail (Nat.le_succ_of_le h)
    · have htail : later.ahead = ahead := by simp [hlater, hahead]
      have hlt : place < later.cursor := hcursor ▸ Nat.lt_succ_of_le h
      rw [Chain.displace_of_lt hlt, htail]
      exact ih unplaced htail (Nat.le_of_lt hlt)

section

variable (inert : ∀ method path, entry.fit method path = .misses)

include inert

/-- A chain that has come to the place goes on alike past an entry that matches nothing. -/
theorem advance_at {chain : Chain σ ρ} (unplaced : ∀ next ∈ chain.ahead, next.action.Unplaced)
    (h : chain.cursor = place) :
    Displaces place entry (Chain.advance chain.ahead chain)
      (Chain.advance (entry :: chain.ahead)
        (chain.relocate (entry :: chain.ahead) chain.cursor)) := by
  have herror : (chain.relocate (entry :: chain.ahead) chain.cursor).error = chain.error := rfl
  cases failed : chain.error with
  | some cause =>
    have hadvance : Chain.advance chain.ahead chain = chain.giveUp := by
      cases chain.ahead <;> simp [Chain.advance, failed]
    rw [hadvance, Chain.advance, herror, failed]
    exact giveUp chain _ _
  | none =>
    rw [Chain.advance, herror, failed, inert]
    exact advance_behind unplaced rfl (Nat.le_of_eq h.symm)

/-- A chain that has not come to the place goes on alike as well. -/
theorem advance_before {ahead : List (RouteEntry ρ)} {count : Nat}
    (unplaced : ∀ next ∈ ahead, next.action.Unplaced) (hcount : count ≤ ahead.length)
    {chain : Chain σ ρ} (hahead : chain.ahead = ahead) (hplace : chain.cursor + count = place) :
    Displaces place entry (Chain.advance ahead chain)
      (Chain.advance (ahead.insertIdx count entry)
        (chain.relocate (ahead.insertIdx count entry) chain.cursor)) := by
  induction count generalizing ahead chain with
  | zero =>
    subst hahead
    exact advance_at inert unplaced hplace
  | succ count ih =>
    cases ahead with
    | nil => simp at hcount
    | cons next ahead =>
      obtain ⟨hnext, unplaced⟩ := List.forall_mem_cons.mp unplaced
      have hcount : count ≤ ahead.length := Nat.le_of_succ_le_succ hcount
      have hlater (later : Chain σ ρ) (htail : later.ahead = ahead)
          (hcursor : later.cursor = chain.cursor + 1) := ih unplaced hcount htail (by omega)
      rw [List.insertIdx_succ_cons]
      refine advance_cons hnext ?_ (fun params => ?_) ?_ fun later htail hcursor => ?_
      · rw [displaced, if_pos (by omega)]
      · rw [Chain.displace_of_le (by simp [Chain.enter]; omega)]
        have hdistance : place - (chain.cursor + 1) = count := by omega
        simp [Chain.relocate, Chain.enter, hahead, hdistance]
      · have htail : chain.skip.ahead = ahead := by simp [Chain.skip, hahead]
        exact hlater chain.skip htail rfl
      · have htail : later.ahead = ahead := by simp [htail, hahead]
        have hdistance : place - later.cursor = count := by omega
        rw [Chain.displace_of_le (by omega), htail, hdistance]
        exact hlater later htail hcursor

/-- A chain that is handed on goes on alike. -/
theorem next {chain : Chain σ ρ} (unplaced : ∀ next ∈ chain.ahead, next.action.Unplaced)
    (hplace : place ≤ chain.cursor + chain.ahead.length) :
    Displaces place entry chain.next (chain.displace place entry).next := by
  refine handOn ?_
  rcases Nat.lt_or_ge place chain.cursor with hlt | hle
  · rw [Chain.displace_of_lt hlt]
    exact advance_behind unplaced rfl (Nat.le_of_lt hlt)
  · rw [Chain.displace_of_le hle]
    exact advance_before inert unplaced (by omega) rfl (by omega)

/-- A chain that was put by goes on alike. -/
theorem resume {chain : Chain σ ρ} (unplaced : ∀ next ∈ chain.ahead, next.action.Unplaced)
    (hplace : place ≤ chain.cursor + chain.ahead.length) {behaviour : Behaviour ρ}
    (unplaced' : behaviour.Unplaced) :
    Displaces place entry (chain.resume behaviour)
      ((chain.displace place entry).resume behaviour) :=
  run (fun later hahead hcursor => next inert (hahead ▸ unplaced) (by rwa [hahead, hcursor]))
    behaviour unplaced' chain rfl rfl

end

end Displaces

/-! ## Whole runs -/

namespace Chain

variable [ResponseWriter σ]

/-- Every entry that a chain does not have ahead any more is counted. -/
theorem Steps.cursor_add_length {start chain : Chain σ ρ} {log : List (Happening ρ)}
    (steps : Steps start log chain) :
    chain.cursor + chain.ahead.length = start.cursor + start.ahead.length := by
  induction steps with
  | refl => rfl
  | @tail _ _ chain _ _ step ih =>
    cases step with
    | enter count entry params _ _ hentry =>
      obtain ⟨hcount, -⟩ := List.getElem?_eq_some_iff.mp hentry
      simp [enter, past]
      omega
    | _ => exact ih

theorem Course.cursor_add_length {start chain : Chain σ ρ} {run : Run σ ρ} {slot : Nat}
    (course : Course start run) (fate : run.fate = .held slot chain) :
    chain.cursor + chain.ahead.length = start.cursor + start.ahead.length := by
  cases course with
  | held _ steps held =>
    obtain ⟨-, rfl⟩ : slot = _ ∧ chain = _ := by simpa [fate] using held
    exact steps.cursor_add_length
  | gone _ _ _ _ gone => simp [fate] at gone

end Chain

namespace Displaces

variable [ResponseWriter σ] {place : Nat} {entry : RouteEntry ρ} {start : Chain σ ρ}
  {run other : Run σ ρ} (inert : ∀ method path, entry.fit method path = .misses)

include inert

/-- A resumption goes on alike, too. -/
theorem goOn (h : Displaces place entry run other) (course : Chain.Course start run)
    (unplaced : ∀ next ∈ start.ahead, next.action.Unplaced)
    (hplace : place ≤ start.cursor + start.ahead.length) {resumption : Resumption σ ρ}
    (unplaced' : resumption.behaviour.Unplaced) :
    Displaces place entry (run.goOn resumption) (other.goOn resumption) := by
  have hkept := h.kept?_eq
  unfold Run.goOn
  cases fate : run.fate with
  | gone chain final =>
    cases fate' : other.fate with
    | gone => exact h
    | held => simp [fate, fate', Fate.kept?] at hkept
  | held slot chain =>
    cases fate' : other.fate with
    | gone => simp [fate, fate', Fate.kept?] at hkept
    | held slot' chain' =>
      obtain ⟨rfl, rfl⟩ : slot' = slot ∧ chain' = chain.displace place entry := by
        simpa [fate, fate', Fate.kept?] using hkept
      let later : Chain σ ρ := { chain with response := resumption.meanwhile chain.response }
      have hahead : ∀ next ∈ later.ahead, next.action.Unplaced := fun next mem =>
        unplaced next ((course.of_held fate).2 mem)
      have hlength : place ≤ later.cursor + later.ahead.length := by
        rwa [course.cursor_add_length fate]
      exact (resume inert hahead hlength unplaced').after h.log_eq

theorem foldl_goOn (h : Displaces place entry run other) (course : Chain.Course start run)
    (unplaced : ∀ next ∈ start.ahead, next.action.Unplaced)
    (hplace : place ≤ start.cursor + start.ahead.length) {resumptions : List (Resumption σ ρ)}
    (unplaced' : ∀ resumption ∈ resumptions, resumption.behaviour.Unplaced) :
    Displaces place entry (resumptions.foldl Run.goOn run) (resumptions.foldl Run.goOn other) := by
  induction resumptions generalizing run other with
  | nil => exact h
  | cons resumption resumptions ih =>
    obtain ⟨hhead, htail⟩ := List.forall_mem_cons.mp unplaced'
    exact ih (h.goOn inert course unplaced hplace hhead) (course.goOn resumption) htail

end Displaces

/-- Whole runs go on alike when an entry that matches nothing is put in anywhere, if no action looks
at its number. -/
theorem Dispatcher.displaces_serve [ResponseWriter σ] (dispatcher : Dispatcher ρ)
    {entry : RouteEntry ρ} (inert : ∀ method path, entry.fit method path = .misses) {place : Nat}
    (hplace : place ≤ dispatcher.entries.length) (request : Request) (response : σ)
    {resumptions : List (Resumption σ ρ)}
    (unplaced : ∀ next ∈ dispatcher.entries, next.action.Unplaced)
    (unplaced' : ∀ resumption ∈ resumptions, resumption.behaviour.Unplaced) :
    Displaces place entry (dispatcher.serve request response resumptions)
      ((⟨dispatcher.entries.insertIdx place entry, dispatcher.fallback⟩ : Dispatcher ρ).serve
        request response resumptions) := by
  let start : Chain σ ρ := dispatcher.start request response
  have hplace : place ≤ start.cursor + start.ahead.length := by
    simpa [start, Dispatcher.start] using hplace
  exact (Displaces.next inert unplaced hplace).foldl_goOn inert (Chain.course_next start) unplaced
    hplace unplaced'

end RouteChain
