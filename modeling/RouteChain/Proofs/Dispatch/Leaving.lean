import RouteChain.Proofs.Dispatch.Comparison
import RouteChain.Proofs.Dispatch.Termination
import RouteChain.Response.Outlet

/-!
# When the receiver leaves

A receiver that leaves is noticed by nobody but those who ask what came of ending the response. All
others go on as they would have.

## Main definitions

* `heard` — what happened, apart from what came of ending the response and what a fallback says.
* `Undisturbed` — a run that goes on like another one for all that is heard.

The main result is `Chain.resume_undisturbed`: if the actions do not look at what came of their
attempts to end the response, a chain goes on undisturbed when the receiver has left.
-/

namespace RouteChain

variable {σ τ ρ : Type}

/-! ## What is heard -/

def Happening.isFellBack : Happening ρ → Bool
  | .fellBack _ => true
  | _ => false

/-- What is heard of a log: neither what came of the attempts of the chain to end the response, nor
what the fallback says when it has been called. Once it has been called nobody else has a say. -/
def heard : List (Happening ρ) → List (Happening ρ)
  | [] => []
  | .fellBack request :: _ => [.fellBack request]
  | .finished _ :: log => heard log
  | .raised (.endFailed _ _ _) :: log => heard log
  | happening :: log => happening :: heard log

theorem any_isFellBack_heard (log : List (Happening ρ)) :
    (heard log).any Happening.isFellBack = log.any Happening.isFellBack := by
  fun_induction heard log <;> simp_all [Happening.isFellBack]

theorem heard_append (log others : List (Happening ρ)) :
    heard (log ++ others) =
      if log.any Happening.isFellBack then heard log else heard log ++ heard others := by
  fun_induction heard log with
  | case1 => rfl
  | case2 request log => simp [heard, Happening.isFellBack]
  | case3 failure log ih => simpa [heard, Happening.isFellBack] using ih
  | case4 method path error log ih => simpa [heard, Happening.isFellBack] using ih
  | case5 happening log hfellBack hfinished hfailed ih =>
    have hquiet : happening.isFellBack = false := by
      cases happening <;> simp_all [Happening.isFellBack]
    rw [List.cons_append, heard.eq_5 happening (log ++ others) hfellBack hfinished hfailed, ih,
      List.any_cons, hquiet, Bool.false_or]
    split <;> rfl

/-- Logs that are heard alike are heard alike with something before and after them. -/
theorem heard_append_congr {log log' others others' : List (Happening ρ)}
    (h : heard log = heard log') (h' : heard others = heard others') :
    heard (log ++ others) = heard (log' ++ others') := by
  rw [heard_append, heard_append, ← any_isFellBack_heard log, ← any_isFellBack_heard log', h, h']

/-! ## Closings -/

namespace Chain

variable [ResponseWriter σ] [ResponseWriter τ]

theorem heard_finish (chain : Chain σ ρ) : heard chain.finish.log = [] := by
  cases h : (ResponseWriter.finish chain.response).1 <;> simp [finish, h, heard]

/-- What is heard when a request is brought to its end: that it failed, or that the fallback is
called. -/
def lastWords (chain : Chain σ ρ) : List (Happening ρ) :=
  let request := chain.request
  match chain.error, chain.fallbackDue? with
  | some cause, _ =>
    .raised (.aborted request.method request.path request.route cause) ::
      if ResponseWriter.isEnded chain.response then [.raised (.errorNotDelivered request.path)]
      else []
  | none, some _ => [.fellBack request]
  | none, none => []

theorem heard_close (chain : Chain σ ρ) : heard chain.close.log = chain.lastWords := by
  unfold close lastWords
  cases failed : chain.error with
  | some cause =>
    dsimp only
    unfold abort
    split
    · rfl
    · exact congrArg (List.cons _) (heard_finish _)
  | none =>
    dsimp only
    rw [complete_eq chain failed]
    cases chain.fallbackDue? with
    | none =>
      dsimp only
      split
      · rfl
      · exact heard_finish chain
    | some fallback =>
      dsimp only
      split <;> rfl

theorem lastWords_map {f : σ → τ} (hf : Follows f) (chain : Chain σ ρ) :
    (chain.map f).lastWords = chain.lastWords := by
  have herror : (chain.map f).error = chain.error := rfl
  have hended : ResponseWriter.isEnded (chain.map f).response =
      ResponseWriter.isEnded chain.response := hf.isEnded _
  simp only [lastWords, fallbackDue?_map hf, herror, hended]
  rfl

/-- A chain that is given up is heard alike with both writers. -/
theorem heard_giveUp_map {f : σ → τ} (hf : Follows f) (chain : Chain σ ρ) :
    heard (chain.map f).giveUp.early = heard chain.giveUp.early := by
  have hclose : heard (chain.map f).close.log = heard chain.close.log := by
    rw [heard_close, heard_close, lastWords_map hf]
  exact congrArg (List.cons _) hclose

end Chain

/-! ## Undisturbed runs -/

/-- The chain and its slot, if somebody keeps it. -/
def Fate.kept? : Fate σ ρ → Option (Nat × Chain σ ρ)
  | .gone _ _ => none
  | .held slot chain => some (slot, chain)

@[simp] theorem Fate.kept?_map (f : σ → τ) (fate : Fate σ ρ) :
    (fate.map f).kept? = fate.kept?.map (Prod.map id (Chain.map f)) := by
  cases fate <;> rfl

/-- A run that goes on like another one: the same is heard, a panic goes on from both or from
neither, and the chain is put by in the same slot or gone in both. -/
structure Undisturbed (f : σ → τ) (run : Run σ ρ) (other : Run τ ρ) : Prop where
  heard_eq : heard other.early = heard run.early
  late_eq : other.late = run.late
  panicked_eq : other.panicked = run.panicked
  strayed_eq : other.strayed = run.strayed
  kept?_eq : other.fate.kept? = run.fate.kept?.map (Prod.map id (Chain.map f))

theorem Undisturbed.unwinds_eq {f : σ → τ} {run : Run σ ρ} {other : Run τ ρ}
    (h : Undisturbed f run other) : other.unwinds = run.unwinds := by
  rw [Run.unwinds, h.panicked_eq, h.strayed_eq, Run.unwinds]

theorem Undisturbed.late_followedBy {f : σ → τ} {run : Run σ ρ} {other : Run τ ρ}
    (h : Undisturbed f run other) (log : List (Happening ρ)) :
    (other.followedBy log).late = (run.followedBy log).late :=
  congrArg (· ++ log) h.late_eq

variable [ResponseWriter σ] [ResponseWriter τ]

theorem comparison_undisturbed {f : σ → τ} (hf : Follows f) {fallback : Option (Fallback ρ)}
    (hσ : FallbackReturns σ fallback) (hτ : FallbackReturns τ fallback) :
    Comparison f fallback (Undisturbed f) where
  follows := hf
  held _ _ := ⟨rfl, rfl, rfl, rfl, rfl⟩
  giveUp chain h := by
    refine ⟨chain.heard_giveUp_map hf, rfl, ?_, rfl, rfl⟩
    exact ((chain.map f).close_ends (h.symm ▸ hτ)).1.trans
      (chain.close_ends (h.symm ▸ hσ)).1.symm
  after log h :=
    ⟨heard_append_congr rfl h.heard_eq, h.late_eq, h.panicked_eq, h.strayed_eq, h.kept?_eq⟩
  panic h := ⟨h.heard_eq, h.late_eq, rfl, h.strayed_eq, h.kept?_eq⟩
  contain := by
    intro run other note h
    unfold Run.contain
    rw [h.unwinds_eq]
    split
    · exact ⟨h.heard_eq, h.late_followedBy _, rfl, rfl, h.kept?_eq⟩
    · exact h
  conclude := by
    intro run other rest h
    unfold Run.conclude
    rw [h.unwinds_eq]
    split
    · exact h
    · exact ⟨h.heard_eq, h.late_followedBy _, h.panicked_eq, rfl, h.kept?_eq⟩

/-! ## Chains that are kept -/

namespace Chain

/-- On its steps a chain only loses entries. -/
theorem Steps.ahead_subset {start chain : Chain σ ρ} {log : List (Happening ρ)}
    (steps : Steps start log chain) : chain.ahead ⊆ start.ahead := by
  induction steps with
  | refl => exact List.Subset.refl _
  | @tail _ _ chain _ _ step ih =>
    cases step with
    | enter count entry params =>
      have hdrop : (chain.ahead.drop count).tail ⊆ chain.ahead :=
        List.Subset.trans (List.tail_sublist _).subset (List.drop_subset _ _)
      exact List.Subset.trans hdrop ih
    | _ => exact ih

/-- A chain that is kept has the fallback that it had, and no entries ahead but those it had. -/
theorem Course.of_held {start chain : Chain σ ρ} {run : Run σ ρ} {slot : Nat}
    (course : Course start run) (fate : run.fate = .held slot chain) :
    chain.fallback = start.fallback ∧ chain.ahead ⊆ start.ahead := by
  cases course with
  | held _ steps held =>
    obtain ⟨-, rfl⟩ : slot = _ ∧ chain = _ := by simpa [fate] using held
    exact ⟨steps.fallback_eq, steps.ahead_subset⟩
  | gone _ _ _ _ gone => simp [fate] at gone

end Chain

/-! ## Deliveries without a receiver -/

theorem Delivery.follows_leave : Follows Delivery.leave where
  status _ := rfl
  isEnded _ := rfl
  edit _ _ := rfl
  finish delivery := by
    cases hended : delivery.ended <;> cases hmailbox : delivery.mailbox <;>
      simp [ResponseWriter.finish, Delivery.finish, Delivery.leave, hended, hmailbox]

theorem Outlet.follows_leave : Follows Outlet.leave where
  status outlet := by cases outlet <;> rfl
  isEnded outlet := by cases outlet <;> rfl
  edit outlet _ := by cases outlet <;> rfl
  finish outlet := by
    cases outlet with
    | delivering delivery =>
      exact congrArg Outlet.delivering (Delivery.follows_leave.finish delivery)
    | _ => rfl

/-- When the receiver has left, a chain goes on undisturbed, if neither who goes on with it nor the
remaining entries look at what came of their attempts to end the response. -/
theorem Chain.resume_undisturbed (chain : Chain Delivery ρ)
    (hreturns : FallbackReturns Delivery chain.fallback) {behaviour : Behaviour ρ}
    (heedless : behaviour.Heedless) (hahead : ∀ entry ∈ chain.ahead, entry.action.Heedless) :
    Undisturbed Delivery.leave (chain.resume behaviour)
      ((chain.map Delivery.leave).resume behaviour) :=
  (comparison_undisturbed Delivery.follows_leave hreturns hreturns).resume chain rfl behaviour
    (.inr heedless) (.inr hahead)

end RouteChain
