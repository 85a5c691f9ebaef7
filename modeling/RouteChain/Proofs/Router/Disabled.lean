import RouteChain.Proofs.Dispatch.Displacement
import RouteChain.Proofs.Router.Mounting

/-!
# Routes that are disabled

A pattern that fails to compile is registered all the same, and its route is disabled. Wherever it
stands among the other registrations, requests are served as if it were not there.

## Main definitions

* `Registration.FailsToCompile` — a registration whose pattern fails to compile.

The main result is `Router.disabled_is_inert`.
-/

namespace RouteChain

variable {σ ρ : Type}

/-! ## Patterns that match nothing -/

/-- An entry whose pattern failed to compile matches nothing. -/
theorem RouteEntry.fit_of_compile_error {compiler : PatternCompiler} {source : String}
    {coverage : Coverage} {error : PatternError}
    (h : compiler.compile source coverage = .error error) (methods : Methods) (role : Role)
    (action : Behaviour ρ) (method : Method) (path : String) :
    (⟨methods, (RoutePattern.lenient compiler (some source) coverage).1, role, action⟩ :
      RouteEntry ρ).fit method path = .misses := by
  simp [RouteEntry.fit, RoutePattern.lenient, RoutePattern.strict, h, Except.map, RoutePattern.fit]

namespace Registration

def FailsToCompile (compiler : PatternCompiler) : Registration ρ → Prop
  | .handler _ (some pattern) _ => ∃ error, compiler.compile pattern .whole = .error error
  | .middleware (some place) _ => ∃ error, compiler.compile place .leading = .error error
  | .handler _ none _ | .middleware none _ | .fallback _ | .mount _ _ _ | .nest _ _ => False

/-- What is registered with a pattern that fails to compile is one entry, which matches nothing. -/
theorem FailsToCompile.exists_entry {compiler : PatternCompiler} {registration : Registration ρ}
    (fails : registration.FailsToCompile compiler) :
    ∃ entry : RouteEntry ρ, registration.leaves.map (Leaf.entry compiler) = [entry] ∧
      registration.fallback? = none ∧ ∀ method path, entry.fit method path = .misses := by
  cases registration with
  | handler methods pattern action =>
    cases pattern with
    | none => cases fails
    | some pattern =>
      obtain ⟨error, hcompile⟩ := fails
      exact ⟨_, rfl, rfl, RouteEntry.fit_of_compile_error hcompile methods .handler action⟩
  | middleware place action =>
    cases place with
    | none => cases fails
    | some place =>
      obtain ⟨error, hcompile⟩ := fails
      exact ⟨_, rfl, rfl, RouteEntry.fit_of_compile_error hcompile .any .middleware action⟩
  | fallback answer => cases fails
  | mount place inner registrations => cases fails
  | nest place registrations => cases fails

theorem leavesOfAll_append (registrations others : List (Registration ρ)) :
    leavesOfAll (registrations ++ others) = leavesOfAll registrations ++ leavesOfAll others := by
  induction registrations with
  | nil => rfl
  | cons registration registrations ih => simp [leavesOfAll, ih]

end Registration

/-! ## Registering one more -/

/-- An element that is put in where the first of two lists ends stands between them. -/
theorem insertIdx_length_append {α : Type} (xs ys : List α) (x : α) :
    (xs ++ ys).insertIdx xs.length x = xs ++ x :: ys := by
  induction xs with
  | nil => rw [List.nil_append, List.length_nil, List.insertIdx_zero, List.nil_append]
  | cons y xs ih => rw [List.cons_append, List.length_cons, List.insertIdx_succ_cons, ih,
      List.cons_append]

namespace Router

/-- A registration whose pattern fails to compile puts one entry among the others, which matches
nothing. -/
theorem entries_of_failsToCompile (router : Router ρ) (before after : List (Registration ρ))
    {inserted : Registration ρ} (fails : inserted.FailsToCompile router.compiler) :
    ∃ (entry : RouteEntry ρ) (behind : List (RouteEntry ρ)),
      (∀ method path, entry.fit method path = .misses) ∧
      (router.carryOutAll (before ++ after)).entries =
        (router.carryOutAll before).entries ++ behind ∧
      (router.carryOutAll (before ++ inserted :: after)).entries =
        (router.carryOutAll before).entries ++ entry :: behind ∧
      (router.carryOutAll (before ++ inserted :: after)).fallback =
        (router.carryOutAll (before ++ after)).fallback := by
  obtain ⟨entry, hleaves, hfallback, inert⟩ := fails.exists_entry
  have hbefore := router.gains_carryOutAll before
  have hfewer := router.gains_carryOutAll (before ++ after)
  have hmore := router.gains_carryOutAll (before ++ inserted :: after)
  let behind := (Registration.leavesOfAll after).map (Leaf.entry router.compiler)
  refine ⟨entry, behind, inert, ?_, ?_, ?_⟩
  · rw [hfewer.entries_eq, hbefore.entries_eq, Registration.leavesOfAll_append, List.map_append,
      List.append_assoc]
  · rw [hmore.entries_eq, hbefore.entries_eq, Registration.leavesOfAll_append,
      Registration.leavesOfAll, List.map_append, List.map_append, hleaves, List.append_assoc]
    rfl
  · rw [hmore.fallback_eq, hfewer.fallback_eq, List.filterMap_append, List.filterMap_append,
      List.filterMap_cons_none hfallback]

/-- A registration whose pattern fails to compile is inert wherever it stands among others, which
may be mounted routers and fallbacks as well. If the actions of the others do not look at their
number, every run goes on as it does without it. The same actions are invoked, with the same
parameters, patterns and errors, and so is the same fallback. The same events are raised, the same
panic goes on, and the response is left as it was, whatever the writer. Only the numbers of the
entries behind it are greater by one. -/
theorem disabled_is_inert [ResponseWriter σ] (router : Router ρ)
    (before after : List (Registration ρ)) {inserted : Registration ρ}
    (fails : inserted.FailsToCompile router.compiler) (request : Request) (response : σ)
    {resumptions : List (Resumption σ ρ)}
    (unplaced : ∀ entry ∈ (router.carryOutAll (before ++ after)).entries, entry.action.Unplaced)
    (unplaced' : ∀ resumption ∈ resumptions, resumption.behaviour.Unplaced) :
    let place := (router.carryOutAll before).entries.length
    let fewer := router.carryOutAll (before ++ after)
    let more := router.carryOutAll (before ++ inserted :: after)
    ∃ entry, (∀ method path, entry.fit method path = .misses) ∧
      more.entries = fewer.entries.insertIdx place entry ∧
      Displaces place entry (fewer.dispatcher.serve request response resumptions)
        (more.dispatcher.serve request response resumptions) := by
  intro place fewer more
  obtain ⟨entry, behind, inert, hfewer, hmore, hfallback⟩ :=
    router.entries_of_failsToCompile before after fails
  have hplace : place ≤ fewer.dispatcher.entries.length := by
    rw [dispatcher, hfewer, List.length_append]
    exact Nat.le_add_right _ _
  have hentries : more.entries = fewer.entries.insertIdx place entry := by
    rw [hmore, hfewer, insertIdx_length_append]
  have hdispatcher : more.dispatcher =
      ⟨fewer.dispatcher.entries.insertIdx place entry, fewer.dispatcher.fallback⟩ := by
    rw [dispatcher, hentries, hfallback]
    rfl
  rw [hdispatcher]
  exact ⟨entry, inert, hentries,
    fewer.dispatcher.displaces_serve inert hplace request response unplaced unplaced'⟩

/-- Between a middleware and a handler, a route with a constraint that is not an expression only
moves the handler. -/
theorem disabled_is_inert_of_reversed_range :
    let before : List (Registration Unit) := [.middleware none .pass]
    let after : List (Registration Unit) := [.handler (.only .get) (some "/a") (.send 200 [111])]
    let inserted : Registration Unit := .handler .any (some "/:id([z-a])") .panic
    let router : Router Unit := {}
    let request : Request := ⟨.get, "/a", {}, none, none, .empty, none⟩
    let run := (router.carryOutAll (before ++ after)).dispatcher.serve request ({} : Recorder) []
    let other := (router.carryOutAll (before ++ inserted :: after)).dispatcher.serve request
      ({} : Recorder) []
    inserted.FailsToCompile router.compiler ∧
      (invocations run.log).map View.position = [some 0, some 1] ∧
      (invocations other.log).map View.position = [some 0, some 2] ∧
      other.fate.response = run.fate.response ∧ run.fate.response.response.body = [111] := by
  intro before after inserted router request run other
  have fails : inserted.FailsToCompile router.compiler := ⟨_, rfl⟩
  have unplaced : ∀ entry ∈ (router.carryOutAll (before ++ after)).entries,
      entry.action.Unplaced := by
    intro entry mem
    rw [(router.gains_carryOutAll _).entries_eq] at mem
    simp only [before, after, router, List.cons_append, List.nil_append, Registration.leavesOfAll,
      Registration.leaves, List.map_cons, List.map_nil, List.mem_cons, List.not_mem_nil,
      or_false] at mem
    rcases mem with rfl | rfl <;> trivial
  have unplaced' : ∀ resumption ∈ ([] : List (Resumption Recorder Unit)),
      resumption.behaviour.Unplaced := by simp
  obtain ⟨entry, -, -, displaces⟩ := router.disabled_is_inert before after fails request
    ({} : Recorder) unplaced unplaced'
  exact ⟨fails, by decide +kernel, by decide +kernel, displaces.response_eq, by decide +kernel⟩

end Router

end RouteChain
