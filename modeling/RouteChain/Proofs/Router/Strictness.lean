import RouteChain.Proofs.Router.AtRoot
import RouteChain.Proofs.Router.BelowLiterals

/-!
# Strict registrations

A strict registration is refused if its pattern fails to compile. Otherwise it is what it is without
being strict. Refused registrations leave no trace: a router to which some are addressed, at any
depth, becomes what the others make of it.

## Main definitions

* `StrictRegistration` — what is registered only if its pattern is compiled.
* `StrictRegistration.refusal?` — why it is refused, if it is.
* `Attempt` — a registration with strict ones in it, at any depth.
* `Router.attempt`, `Router.attemptAll` — what becomes of attempts, and the router after them.
* `Attempt.accepted` — what remains of an attempt without the registrations that are refused.

The main result is `Router.strict_agrees`.
-/

namespace RouteChain

variable {ρ : Type}

/-! ## Single registrations -/

/-- What is registered only if its pattern is compiled. -/
inductive StrictRegistration (ρ : Type) where
  | handler (methods : Methods) (pattern : String) (action : Behaviour ρ)
  | middleware (place : String) (action : Behaviour ρ)

namespace StrictRegistration

def pattern : StrictRegistration ρ → String
  | .handler _ pattern _ => pattern
  | .middleware place _ => place

def coverage : StrictRegistration ρ → Coverage
  | .handler _ _ _ => .whole
  | .middleware _ _ => .leading

def lenient : StrictRegistration ρ → Registration ρ
  | .handler methods pattern action => .handler methods (some pattern) action
  | .middleware place action => .middleware (some place) action

/-- Why the registration is refused, if it is, at routers that compile patterns like this. -/
def refusal? (registration : StrictRegistration ρ) (compiler : PatternCompiler) :
    Option PatternError :=
  match compiler.compile registration.pattern registration.coverage with
  | .ok _ => none
  | .error error => some error

theorem refusal?_of_ok {registration : StrictRegistration ρ} {compiler : PatternCompiler}
    {compiled : CompiledPattern}
    (h : compiler.compile registration.pattern registration.coverage = .ok compiled) :
    registration.refusal? compiler = none := by
  unfold refusal?
  rw [h]

theorem refusal?_of_error {registration : StrictRegistration ρ} {compiler : PatternCompiler}
    {error : PatternError}
    (h : compiler.compile registration.pattern registration.coverage = .error error) :
    registration.refusal? compiler = some error := by
  unfold refusal?
  rw [h]

/-- What remains of the registration: all of it, or nothing if it is refused. -/
def accepted (registration : StrictRegistration ρ) (compiler : PatternCompiler) :
    List (Registration ρ) :=
  if (registration.refusal? compiler).isNone then [registration.lenient] else []

end StrictRegistration

/-- An error of the compiler names the pattern as it was given. -/
theorem PatternCompiler.pattern_of_compile_error {compiler : PatternCompiler} {pattern : String}
    {coverage : Coverage} {error : PatternError}
    (h : compiler.compile pattern coverage = .error error) : error.pattern = pattern := by
  simp only [compile] at h
  split at h
  · obtain rfl := Except.error.inj h
    rfl
  · split at h
    · cases h
    · obtain rfl := Except.error.inj h
      rfl

/-- A pattern that fails to compile is registered as one that matches nothing. -/
theorem RoutePattern.lenient_of_error {compiler : PatternCompiler} {source : String}
    {coverage : Coverage} {error : PatternError}
    (h : compiler.compile source coverage = .error error) :
    (lenient compiler (some source) coverage).1 = ⟨some source, coverage, .disabled⟩ := by
  simp [lenient, strict, h, Except.map]

namespace Router

def carryOutStrict (router : Router ρ) : StrictRegistration ρ → Except PatternError (Router ρ)
  | .handler methods pattern action => router.routeStrict methods pattern action
  | .middleware place action => router.useStrict place action

/-- A strict registration that is not refused is carried out as if it were not strict. -/
theorem carryOutStrict_eq (router : Router ρ) (registration : StrictRegistration ρ) :
    router.carryOutStrict registration =
      (router.compiler.compile registration.pattern registration.coverage).map (fun _ =>
        router.carryOut registration.lenient) := by
  cases registration <;>
    simp only [carryOutStrict, routeStrict, useStrict, registerStrict_eq, carryOut, route, use,
      StrictRegistration.lenient, StrictRegistration.pattern, StrictRegistration.coverage]

theorem carryOutStrict_eq_ok_iff {router later : Router ρ} {registration : StrictRegistration ρ} :
    router.carryOutStrict registration = .ok later ↔
      (∃ compiled, router.compiler.compile registration.pattern registration.coverage =
        .ok compiled) ∧ later = router.carryOut registration.lenient := by
  rw [carryOutStrict_eq]
  cases router.compiler.compile registration.pattern registration.coverage with
  | ok compiled => simp [Except.map, eq_comm]
  | error error => simp [Except.map]

theorem carryOutStrict_eq_error_iff {router : Router ρ} {registration : StrictRegistration ρ}
    {error : PatternError} : router.carryOutStrict registration = .error error ↔
      router.compiler.compile registration.pattern registration.coverage = .error error := by
  rw [carryOutStrict_eq]
  cases router.compiler.compile registration.pattern registration.coverage <;> simp [Except.map]

/-- Without being strict, a registration adds one entry with its pattern. -/
theorem entries_carryOut_lenient (router : Router ρ) (registration : StrictRegistration ρ) :
    ∃ entry : RouteEntry ρ, (router.carryOut registration.lenient).entries =
        router.entries ++ [entry] ∧
      entry.pattern = (RoutePattern.lenient router.compiler (some registration.pattern)
        registration.coverage).1 := by
  cases registration <;>
    simp only [StrictRegistration.lenient, StrictRegistration.pattern,
      StrictRegistration.coverage, carryOut, route, use, entries_register] <;>
    exact ⟨_, rfl, by dsimp only⟩

/-- Without being strict, a registration adds a valid entry if its pattern is compiled. -/
theorem adds_valid_iff {router : Router ρ} {registration : StrictRegistration ρ} :
    (∃ entry, (router.carryOut registration.lenient).entries = router.entries ++ [entry] ∧
        entry.pattern.isValid = true) ↔
      ∃ compiled, router.compiler.compile registration.pattern registration.coverage =
        .ok compiled := by
  obtain ⟨entry, hentries, hpattern⟩ := router.entries_carryOut_lenient registration
  simp only [hentries, List.append_cancel_left_eq, List.singleton_inj, exists_eq_left', hpattern]
  constructor
  · exact RoutePattern.isValid_lenient
  · rintro ⟨compiled, hcompile⟩
    simp [RoutePattern.lenient_of_compile hcompile, RoutePattern.isValid]

/-- If its pattern fails to compile, it adds an entry that misses every request. -/
theorem adds_disabled {router : Router ρ} {registration : StrictRegistration ρ}
    {error : PatternError} (h : router.compiler.compile registration.pattern
      registration.coverage = .error error) :
    ∃ entry, (router.carryOut registration.lenient).entries = router.entries ++ [entry] ∧
      entry.pattern.source = some registration.pattern ∧
      entry.pattern.coverage = registration.coverage ∧ entry.pattern.parameterNames = [] ∧
      ∀ method path, entry.fit method path = .misses := by
  obtain ⟨entry, hentries, hpattern⟩ := router.entries_carryOut_lenient registration
  rw [RoutePattern.lenient_of_error h] at hpattern
  refine ⟨entry, hentries, by rw [hpattern], by rw [hpattern], ?_, fun method path => ?_⟩
  · simp [hpattern, RoutePattern.parameterNames, RoutePattern.compiled?]
  · simp [RouteEntry.fit, hpattern, RoutePattern.fit]

end Router

/-! ## Attempts -/

/-- A registration with strict ones in it. A router that is mounted may be filled by attempts as
well. -/
inductive Attempt (ρ : Type) where
  | strict (registration : StrictRegistration ρ)
  | lenient (registration : Registration ρ)
  | mount (place : String) (compiler : PatternCompiler) (attempts : List (Attempt ρ))
  | nest (place : String) (attempts : List (Attempt ρ))

namespace Router

mutual

/-- Why the strict registrations of an attempt are refused, if they are, in order, and the router
after the attempt. -/
def attempt (router : Router ρ) : Attempt ρ → List (Option PatternError) × Router ρ
  | .strict registration =>
    match router.carryOutStrict registration with
    | .ok later => ([none], later)
    | .error error => ([some error], router)
  | .lenient registration => ([], router.carryOut registration)
  | .mount place compiler attempts =>
    let (verdicts, inner) := attemptAll { compiler } attempts
    (verdicts, router.mount place inner)
  | .nest place attempts =>
    ((attemptAll {} attempts).1, router.nest place (fun inner => (attemptAll inner attempts).2))

def attemptAll (router : Router ρ) : List (Attempt ρ) → List (Option PatternError) × Router ρ
  | [] => ([], router)
  | first :: attempts =>
    let (verdicts, later) := attempt router first
    let (others, last) := attemptAll later attempts
    (verdicts ++ others, last)

end

end Router

namespace Attempt

mutual

/-- Why the strict registrations of an attempt are refused, if they are, at routers that compile
patterns like this. -/
def verdicts (compiler : PatternCompiler) : Attempt ρ → List (Option PatternError)
  | .strict registration => [registration.refusal? compiler]
  | .lenient _ => []
  | .mount _ inner attempts => verdictsOfAll inner attempts
  | .nest _ attempts => verdictsOfAll {} attempts

def verdictsOfAll (compiler : PatternCompiler) : List (Attempt ρ) → List (Option PatternError)
  | [] => []
  | first :: attempts => verdicts compiler first ++ verdictsOfAll compiler attempts

end

mutual

/-- The registrations of an attempt without those that are refused, none of them strict. -/
def accepted (compiler : PatternCompiler) : Attempt ρ → List (Registration ρ)
  | .strict registration => registration.accepted compiler
  | .lenient registration => [registration]
  | .mount place inner attempts => [.mount place inner (acceptedOfAll inner attempts)]
  | .nest place attempts => [.nest place (acceptedOfAll {} attempts)]

def acceptedOfAll (compiler : PatternCompiler) : List (Attempt ρ) → List (Registration ρ)
  | [] => []
  | first :: attempts => accepted compiler first ++ acceptedOfAll compiler attempts

end

end Attempt

namespace Router

theorem carryOutAll_append (router : Router ρ) (registrations others : List (Registration ρ)) :
    router.carryOutAll (registrations ++ others) =
      (router.carryOutAll registrations).carryOutAll others := by
  induction registrations generalizing router with
  | nil => rfl
  | cons registration registrations ih => simp only [List.cons_append, carryOutAll, ih]

mutual

/-- What is refused depends on how patterns are compiled only, and the router becomes what the other
registrations make of it. -/
theorem attempt_eq (router : Router ρ) (first : Attempt ρ) : router.attempt first =
    (first.verdicts router.compiler, router.carryOutAll (first.accepted router.compiler)) := by
  cases first with
  | strict registration =>
    cases hcompile : router.compiler.compile registration.pattern registration.coverage with
    | ok compiled =>
      have hstrict : router.carryOutStrict registration = .ok _ :=
        carryOutStrict_eq_ok_iff.mpr ⟨⟨compiled, hcompile⟩, rfl⟩
      simp [attempt, hstrict, Attempt.verdicts, Attempt.accepted, StrictRegistration.accepted,
        StrictRegistration.refusal?_of_ok hcompile, carryOutAll]
    | error error =>
      have hstrict := carryOutStrict_eq_error_iff.mpr hcompile
      simp [attempt, hstrict, Attempt.verdicts, Attempt.accepted, StrictRegistration.accepted,
        StrictRegistration.refusal?_of_error hcompile, carryOutAll]
  | lenient registration => rfl
  | mount place compiler attempts =>
    simp [attempt, attemptAll_eq, Attempt.verdicts, Attempt.accepted, carryOutAll, carryOut]
  | nest place attempts =>
    simp [attempt, attemptAll_eq, Attempt.verdicts, Attempt.accepted, carryOutAll, carryOut, nest]

theorem attemptAll_eq (router : Router ρ) (attempts : List (Attempt ρ)) :
    router.attemptAll attempts = (Attempt.verdictsOfAll router.compiler attempts,
      router.carryOutAll (Attempt.acceptedOfAll router.compiler attempts)) := by
  cases attempts with
  | nil => rfl
  | cons first attempts =>
    have hcompiler := (router.gains_carryOutAll (first.accepted router.compiler)).compiler_eq
    simp [attemptAll, attempt_eq router first, attemptAll_eq _ attempts, hcompiler,
      Attempt.verdictsOfAll, Attempt.acceptedOfAll, carryOutAll_append]

end

/-! ## Agreement -/

/-- Strict and lenient registration agree, and a refusal leaves no trace. A strict registration is
carried out if and only if without being strict it adds an entry whose pattern is valid, and then
both leave the same router. If it is refused, the error names the pattern as it was given, the
router stays as it is, and whatever is attempted later turns out as if nothing had been refused.
Without being strict, the registration adds one entry then, which keeps the text and the coverage of
its pattern, has no parameters and misses every request. Whatever is attempted at a router, at any
depth, the strict registrations are refused or not according to their patterns and to how these are
compiled, and the router becomes what the others make of it. -/
theorem strict_agrees (router : Router ρ) (registration : StrictRegistration ρ) :
    let lenient := router.carryOut registration.lenient
    ((∃ later, router.carryOutStrict registration = .ok later) ↔
      ∃ entry, lenient.entries = router.entries ++ [entry] ∧ entry.pattern.isValid = true) ∧
    (∀ later, router.carryOutStrict registration = .ok later → later = lenient) ∧
    (∀ error, router.carryOutStrict registration = .error error →
      error.pattern = registration.pattern ∧
      router.attempt (.strict registration) = ([some error], router) ∧
      (∀ attempts, router.attemptAll (.strict registration :: attempts) =
        (some error :: (router.attemptAll attempts).1, (router.attemptAll attempts).2)) ∧
      ∃ entry, lenient.entries = router.entries ++ [entry] ∧
        entry.pattern.source = some registration.pattern ∧
        entry.pattern.coverage = registration.coverage ∧ entry.pattern.parameterNames = [] ∧
        ∀ method path, entry.fit method path = .misses) ∧
    ∀ attempts, router.attemptAll attempts = (Attempt.verdictsOfAll router.compiler attempts,
      router.carryOutAll (Attempt.acceptedOfAll router.compiler attempts)) := by
  intro lenient
  refine ⟨?_, fun later h => (carryOutStrict_eq_ok_iff.mp h).2, fun error h => ?_,
    router.attemptAll_eq⟩
  · rw [adds_valid_iff]
    simp [carryOutStrict_eq_ok_iff]
  · have hcompile := carryOutStrict_eq_error_iff.mp h
    have hattempt : router.attempt (.strict registration) = ([some error], router) := by
      simp [attempt, h]
    refine ⟨PatternCompiler.pattern_of_compile_error hcompile, hattempt, fun attempts => ?_,
      adds_disabled hcompile⟩
    simp [attemptAll, hattempt]

/-- A route with a constraint that is not an expression is refused, and a middleware is then
registered as if nothing had been refused. -/
theorem strict_agrees_of_reversed_range :
    let router : Router Unit := ({} : Router Unit).useAll .pass
    let route : StrictRegistration Unit := .handler (.only .get) "/:id([z-a])" .drop
    let middleware : StrictRegistration Unit := .middleware "/a" .pass
    ∃ error, router.carryOutStrict route = .error error ∧ error.pattern = "/:id([z-a])" ∧
      router.attemptAll [.strict route, .strict middleware] =
        ([some error, none], router.carryOut middleware.lenient) := by
  intro router route middleware
  obtain ⟨error, herror⟩ : ∃ error, router.carryOutStrict route = .error error := ⟨_, rfl⟩
  obtain ⟨-, -, hrefused, -⟩ := router.strict_agrees route
  obtain ⟨hpattern, -, hattempts, -⟩ := hrefused error herror
  obtain ⟨-, hlenient, -⟩ := router.strict_agrees middleware
  obtain ⟨later, hlater⟩ : ∃ later, router.carryOutStrict middleware = .ok later := ⟨_, rfl⟩
  refine ⟨error, herror, hpattern, ?_⟩
  rw [hattempts, ← hlenient later hlater]
  simp [attemptAll, attempt, hlater]

end Router

end RouteChain
