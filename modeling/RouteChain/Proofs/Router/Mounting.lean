import Mathlib.Data.List.DropRight
import RouteChain.Proofs.Pattern.Guarding

/-!
# Mounted routers

Routers may be mounted below one another to any depth. What comes of it is one list of entries, as
if each action had been registered at the outermost router, in the order of the text.

## Main definitions

* `Registration` — what is registered at a router, routers that are mounted below it included.
* `Router.carryOut`, `Router.carryOutAll` — the router after some registrations.
* `Leaf` — an action that is registered somewhere below a router, with the places around it.
* `Registration.leaves` — the actions of a registration, in order.
* `joined` — some texts joined to one pattern.

The main result is `Router.mounting_flattens`.
-/

namespace RouteChain

/-! ## Places below places -/

section Trim

variable {α : Type} (p : α → Bool)

/-- What is dropped at the end of a list does not depend on what stands before the rest of it. -/
theorem rdropWhile_append_of_ne_nil (xs : List α) {ys : List α} (h : ys.rdropWhile p ≠ []) :
    (xs ++ ys).rdropWhile p = xs ++ ys.rdropWhile p := by
  have hreverse : ys.reverse.dropWhile p ≠ [] := by simpa [List.rdropWhile] using h
  simp [List.rdropWhile, List.dropWhile_append, hreverse]

/-- Both ends of a list may be dropped in any order. -/
theorem dropWhile_rdropWhile (xs : List α) :
    (xs.rdropWhile p).dropWhile p = (xs.dropWhile p).rdropWhile p := by
  induction xs with
  | nil => rfl
  | cons x xs ih =>
    by_cases hnil : xs.rdropWhile p = []
    · have hall : ∀ y ∈ xs, p y = true := List.rdropWhile_eq_nil_iff.mp hnil
      by_cases hx : p x = true
      · have hboth : (x :: xs).rdropWhile p = [] :=
          List.rdropWhile_eq_nil_iff.mpr (List.forall_mem_cons.mpr ⟨hx, hall⟩)
        rw [hboth, List.dropWhile_cons_of_pos hx, ← ih, hnil]
      · have hone : (x :: xs).rdropWhile p = [x] := by
          have hreverse : ∀ y ∈ xs.reverse, p y = true := by simpa using hall
          simp [List.rdropWhile, List.dropWhile_append, List.dropWhile_eq_nil_iff.mpr hreverse, hx]
        rw [List.dropWhile_cons_of_neg hx, hone, List.dropWhile_cons_of_neg hx]
    · have hcons : (x :: xs).rdropWhile p = x :: xs.rdropWhile p :=
        rdropWhile_append_of_ne_nil p [x] hnil
      rw [hcons]
      by_cases hx : p x = true
      · rw [List.dropWhile_cons_of_pos hx, List.dropWhile_cons_of_pos hx, ih]
      · rw [List.dropWhile_cons_of_neg hx, List.dropWhile_cons_of_neg hx, hcons]

end Trim

/-- A place below a place below a place is the same, whichever two are joined first. -/
theorem patternBelow_assoc (a b c : String) :
    patternBelow (patternBelow a b) c = patternBelow a (patternBelow b c) := by
  have htrim (text : List Char) : (text.reverse.dropWhile (· = '/')).reverse =
      text.rdropWhile (· = '/') := rfl
  simp only [patternBelow, String.toList_ofList, htrim]
  congr 1
  generalize a.toList = a, b.toList = b, c.toList = c
  by_cases hb : b.dropWhile (· = '/') = []
  · have hb' : b.rdropWhile (· = '/') = [] :=
      List.rdropWhile_eq_nil_iff.mpr (List.dropWhile_eq_nil_iff.mp hb)
    rw [hb, hb', List.rdropWhile_concat_pos _ _ _ (by simp), List.rdropWhile_idempotent]
    simp [List.dropWhile_idempotent]
  · have htrimmed : (b.dropWhile (· = '/')).rdropWhile (· = '/') ≠ [] := by
      intro hnil
      have hdropped := List.dropWhile_eq_nil_iff.mpr (List.rdropWhile_eq_nil_iff.mp hnil)
      rw [List.dropWhile_idempotent] at hdropped
      exact hb hdropped
    have hleft : (a.rdropWhile (· = '/') ++ '/' :: b.dropWhile (· = '/')).rdropWhile (· = '/') =
        a.rdropWhile (· = '/') ++ '/' :: (b.dropWhile (· = '/')).rdropWhile (· = '/') := by
      simpa using rdropWhile_append_of_ne_nil (· = '/') (a.rdropWhile (· = '/') ++ ['/']) htrimmed
    rw [← dropWhile_rdropWhile] at htrimmed hleft
    rw [hleft, List.dropWhile_append]
    simp [htrimmed]

/-! ## Registrations -/

variable {ρ : Type}

/-- What is registered at a router. An action is for all paths unless it has a pattern. -/
inductive Registration (ρ : Type) where
  | handler (methods : Methods) (pattern : Option String) (action : Behaviour ρ)
  | middleware (place : Option String) (action : Behaviour ρ)
  | fallback (answer : Fallback ρ)
  /-- A router is filled, whose patterns are compiled in its own way, and mounted below a place. -/
  | mount (place : String) (compiler : PatternCompiler) (registrations : List (Registration ρ))
  | nest (place : String) (registrations : List (Registration ρ))

namespace Router

mutual

def carryOut (router : Router ρ) : Registration ρ → Router ρ
  | .handler methods (some pattern) action => router.route methods pattern action
  | .handler methods none action => router.routeAll methods action
  | .middleware (some place) action => router.use place action
  | .middleware none action => router.useAll action
  | .fallback answer => router.setFallback answer
  | .mount place compiler registrations =>
    router.mount place (carryOutAll { compiler } registrations)
  | .nest place registrations =>
    router.nest place (fun inner => carryOutAll inner registrations)

def carryOutAll (router : Router ρ) : List (Registration ρ) → Router ρ
  | [] => router
  | registration :: registrations => carryOutAll (carryOut router registration) registrations

end

end Router

/-! ## Leaves -/

/-- Some texts joined to one pattern, if there is any. -/
def joined : List String → Option String
  | [] => none
  | text :: texts =>
    match joined texts with
    | none => some text
    | some rest => some (patternBelow text rest)

/-- An action that is registered somewhere below a router, with its own pattern and what that
covers, if it has one. The places of the routers around it are told from the outermost one to the
innermost. -/
structure Leaf (ρ : Type) where
  places : List String := []
  methods : Methods
  pattern : Option (String × Coverage)
  role : Role
  action : Behaviour ρ

namespace Leaf

def below (place : String) (leaf : Leaf ρ) : Leaf ρ :=
  { leaf with places := place :: leaf.places }

/-- The text of the pattern as it is registered at the outermost router: the places and the pattern,
joined. Without any of them there is none. -/
def source (leaf : Leaf ρ) : Option String :=
  joined (leaf.places ++ (leaf.pattern.map Prod.fst).toList)

/-- What the pattern covers. Where the places are all there is, it covers whatever begins with
them. -/
def coverage (leaf : Leaf ρ) : Coverage :=
  (leaf.pattern.map Prod.snd).getD .leading

/-- The entry of the action at a router that compiles patterns like this. -/
def entry (compiler : PatternCompiler) (leaf : Leaf ρ) : RouteEntry ρ :=
  ⟨leaf.methods, (RoutePattern.lenient compiler leaf.source leaf.coverage).1, leaf.role,
    leaf.action⟩

end Leaf

namespace Registration

mutual

/-- The actions of a registration, in the order of the text. -/
def leaves : Registration ρ → List (Leaf ρ)
  | .handler methods pattern action =>
    [{ methods, pattern := pattern.map (·, .whole), role := .handler, action }]
  | .middleware place action =>
    [{ methods := .any, pattern := place.map (·, .leading), role := .middleware, action }]
  | .fallback _ => []
  | .mount place _ registrations | .nest place registrations =>
    (leavesOfAll registrations).map (Leaf.below place)

def leavesOfAll : List (Registration ρ) → List (Leaf ρ)
  | [] => []
  | registration :: registrations => leaves registration ++ leavesOfAll registrations

end

def fallback? : Registration ρ → Option (Fallback ρ)
  | .fallback answer => some answer
  | _ => none

end Registration

/-! ## Mounting -/

/-- A registered pattern keeps its text, whether or not it was compiled. -/
theorem RoutePattern.source_lenient (compiler : PatternCompiler) (source : Option String)
    (coverage : Coverage) : (lenient compiler source coverage).1.source = source := by
  cases source with
  | none => rfl
  | some text =>
    cases hcompile : compiler.compile text coverage <;> simp [lenient, strict, hcompile, Except.map]

theorem RoutePattern.coverage_lenient (compiler : PatternCompiler) (text : String)
    (coverage : Coverage) : (lenient compiler (some text) coverage).1.coverage = coverage := by
  cases hcompile : compiler.compile text coverage <;> simp [lenient, strict, hcompile, Except.map]

/-- An entry as it is registered again at a router that compiles patterns like this, below a
place. -/
def RouteEntry.below (compiler : PatternCompiler) (place : String) (entry : RouteEntry ρ) :
    RouteEntry ρ :=
  let pattern := joined (place :: entry.pattern.source.toList)
  let coverage := if entry.pattern.source.isSome then entry.pattern.coverage else .leading
  { entry with pattern := (RoutePattern.lenient compiler pattern coverage).1 }

namespace Router

/-- What a router has gained since it was another one: entries behind those that it had, and perhaps
a fallback. Its way to compile patterns has not changed. -/
structure Gains (router : Router ρ) (entries : List (RouteEntry ρ)) (fallback : Option (Fallback ρ))
    (later : Router ρ) : Prop where
  entries_eq : later.entries = router.entries ++ entries
  compiler_eq : later.compiler = router.compiler
  fallback_eq : later.fallback = fallback.or router.fallback

theorem Gains.nothing (router : Router ρ) : router.Gains [] none router :=
  ⟨(List.append_nil _).symm, rfl, rfl⟩

theorem Gains.trans {router later last : Router ρ} {entries others : List (RouteEntry ρ)}
    {fallback fallback' : Option (Fallback ρ)} (h : router.Gains entries fallback later)
    (h' : later.Gains others fallback' last) :
    router.Gains (entries ++ others) (fallback'.or fallback) last where
  entries_eq := by rw [h'.entries_eq, h.entries_eq, List.append_assoc]
  compiler_eq := h'.compiler_eq.trans h.compiler_eq
  fallback_eq := by rw [h'.fallback_eq, h.fallback_eq, Option.or_assoc]

theorem gains_add (router : Router ρ) (entry : RouteEntry ρ) :
    router.Gains [entry] none (router.add entry) :=
  ⟨rfl, rfl, rfl⟩

theorem gains_register (router : Router ρ) (methods : Methods) (pattern : String)
    (coverage : Coverage) (role : Role) (action : Behaviour ρ) :
    router.Gains
      [⟨methods, (RoutePattern.lenient router.compiler (some pattern) coverage).1, role, action⟩]
      none (router.register methods pattern coverage role action) := by
  refine ⟨router.entries_register methods pattern coverage role action, ?_, ?_⟩ <;>
  · unfold register
    cases RoutePattern.lenient router.compiler (some pattern) coverage
    rfl

theorem gains_mountEntry (place : String) (router : Router ρ) (entry : RouteEntry ρ) :
    router.Gains [entry.below router.compiler place] none (mountEntry place router entry) := by
  unfold mountEntry
  cases hsource : entry.pattern.source with
  | none => simpa [RouteEntry.below, hsource, joined] using router.gains_register ..
  | some source => simpa [RouteEntry.below, hsource, joined] using router.gains_register ..

/-- Mounting a router adds its entries below the place, in their order. -/
theorem gains_mount (router : Router ρ) (place : String) (inner : Router ρ) :
    router.Gains (inner.entries.map (RouteEntry.below router.compiler place)) none
      (router.mount place inner) := by
  have hmounted (mounted : Router ρ) (entries : List (RouteEntry ρ)) :
      mounted.Gains (entries.map (RouteEntry.below mounted.compiler place)) none
        (entries.foldl (mountEntry place) mounted) := by
    induction entries generalizing mounted with
    | nil => exact .nothing mounted
    | cons entry entries ih =>
      have hentry := gains_mountEntry place mounted entry
      have hentries := ih (mountEntry place mounted entry)
      rw [hentry.compiler_eq] at hentries
      exact hentry.trans hentries
  unfold mount
  obtain ⟨hentries, hcompiler, hfallback⟩ := hmounted { router with events := _ } inner.entries
  exact ⟨hentries, hcompiler, hfallback⟩

end Router

/-- Texts behind a first one may be joined before. -/
theorem joined_cons (text : String) (texts : List String) :
    joined (text :: (joined texts).toList) = joined (text :: texts) := by
  cases hjoined : joined texts <;> simp [joined, hjoined]

theorem eq_nil_of_joined {texts : List String} (h : joined texts = none) : texts = [] := by
  cases texts with
  | nil => rfl
  | cons text texts =>
    rw [joined] at h
    split at h <;> cases h

/-- The entry of an action is registered below a place as that of the action with one more router
around it. -/
theorem Leaf.below_entry (compiler outer : PatternCompiler) (place : String) (leaf : Leaf ρ) :
    (leaf.entry compiler).below outer place = (leaf.below place).entry outer := by
  have hsource : (leaf.below place).source = joined (place :: leaf.source.toList) :=
    (joined_cons place _).symm
  have hcoverage : (if leaf.source.isSome then
      (RoutePattern.lenient compiler leaf.source leaf.coverage).1.coverage else .leading) =
        (leaf.below place).coverage := by
    cases hleaf : leaf.source with
    | some source => exact RoutePattern.coverage_lenient compiler source leaf.coverage
    | none =>
      have hpattern : leaf.pattern = none := by
        have hnil := (List.append_eq_nil_iff.mp (eq_nil_of_joined hleaf)).2
        simpa using hnil
      simp [coverage, below, hpattern]
  simp only [RouteEntry.below, entry, RoutePattern.source_lenient, hcoverage, hsource]
  rfl

namespace Router

mutual

theorem gains_carryOut (router : Router ρ) (registration : Registration ρ) :
    router.Gains (registration.leaves.map (Leaf.entry router.compiler)) registration.fallback?
      (router.carryOut registration) := by
  cases registration with
  | handler methods pattern action =>
    cases pattern with
    | none => exact router.gains_add _
    | some pattern => exact router.gains_register methods pattern .whole .handler action
  | middleware place action =>
    cases place with
    | none => exact router.gains_add _
    | some place => exact router.gains_register .any place .leading .middleware action
  | fallback answer => exact ⟨(List.append_nil _).symm, rfl, rfl⟩
  | mount place compiler registrations =>
    have hmount := router.gains_mount place (carryOutAll { compiler } registrations)
    rw [(gains_carryOutAll { compiler } registrations).entries_eq] at hmount
    simpa [Registration.leaves, Registration.fallback?, carryOut, Function.comp_def,
      Leaf.below_entry] using hmount
  | nest place registrations =>
    have hmount := router.gains_mount place (carryOutAll {} registrations)
    rw [(gains_carryOutAll {} registrations).entries_eq] at hmount
    simpa [Registration.leaves, Registration.fallback?, carryOut, nest, Function.comp_def,
      Leaf.below_entry] using hmount

theorem gains_carryOutAll (router : Router ρ) (registrations : List (Registration ρ)) :
    router.Gains ((Registration.leavesOfAll registrations).map (Leaf.entry router.compiler))
      (registrations.filterMap Registration.fallback?).getLast?
      (router.carryOutAll registrations) := by
  cases registrations with
  | nil => exact .nothing router
  | cons registration registrations =>
    have hfirst := gains_carryOut router registration
    have hrest := gains_carryOutAll (router.carryOut registration) registrations
    rw [hfirst.compiler_eq] at hrest
    have hfallback : ((registration :: registrations).filterMap Registration.fallback?).getLast? =
        (registrations.filterMap Registration.fallback?).getLast?.or registration.fallback? := by
      cases hfirst : registration.fallback? <;> simp [hfirst, List.getLast?_cons]
    rw [hfallback, Registration.leavesOfAll, List.map_append]
    exact hfirst.trans hrest

end

/-- A router below a place below a place has the entries that it has below both at once. -/
theorem below_below (compiler outer : PatternCompiler) (a b : String) (entry : RouteEntry ρ) :
    (entry.below compiler b).below outer a = entry.below outer (patternBelow a b) := by
  cases hsource : entry.pattern.source <;>
    simp [RouteEntry.below, hsource, joined, RoutePattern.source_lenient,
      RoutePattern.coverage_lenient, patternBelow_assoc]

/-- Whatever is registered at a router, directly or at routers that are mounted below it at any
depth, it gains one entry for each action, in the order of the text: with the methods, the role and
the action as they were registered, with the pattern that all places around the action and its own
pattern make together, and compiled in the way of this router. Its own entries stay where they are,
and only a fallback of its own replaces the one that it has. To mount a router that has mounted
another one is to mount both, the other one below the two places joined. -/
theorem mounting_flattens (router : Router ρ) (registrations : List (Registration ρ)) :
    (router.carryOutAll registrations).entries = router.entries ++
        (Registration.leavesOfAll registrations).map (Leaf.entry router.compiler) ∧
      (router.carryOutAll registrations).fallback =
        (registrations.filterMap Registration.fallback?).getLast?.or router.fallback ∧
      ∀ (a b : String) (inner sub : Router ρ), (router.mount a (inner.mount b sub)).entries =
        ((router.mount a inner).mount (patternBelow a b) sub).entries := by
  obtain ⟨hentries, -, hfallback⟩ := gains_carryOutAll router registrations
  refine ⟨hentries, hfallback, fun a b inner sub => ?_⟩
  have hinner := router.gains_mount a inner
  rw [(router.gains_mount a _).entries_eq, (inner.gains_mount b sub).entries_eq,
    ((router.mount a inner).gains_mount _ sub).entries_eq, hinner.entries_eq, hinner.compiler_eq]
  simp [below_below, Function.comp_def]

end Router

end RouteChain
