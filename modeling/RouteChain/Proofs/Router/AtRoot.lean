import Mathlib.Data.List.Forall2
import RouteChain.Proofs.Dispatch.Course
import RouteChain.Proofs.Router.Mounting

/-!
# Routers mounted at the root

A place that is only slashes adds nothing to a pattern. A router that is mounted there has its
entries fit as they did, except that an entry for all paths becomes one for the paths that begin
with a slash and are on one line.

## Main definitions

* `IsRooted` — the paths that begin with a slash and are on one line.
* `RouteEntry.FitsAtRoot` — an entry that fits at the root as another one does by itself.

The main result is `Router.mount_at_root`.
-/

namespace RouteChain

variable {ρ : Type}

/-! ## Places without segments -/

/-- A place that is only slashes has no segments. -/
theorem patternSegments_of_slashes {place : String} (slashes : ∀ c ∈ place.toList, c = '/') :
    patternSegments place = [] := by
  have hnil : place.toList.dropWhile (· = '/') = [] :=
    List.dropWhile_eq_nil_iff.mpr fun c mem => decide_eq_true (slashes c mem)
  have htexts : segmentTexts place.toList = [] := by
    rw [← segmentTexts_dropWhile, hnil]
    rfl
  rw [patternSegments, htexts]
  rfl

/-- What a pattern is compiled to depends on its segments only. -/
theorem PatternCompiler.toOption_compile_congr (compiler : PatternCompiler) {source other : String}
    (coverage : Coverage) (h : patternSegments source = patternSegments other) :
    (compiler.compile source coverage).toOption = (compiler.compile other coverage).toOption := by
  have hsegments : (segmentTexts source.toList).map Segment.classify =
      (segmentTexts other.toList).map Segment.classify := h
  unfold compile
  rw [hsegments]
  dsimp only
  split
  · rfl
  · split <;> rfl

theorem PatternCompiler.exists_compiled_of_isSome {compiler : PatternCompiler} {pattern : String}
    {coverage : Coverage} (h : (compiler.compile pattern coverage).toOption.isSome = true) :
    ∃ compiled, compiler.compile pattern coverage = .ok compiled := by
  cases hcompile : compiler.compile pattern coverage with
  | ok compiled => exact ⟨compiled, rfl⟩
  | error e => simp [hcompile, Except.toOption] at h

/-- A registered pattern fits a path as what it was compiled to. -/
theorem RoutePattern.fit_lenient (compiler : PatternCompiler) (source : String)
    (coverage : Coverage) (path : String) : (lenient compiler (some source) coverage).1.fit path =
      (((compiler.compile source coverage).toOption.bind (·.captures? path)).map Fit.binds).getD
        .misses := by
  cases hcompile : compiler.compile source coverage with
  | error e => simp [lenient, strict, hcompile, Except.map, Except.toOption, fit]
  | ok compiled =>
    cases hcaptures : compiled.captures? path <;>
      simp [lenient, strict, hcompile, Except.map, Except.toOption, fit, hcaptures]

/-! ## The pattern of the root -/

/-- The path begins with a slash and is on one line. -/
def IsRooted (path : String) : Prop :=
  ∃ rest, path.toList = '/' :: rest ∧ '\n' ∉ rest

/-- A pattern without names binds nothing where it matches. -/
theorem CompiledPattern.captures?_of_names_eq_nil {compiled : CompiledPattern}
    (h : compiled.names = []) (path : String) :
    compiled.captures? path = if compiled.isMatch path then some .empty else none := by
  cases hfind : compiled.regex.code.find? path.toList <;>
    simp [captures?, isMatch, Regex.captures?, Regex.isMatch, hfind, h, Params.ofGroups]

/-- The pattern of the root covers the paths that are rooted. -/
theorem isRooted_iff (path : String) :
    IsRooted path ↔ (!path.toList.isEmpty && Coverage.leading.covers path.toList) = true := by
  unfold IsRooted
  cases path.toList with
  | nil => simp
  | cons c rest => grind [Coverage.covers]

theorem PatternCompiler.exists_compiled_root (compiler : PatternCompiler) {place : String}
    (hplace : patternSegments place = []) :
    ∃ compiled, compiler.compile place .leading = .ok compiled := by
  have hroot : (compiler.compile "/" .leading).toOption.isSome = true := by
    cases compiler with
    | mk caseSensitive => cases caseSensitive <;> rfl
  have hslash : patternSegments place = patternSegments "/" := by rw [hplace]; rfl
  rw [← compiler.toOption_compile_congr .leading hslash] at hroot
  exact exists_compiled_of_isSome hroot

/-- With a place without segments for its pattern, an action is for the paths that are rooted. -/
theorem RoutePattern.fit_root (compiler : PatternCompiler) {place : String}
    (hplace : patternSegments place = []) (path : String) :
    (IsRooted path → (lenient compiler (some place) .leading).1.fit path = .binds .empty) ∧
      (¬IsRooted path → (lenient compiler (some place) .leading).1.fit path = .misses) := by
  obtain ⟨compiled, hcompile⟩ := compiler.exists_compiled_root hplace
  obtain ⟨-, -, hnames, -⟩ := PatternCompiler.eq_of_compile hcompile
  have plain : ∀ segment ∈ patternSegments place, segment.isPlain = true := by simp [hplace]
  have hmatch : compiled.isMatch path = true ↔ IsRooted path := by
    have hhead := head?_rootParts .leading (.start path.toList)
    rw [CompiledPattern.isMatch_iff hcompile plain, isRooted_iff, hplace, spelledParts,
      List.isEmpty_nil, if_pos rfl]
    constructor
    · rintro ⟨way, mem⟩
      by_contra hcovers
      rw [if_neg (by exact hcovers), Option.map_eq_none_iff, List.head?_eq_none_iff] at hhead
      simp [hhead] at mem
    · intro hcovers
      rw [if_pos (by exact hcovers)] at hhead
      obtain ⟨way, hway, -⟩ := Option.map_eq_some_iff.mp hhead
      exact ⟨way, List.mem_of_mem_head? hway⟩
  have hfit := fit_lenient compiler place .leading path
  rw [hcompile] at hfit
  rw [hplace] at hnames
  have hcaptures := CompiledPattern.captures?_of_names_eq_nil hnames path
  simp only [Except.toOption, Option.bind_some, hcaptures] at hfit
  rw [hfit, ← hmatch]
  constructor <;> intro h <;> simp [h]

/-! ## Entries at the root -/

/-- The other entry fits as this one does, but for one thing: if this one has no pattern, the other
one misses the paths that are not rooted. -/
structure RouteEntry.FitsAtRoot (entry other : RouteEntry ρ) : Prop where
  of_pattern : entry.pattern.source ≠ none →
    ∀ method path, other.fit method path = entry.fit method path
  of_isRooted : ∀ method path, IsRooted path →
    (other.fit method path).params? = (entry.fit method path).params?
  of_not_isRooted : entry.pattern.source = none →
    ∀ method path, ¬IsRooted path → other.fit method path = .misses

/-- At the root an action with a pattern has a pattern with the same segments. -/
theorem Leaf.fit_below_of_source (compiler : PatternCompiler) {place source : String}
    (hplace : patternSegments place = []) (leaf : Leaf ρ) (hsource : leaf.source = some source)
    (method : Method) (path : String) :
    ((leaf.entry compiler).below compiler place).fit method path =
      (leaf.entry compiler).fit method path := by
  have hentry : (leaf.entry compiler).pattern =
      (RoutePattern.lenient compiler (some source) leaf.coverage).1 := by rw [entry, hsource]
  have hbelow : ((leaf.entry compiler).below compiler place).pattern =
      (RoutePattern.lenient compiler (some (patternBelow place source)) leaf.coverage).1 := by
    simp [RouteEntry.below, hentry, RoutePattern.source_lenient, RoutePattern.coverage_lenient,
      joined]
  have hsegments : patternSegments (patternBelow place source) = patternSegments source := by
    rw [patternSegments_patternBelow, hplace, List.nil_append]
  have hcompile := compiler.toOption_compile_congr leaf.coverage hsegments
  have hmethods : ((leaf.entry compiler).below compiler place).methods =
      (leaf.entry compiler).methods := rfl
  simp only [RouteEntry.fit, hmethods, hentry, hbelow, RoutePattern.fit_lenient, hcompile]

/-- An action that is registered below a place without segments fits as it does by itself. -/
theorem Leaf.fitsAtRoot_below (compiler : PatternCompiler) {place : String}
    (hplace : patternSegments place = []) (leaf : Leaf ρ) :
    (leaf.entry compiler).FitsAtRoot ((leaf.entry compiler).below compiler place) := by
  have hentry : (leaf.entry compiler).pattern.source = leaf.source :=
    RoutePattern.source_lenient _ _ _
  cases hsource : leaf.source with
  | some source =>
    have hfit := leaf.fit_below_of_source compiler hplace hsource
    exact ⟨fun _ => hfit, fun method path _ => congrArg Fit.params? (hfit method path),
      fun hnone => absurd (hentry.symm.trans hnone) (by simp [hsource])⟩
  | none =>
    have hany : (leaf.entry compiler).pattern = .any := by rw [entry, hsource]; rfl
    have hbelow : ((leaf.entry compiler).below compiler place).pattern =
        (RoutePattern.lenient compiler (some place) .leading).1 := by
      simp [RouteEntry.below, hany, RoutePattern.any, joined]
    have hmethods : ((leaf.entry compiler).below compiler place).methods =
        (leaf.entry compiler).methods := rfl
    refine ⟨fun hsome => absurd (hentry.trans hsource) hsome, fun method path rooted => ?_,
      fun _ method path unrooted => ?_⟩
    · rw [RouteEntry.fit, RouteEntry.fit, hmethods, hany, hbelow,
        (RoutePattern.fit_root compiler hplace path).1 rooted]
      split <;> rfl
    · rw [RouteEntry.fit, hbelow, (RoutePattern.fit_root compiler hplace path).2 unrooted]
      split <;> rfl

/-! ## Routers at the root -/

namespace Router

/-- Registering a pattern strictly adds what registering it adds, unless the pattern is refused. -/
theorem registerStrict_eq (router : Router ρ) (methods : Methods) (pattern : String)
    (coverage : Coverage) (role : Role) (action : Behaviour ρ) :
    router.registerStrict methods pattern coverage role action =
      (router.compiler.compile pattern coverage).map (fun _ =>
        router.register methods pattern coverage role action) := by
  cases hcompile : router.compiler.compile pattern coverage <;>
    simp [registerStrict, register, RoutePattern.lenient, RoutePattern.strict, hcompile, Except.map]

theorem eq_register_of_registerStrict {router later : Router ρ} {methods : Methods}
    {pattern : String} {coverage : Coverage} {role : Role} {action : Behaviour ρ}
    (h : router.registerStrict methods pattern coverage role action = .ok later) :
    later = router.register methods pattern coverage role action := by
  rw [registerStrict_eq] at h
  cases hcompile : router.compiler.compile pattern coverage with
  | error e => simp [hcompile, Except.map] at h
  | ok compiled => simpa [hcompile, Except.map, eq_comm] using h

/-- Mounting at the root is neutral for all entries that have a pattern. Whatever was registered at
a router, strictly or not (`eq_register_of_registerStrict`), when it is mounted at a place that is
only slashes, into an empty router that compiles patterns alike, its entries are there again in
their order, and for every method and every path they fit as they did and bind the same. An entry
without a pattern binds what it did on the paths that begin with a slash and are on one line, and
misses all other paths. -/
theorem mount_at_root (compiler : PatternCompiler) (registrations : List (Registration ρ))
    {place : String} (slashes : ∀ c ∈ place.toList, c = '/') :
    let inner := ({ compiler } : Router ρ).carryOutAll registrations
    let mounted := ({ compiler } : Router ρ).mount place inner
    List.Forall₂ RouteEntry.FitsAtRoot inner.entries mounted.entries := by
  intro inner mounted
  have hplace := patternSegments_of_slashes slashes
  have hinner : inner.entries =
      (Registration.leavesOfAll registrations).map (Leaf.entry compiler) :=
    (gains_carryOutAll { compiler } registrations).entries_eq
  have hmounted : mounted.entries = inner.entries.map (RouteEntry.below compiler place) :=
    (gains_mount { compiler } place inner).entries_eq
  rw [hmounted, List.forall₂_map_right_iff, List.forall₂_same, hinner]
  intro entry mem
  obtain ⟨leaf, -, rfl⟩ := List.mem_map.mp mem
  exact leaf.fitsAtRoot_below compiler hplace

/-- A middleware for all requests and a handler for one segment, mounted below two slashes. -/
theorem mount_at_root_of_two_slashes :
    let registrations : List (Registration Unit) :=
      [.middleware none .pass, .handler (.only .get) (some "/:id") .drop]
    let inner := ({} : Router Unit).carryOutAll registrations
    let mounted := ({} : Router Unit).mount "//" inner
    (∀ c ∈ "//".toList, c = '/') ∧
      List.Forall₂ RouteEntry.FitsAtRoot inner.entries mounted.entries ∧
      mounted.entries.map (fun entry => (entry.fit .get "/7").params?) =
        [some .empty, some ⟨[("id", "7")]⟩] := by
  intro registrations inner mounted
  have slashes : ∀ c ∈ "//".toList, c = '/' := by simp
  exact ⟨slashes, mount_at_root {} registrations slashes, by decide +kernel⟩

/-- A middleware for all requests that is mounted at the root misses the path of a request that is
for the server as a whole, the empty path, and a path with a line feed. -/
theorem mount_at_root_misses :
    let inner := ({} : Router Unit).useAll .pass
    let mounted := ({} : Router Unit).mount "/" inner
    ∃ entry other, inner.entries = [entry] ∧ mounted.entries = [other] ∧
      ∀ path ∈ ["*", "", "/a\nb"],
        (entry.fit .get path).params? = some .empty ∧ (other.fit .get path).params? = none := by
  intro inner mounted
  refine ⟨_, _, rfl, rfl, ?_⟩
  simp only [List.forall_mem_cons, List.not_mem_nil, false_implies, implies_true, and_true]
  exact ⟨⟨rfl, rfl⟩, ⟨rfl, rfl⟩, ⟨rfl, rfl⟩⟩

end Router

end RouteChain
