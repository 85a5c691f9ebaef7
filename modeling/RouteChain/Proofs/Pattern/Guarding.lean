import RouteChain.Proofs.Pattern.Compiled
import RouteChain.Proofs.Pattern.Compiling
import RouteChain.Router

/-!
# Middleware in front of the entries below it

A middleware at a place is there for the paths that begin with the segments of the place, and so for
the paths of the entries that are registered below it. Two kinds of paths are exceptions: those with
a line feed, at which the middleware stops reading, and the empty path, which a place without
segments does not cover.

The main result is `Router.use_covers_below`.
-/

namespace RouteChain

open Regex Regex.Way

/-! ## The segments below a place -/

theorem splitOn_append (separator : Char) (text other : List Char) :
    Text.splitOn separator (text ++ separator :: other) =
      Text.splitOn separator text ++ Text.splitOn separator other := by
  induction text with
  | nil => simp [Text.splitOn]
  | cons c text ih =>
    by_cases hc : c = separator
    · simp [Text.splitOn, hc, ih]
    · cases hsplit : Text.splitOn separator text with
      | nil => exact absurd hsplit (Text.splitOn_ne_nil separator text)
      | cons piece pieces => simp [Text.splitOn, hc, ih, hsplit]

theorem segmentTexts_append (place pattern : List Char) :
    segmentTexts (place ++ '/' :: pattern) = segmentTexts place ++ segmentTexts pattern := by
  rw [segmentTexts, splitOn_append, List.filter_append]
  rfl

/-- Slashes at the beginning of a pattern do not count. -/
theorem segmentTexts_dropWhile (pattern : List Char) :
    segmentTexts (pattern.dropWhile (· = '/')) = segmentTexts pattern := by
  induction pattern with
  | nil => rfl
  | cons c pattern ih =>
    by_cases hc : c = '/'
    · subst hc
      have happend : segmentTexts ('/' :: pattern) = segmentTexts pattern :=
        segmentTexts_append [] pattern
      simpa [happend] using ih
    · simp [hc]

/-- Slashes at the end of a place do not count. -/
theorem segmentTexts_reverse_dropWhile (place : List Char) :
    segmentTexts (place.reverse.dropWhile (· = '/')).reverse = segmentTexts place := by
  rw [← List.reverse_reverse place]
  induction place.reverse with
  | nil => rfl
  | cons c place ih =>
    by_cases hc : c = '/'
    · subst hc
      have happend : segmentTexts (place.reverse ++ ['/']) = segmentTexts place.reverse := by
        rw [segmentTexts_append]
        exact List.append_nil _
      simpa [happend] using ih
    · simp [hc]

/-- Below a place there are the texts of its segments and those of the pattern. -/
theorem segmentTexts_patternBelow (place pattern : String) :
    segmentTexts (patternBelow place pattern).toList =
      segmentTexts place.toList ++ segmentTexts pattern.toList := by
  rw [patternBelow, String.toList_ofList, segmentTexts_append, segmentTexts_reverse_dropWhile,
    segmentTexts_dropWhile]

/-- Below a place there are its segments and those of the pattern. -/
theorem patternSegments_patternBelow (place pattern : String) :
    patternSegments (patternBelow place pattern) =
      patternSegments place ++ patternSegments pattern := by
  rw [patternSegments, segmentTexts_patternBelow, List.map_append]
  rfl

/-! ## Off a boundary -/

/-- A slash is found only at a boundary. -/
theorem sequenceWays_slashSpelling_off_boundary (ignoreCase : Bool) (text : List Char)
    (others : List Expr) {s : Spot} (h : atBoundary s.rest = false) :
    sequenceWays (slashSpelling ignoreCase text ++ others) s = [] := by
  rw [slashSpelling, List.cons_append, sequenceWays, ways_charExpr]
  cases hrest : s.rest with
  | nil => simp [hrest, atBoundary] at h
  | cons c rest =>
    have hc : '/' ≠ c := by
      rintro rfl
      simp [hrest, atBoundary] at h
    simp [hc]

/-- Off a boundary a segment is not there, or leaves everything to what follows it. -/
theorem sequenceWays_spelling_off_boundary (ignoreCase : Bool) (index : Nat) (segment : Segment)
    (others : List Expr) {s : Spot} (h : atBoundary s.rest = false) :
    sequenceWays (segment.spelling ignoreCase index ++ others) s = [] ∨
      sequenceWays (segment.spelling ignoreCase index ++ others) s = sequenceWays others s := by
  have hslash (text : List Char) (more : List Expr) :
      sequenceWays (slashSpelling ignoreCase text ++ more) s = [] :=
    sequenceWays_slashSpelling_off_boundary ignoreCase text more h
  cases segment with
  | wildcard => exact .inl (by simpa [Segment.spelling] using hslash [] (lineExpr :: others))
  | literal text => exact .inl (hslash text others)
  | capture stem name constraint modifier =>
    simp only [Segment.spelling, captureSpelling]
    split
    · split
      · have hnone := hslash [] []
        simp only [slashSpelling, List.map_nil, List.append_nil, sequenceWays_singleton] at hnone
        refine .inr ?_
        rw [List.singleton_append, sequenceWays, ways_optionExpr, Expr.ways, hnone]
        simp
      · exact .inl (by simpa using hslash stem (_ :: others))
    · exact .inl (by simpa using hslash stem (_ :: others))

/-- Some segments with the end of a pattern behind them begin at a boundary. -/
theorem atBoundary_of_mem_segmentsSpelling {ignoreCase : Bool} {index : Nat}
    {segments : List Segment} {coverage : Coverage} {s : Spot} {way : Way}
    (h : way ∈
      sequenceWays (segmentsSpelling ignoreCase index segments ++ coverage.endingParts) s) :
    atBoundary s.rest = true := by
  by_contra hoff
  have hoff : atBoundary s.rest = false := by simpa using hoff
  induction segments generalizing index with
  | nil =>
    have hcovers : coverage.covers s.rest = false := by
      cases hcovers : coverage.covers s.rest with
      | false => rfl
      | true => exact absurd (atBoundary_of_covers hcovers) (by simp [hoff])
    have hend := head?_endingParts coverage s
    rw [hcovers] at hend
    have hnone : sequenceWays coverage.endingParts s = [] := by simpa using hend
    rw [segmentsSpelling, List.nil_append, hnone] at h
    cases h
  | cons segment segments ih =>
    rw [segmentsSpelling, List.append_assoc] at h
    rcases sequenceWays_spelling_off_boundary ignoreCase index segment _ hoff with hnone | hsame
    · rw [hnone] at h
      cases h
    · exact ih (hsame ▸ h)

/-! ## Paths -/

theorem segmentsSpelling_append (ignoreCase : Bool) (index : Nat) (segments others : List Segment) :
    segmentsSpelling ignoreCase index (segments ++ others) =
      segmentsSpelling ignoreCase index segments ++
        segmentsSpelling ignoreCase (index + captureCount segments) others := by
  induction segments generalizing index with
  | nil => rfl
  | cons segment segments ih =>
    rw [List.cons_append, segmentsSpelling, ih, segmentsSpelling, captureCount, List.append_assoc,
      Nat.add_assoc]

/-- A middleware covers all that is left of a path behind its segments, if that is one line. -/
theorem covers_leading {rest : List Char} (h : atBoundary rest = true) (hline : '\n' ∉ rest) :
    Coverage.leading.covers rest = true := by
  cases rest with
  | nil => rfl
  | cons c rest =>
    obtain ⟨-, hrest⟩ := not_or.mp (mt List.mem_cons.mpr hline)
    have hall : rest.all (· ≠ '\n') = true := List.all_eq_true.mpr fun d mem =>
      decide_eq_true fun hd => hrest (hd ▸ mem)
    rw [Coverage.covers, hall, Bool.and_true]
    exact h

/-- There is a way to match the end of a pattern where it covers what is left. -/
theorem exists_mem_endingParts {coverage : Coverage} {s : Spot}
    (h : coverage.covers s.rest = true) : ∃ way, way ∈ sequenceWays coverage.endingParts s := by
  have hend := head?_endingParts coverage s
  rw [if_pos h] at hend
  obtain ⟨way, hway, -⟩ := Option.map_eq_some_iff.mp hend
  exact ⟨way, List.mem_of_mem_head? hway⟩

/-- Some segments begin at a boundary, whatever pattern they end in. -/
theorem atBoundary_of_mem_spelledParts {ignoreCase : Bool} {segments : List Segment}
    {coverage : Coverage} {s : Spot} {way : Way}
    (h : way ∈ sequenceWays (spelledParts ignoreCase segments coverage) s) :
    atBoundary s.rest = true := by
  unfold spelledParts at h
  split at h
  · have hroot := head?_rootParts coverage s
    cases hcovers : coverage.covers s.rest with
    | true => exact atBoundary_of_covers hcovers
    | false =>
      have hnone : sequenceWays coverage.rootParts s = [] := by simpa [hcovers] using hroot
      rw [hnone] at h
      cases h
  · exact atBoundary_of_mem_segmentsSpelling h

/-- Where a pattern below a place is matched, so is the place with whatever lies below it. -/
theorem exists_mem_place {ignoreCase : Bool} {place pattern : List Segment} {coverage : Coverage}
    {path : List Char} (hline : '\n' ∉ path) (hpath : path = [] → place ≠ []) {way : Way}
    (h : way ∈ sequenceWays (spelledParts ignoreCase (place ++ pattern) coverage) (.start path)) :
    ∃ way, way ∈ sequenceWays (spelledParts ignoreCase place .leading) (.start path) := by
  cases place with
  | nil =>
    have hne : path ≠ [] := fun hnil => hpath hnil rfl
    have hcovers := covers_leading (atBoundary_of_mem_spelledParts h) hline
    have hroot := head?_rootParts .leading (.start path)
    rw [hcovers] at hroot
    obtain ⟨way, hway, -⟩ : ∃ way, (sequenceWays Coverage.leading.rootParts (.start path)).head? =
        some way ∧ way.1 = [] := by
      simpa [Spot.start, hne] using hroot
    exact ⟨way, List.mem_of_mem_head? hway⟩
  | cons segment place =>
    rw [spelledParts, List.cons_append, List.isEmpty_cons, if_neg Bool.false_ne_true,
      ← List.cons_append, segmentsSpelling_append, List.append_assoc, sequenceWays_append] at h
    obtain ⟨first, hfirst, last, hlast, -⟩ := mem_andThen.mp h
    have hsuffix := Expr.suffix_of_mem_sequenceWays hfirst
    have hcovers := covers_leading (atBoundary_of_mem_segmentsSpelling hlast)
      fun mem => hline (hsuffix.subset mem)
    obtain ⟨last, hlast⟩ := exists_mem_endingParts hcovers
    rw [spelledParts, List.isEmpty_cons, if_neg Bool.false_ne_true, sequenceWays_append]
    exact ⟨_, mem_andThen.mpr ⟨first, hfirst, last, hlast, rfl⟩⟩

/-- A compiled pattern without constraints matches the paths on which there is a way to match its
parts. -/
theorem CompiledPattern.isMatch_iff {compiler : PatternCompiler} {pattern : String}
    {coverage : Coverage} {compiled : CompiledPattern}
    (h : compiler.compile pattern coverage = .ok compiled)
    (plain : ∀ segment ∈ patternSegments pattern, segment.isPlain = true) (path : String) :
    compiled.isMatch path = true ↔ ∃ way, way ∈ sequenceWays
      (spelledParts (!compiler.caseSensitive) (patternSegments pattern) coverage)
      (.start path.toList) := by
  obtain ⟨hexpr, hcode, -⟩ := PatternCompiler.eq_of_compile h
  rw [exprOf_of_isPlain _ coverage plain] at hexpr
  rw [CompiledPattern.isMatch, Regex.isMatch, hcode, ← Except.ok.inj hexpr,
    Code.find?_anywhere fun x mem => (part_of_mem_spelledParts plain mem).2, Option.isSome_map,
    List.isSome_head?]
  constructor
  · exact List.exists_mem_of_ne_nil _
  · rintro ⟨way, mem⟩
    exact List.ne_nil_of_mem mem

/-! ## Middleware -/

/-- A registered pattern fits a path if it was compiled and matches. -/
theorem RoutePattern.fit_lenient_ne (compiler : PatternCompiler) (pattern : String)
    (coverage : Coverage) (path : String) :
    (lenient compiler (some pattern) coverage).1.fit path ≠ .misses ↔
      ∃ compiled, compiler.compile pattern coverage = .ok compiled ∧
        compiled.isMatch path = true := by
  cases hcompile : compiler.compile pattern coverage with
  | error e => simp [lenient, strict, hcompile, Except.map, fit]
  | ok compiled =>
    have hmatch := CompiledPattern.isSome_captures? compiled path
    cases hcaptures : compiled.captures? path <;>
      simp_all [lenient, strict, Except.map, fit, ← hmatch]

/-- A registered pattern is valid if it was compiled. -/
theorem RoutePattern.isValid_lenient {compiler : PatternCompiler} {pattern : String}
    {coverage : Coverage} (h : (lenient compiler (some pattern) coverage).1.isValid = true) :
    ∃ compiled, compiler.compile pattern coverage = .ok compiled := by
  cases hcompile : compiler.compile pattern coverage with
  | error e => simp [lenient, strict, hcompile, Except.map, isValid] at h
  | ok compiled => exact ⟨compiled, rfl⟩

/-- A request fits an entry if its method and its path do. -/
theorem RouteEntry.fit_ne {ρ : Type} (entry : RouteEntry ρ) (method : Method) (path : String) :
    entry.fit method path ≠ .misses ↔
      entry.methods.allows method = true ∧ entry.pattern.fit path ≠ .misses := by
  unfold fit
  split <;> simp_all

/-- A registered entry stands behind those before it. -/
theorem Router.entries_register {ρ : Type} (router : Router ρ) (methods : Methods)
    (pattern : String) (coverage : Coverage) (role : Role) (action : Behaviour ρ) :
    (router.register methods pattern coverage role action).entries = router.entries ++
      [⟨methods, (RoutePattern.lenient router.compiler (some pattern) coverage).1, role,
        action⟩] := by
  unfold register
  cases RoutePattern.lenient router.compiler (some pattern) coverage
  rfl

section

variable {ρ : Type} {router : Router ρ} {place pattern path : String} {methods : Methods}
  {method : Method} {coverage : Coverage} {role : Role} {guard action : Behaviour ρ}
  {first below : RouteEntry ρ}

/-- A middleware at a place fits the requests of every entry below it, as long as the path is one
line, and is not empty where the place has no segments. -/
theorem Router.use_covers_below
    (hfirst : (router.use place guard).entries = router.entries ++ [first])
    (hbelow : (router.register methods (patternBelow place pattern) coverage role action).entries =
      router.entries ++ [below])
    (plain : ∀ segment ∈ patternSegments place ++ patternSegments pattern, segment.isPlain = true)
    (valid : first.pattern.isValid = true) (hline : '\n' ∉ path.toList)
    (hpath : path = "" → patternSegments place ≠ []) (fits : below.fit method path ≠ .misses) :
    first.fit method path ≠ .misses := by
  rw [Router.use, Router.entries_register, List.append_cancel_left_eq, List.singleton_inj] at hfirst
  rw [Router.entries_register, List.append_cancel_left_eq, List.singleton_inj] at hbelow
  have hguard : first.pattern =
      (RoutePattern.lenient router.compiler (some place) .leading).1 := by rw [← hfirst]
  have hentry : below.pattern =
      (RoutePattern.lenient router.compiler (some (patternBelow place pattern)) coverage).1 := by
    rw [← hbelow]
  have hmethods : first.methods = .any := by rw [← hfirst]
  rw [hguard] at valid
  rw [RouteEntry.fit_ne, hentry, RoutePattern.fit_lenient_ne] at fits
  rw [RouteEntry.fit_ne, hguard, hmethods, RoutePattern.fit_lenient_ne]
  have hplace : ∀ segment ∈ patternSegments place, segment.isPlain = true := fun segment mem =>
    plain segment (List.mem_append_left _ mem)
  obtain ⟨compiled, hcompile⟩ := RoutePattern.isValid_lenient valid
  obtain ⟨-, compiledBelow, hcompileBelow, hmatch⟩ := fits
  rw [← patternSegments_patternBelow] at plain
  obtain ⟨way, hway⟩ := (CompiledPattern.isMatch_iff hcompileBelow plain path).mp hmatch
  rw [patternSegments_patternBelow] at hway
  have hplaceWay := exists_mem_place hline (fun hnil => hpath (by simpa using hnil)) hway
  exact ⟨rfl, compiled, hcompile,
    (CompiledPattern.isMatch_iff hcompile hplace path).mpr hplaceWay⟩

end

/-! ## Exceptions -/

/-- Where case counts, a pattern without constraints fits a path as its segments do. -/
theorem RoutePattern.fit_of_isPlain {pattern : String} {coverage : Coverage}
    (plain : ∀ segment ∈ patternSegments pattern, segment.isPlain = true)
    (hweight : patternWeight (patternSegments pattern) coverage ≤ Expr.maxWeight) (path : String) :
    (lenient {} (some pattern) coverage).1.fit path =
      ((bindings? (patternSegments pattern) coverage path).map Fit.binds).getD .misses := by
  have hcompile := PatternCompiler.compile_of_weight_le plain hweight
  simp only [lenient, strict, hcompile, Except.map, fit, captures?_plainPattern]
  cases bindings? (patternSegments pattern) coverage path <;> rfl

def adminGuard : RouteEntry Unit :=
  ⟨.any, (RoutePattern.lenient {} (some "/admin") .leading).1, .middleware, .pass⟩

def adminEntry : RouteEntry Unit :=
  ⟨.any, (RoutePattern.lenient {} (some (patternBelow "/admin" "/:id")) .whole).1, .handler, .drop⟩

theorem patternSegments_admin : patternSegments "/admin" = [.literal "admin".toList] := by
  decide

theorem patternSegments_adminEntry : patternSegments (patternBelow "/admin" "/:id") =
    [.literal "admin".toList, .capture [] (some "id".toList) none .one] := by
  decide

theorem plain_admin : ∀ segment ∈ patternSegments "/admin", segment.isPlain = true := by
  rw [patternSegments_admin]
  decide

theorem weight_admin : patternWeight (patternSegments "/admin") .leading ≤ Expr.maxWeight := by
  rw [patternSegments_admin]
  decide

/-- The middleware fits the paths that begin with its segment. -/
theorem fit_adminGuard (path : String) : adminGuard.fit .get path =
    ((bindings? [.literal "admin".toList] .leading path).map Fit.binds).getD .misses := by
  have hfit := RoutePattern.fit_of_isPlain plain_admin weight_admin path
  rw [patternSegments_admin] at hfit
  exact hfit

theorem fit_adminEntry (path : String) : adminEntry.fit .get path =
    ((bindings? [.literal "admin".toList, .capture [] (some "id".toList) none .one] .whole
      path).map Fit.binds).getD .misses := by
  have plain : ∀ segment ∈ patternSegments (patternBelow "/admin" "/:id"),
      segment.isPlain = true := by
    rw [patternSegments_adminEntry]
    decide
  have hweight : patternWeight (patternSegments (patternBelow "/admin" "/:id")) .whole ≤
      Expr.maxWeight := by
    rw [patternSegments_adminEntry]
    decide
  have hfit := RoutePattern.fit_of_isPlain plain hweight path
  rw [patternSegments_adminEntry] at hfit
  exact hfit

theorem Router.use_covers_below_of_admin :
    (({} : Router Unit).use "/admin" .pass).entries = ({} : Router Unit).entries ++ [adminGuard] ∧
      (({} : Router Unit).register .any (patternBelow "/admin" "/:id") .whole .handler
        .drop).entries = ({} : Router Unit).entries ++ [adminEntry] ∧
      adminGuard.pattern.isValid = true ∧ adminEntry.fit .get "/admin/7" ≠ .misses ∧
      adminGuard.fit .get "/admin/7" ≠ .misses := by
  have hguard := Router.entries_register ({} : Router Unit) .any "/admin" .leading .middleware .pass
  have hentry := Router.entries_register ({} : Router Unit) .any (patternBelow "/admin" "/:id")
    .whole .handler .drop
  have hplain : ∀ segment ∈ patternSegments "/admin" ++ patternSegments "/:id",
      segment.isPlain = true := by decide
  have hvalid : adminGuard.pattern.isValid = true := by
    have hcompile := PatternCompiler.compile_of_weight_le plain_admin weight_admin
    simp [adminGuard, RoutePattern.isValid, RoutePattern.lenient, RoutePattern.strict, hcompile,
      Except.map]
  have hfits : adminEntry.fit .get "/admin/7" ≠ .misses := by
    rw [fit_adminEntry]
    decide
  exact ⟨hguard, hentry, hvalid, hfits,
    Router.use_covers_below hguard hentry hplain hvalid (by decide) (by decide) hfits⟩

/-- Below the place of a middleware a capture takes a line feed, at which the middleware stops. -/
theorem Router.use_misses_line_feed :
    adminEntry.fit .get "/admin/a\nb" = .binds ⟨[("id", "a\nb")]⟩ ∧
      adminGuard.fit .get "/admin/a\nb" = .misses := by
  rw [fit_adminEntry, fit_adminGuard]
  decide

end RouteChain
