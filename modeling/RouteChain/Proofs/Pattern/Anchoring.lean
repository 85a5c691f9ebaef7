import RouteChain.Proofs.Pattern.Compiled
import RouteChain.Proofs.Pattern.Constrained
import RouteChain.Proofs.Regex.Soundness

/-!
# Patterns match whole paths

The expression of a pattern begins with an assertion that the path begins there and ends with one
that it ends there, so a match covers the path. This needs the constraints to be expressions on
their own: one that closes a group of the pattern and opens another puts the assertions into
different options of a choice.

The main result is `CompiledPattern.covers_path`.
-/

namespace RouteChain

open Regex

/-- Behind some characters the text does not begin. -/
theorem Regex.Spot.before_skip {text : List Char} (h : text ≠ []) (s : Spot) :
    (s.skip text).before.isSome := by
  induction text generalizing s with
  | nil => exact absurd rfl h
  | cons c text ih =>
    cases text with
    | nil => rfl
    | cons d text => exact ih (List.cons_ne_nil d text) _

/-- The last part of the expression of a pattern asserts that the path ends there. -/
theorem exists_spelledParts_eq (ignoreCase : Bool) (segments : List Segment) (coverage : Coverage) :
    ∃ parts, spelledParts ignoreCase segments coverage = parts ++ [.assertion .textEnd] := by
  unfold spelledParts
  split
  · cases coverage with
    | whole => exact ⟨[charExpr '/'], rfl⟩
    | leading => exact ⟨[charExpr '/', lineExpr], rfl⟩
  · obtain ⟨parts, hparts⟩ : ∃ parts, coverage.endingParts = parts ++ [.assertion .textEnd] := by
      cases coverage with
      | whole => exact ⟨[optionExpr (charExpr '/')], rfl⟩
      | leading => exact ⟨[optionExpr (.cat (charExpr '/') lineExpr)], rfl⟩
    exact ⟨_, by rw [hparts, ← List.append_assoc]⟩

/-- A way to match the parts of a pattern ends where the path does. -/
theorem rest_of_mem_spelledParts {ignoreCase : Bool} {segments : List Segment} {coverage : Coverage}
    {s : Spot} {way : Way}
    (h : way ∈ sequenceWays (spelledParts ignoreCase segments coverage) s) : way.2.rest = [] := by
  obtain ⟨parts, hparts⟩ := exists_spelledParts_eq ignoreCase segments coverage
  rw [hparts, sequenceWays_append, andThen_textEnd] at h
  simpa using (List.mem_filter.mp h).2

/-- A compiled pattern whose constraints are expressions on their own has the expression that its
segments spell. -/
theorem PatternCompiler.expr_of_compile {compiler : PatternCompiler} {pattern : String}
    {coverage : Coverage} {compiled : CompiledPattern}
    (h : compiler.compile pattern coverage = .ok compiled)
    (alone : ∀ segment ∈ patternSegments pattern, segment.StandsAlone (!compiler.caseSensitive)) :
    compiled.regex.expr = .sequence (.assertion .textStart ::
      spelledParts (!compiler.caseSensitive) (patternSegments pattern) coverage) := by
  obtain ⟨hexpr, -⟩ := PatternCompiler.eq_of_compile h
  rcases exprOf_of_standsAlone coverage alone with hwritten | hdeep
  · rw [hwritten] at hexpr
    exact (Except.ok.inj hexpr).symm
  · rw [hdeep] at hexpr
    cases hexpr

/-- Wherever in a path a match of a pattern is looked for, it begins where the path does and ends
where the path does, and a path is only accepted because of such a match. -/
theorem CompiledPattern.covers_path {compiler : PatternCompiler} {pattern : String}
    {coverage : Coverage} {compiled : CompiledPattern}
    (h : compiler.compile pattern coverage = .ok compiled)
    (alone : ∀ segment ∈ patternSegments pattern, segment.StandsAlone (!compiler.caseSensitive))
    (path : String) :
    (∀ before after, path.toList = before ++ after →
      ∀ way ∈ compiled.regex.expr.ways ((Spot.start path.toList).skip before),
        before = [] ∧ way.2.rest = []) ∧
    (compiled.isMatch path = true →
      ∃ way ∈ compiled.regex.expr.ways (.start path.toList), way.2.rest = []) := by
  obtain ⟨-, hcode, -⟩ := PatternCompiler.eq_of_compile h
  have hways : compiled.regex.expr.ways = sequenceWays (.assertion .textStart ::
      spelledParts (!compiler.caseSensitive) (patternSegments pattern) coverage) := by
    rw [PatternCompiler.expr_of_compile h alone, Expr.ways_sequence]
  constructor
  · intro before after _ way hway
    rw [hways] at hway
    obtain ⟨first, hfirst, last, hlast, rfl⟩ := Way.mem_andThen.mp hway
    have hrest : last.2.rest = [] := rest_of_mem_spelledParts hlast
    refine ⟨?_, hrest⟩
    by_contra hbefore
    have hsome := Spot.before_skip hbefore (.start path.toList)
    simp [Expr.ways, Assertion.ways, Assertion.holds, Option.isSome_iff_ne_none.mp hsome] at hfirst
  · intro hmatch
    obtain ⟨marks, hmarks⟩ := Option.isSome_iff_exists.mp hmatch
    rw [hcode] at hmarks
    obtain ⟨last, hlast⟩ := Code.mem_sequenceWays_of_find? hways hmarks
    rw [hways, sequenceWays_textStart]
    exact ⟨_, hlast, rest_of_mem_spelledParts hlast⟩

theorem CompiledPattern.covers_path_of_digits :
    ∃ compiled, PatternCompiler.compile {} "/:id([0-9]+)" .whole = .ok compiled ∧
      compiled.isMatch "/42" = true ∧
      ∃ way ∈ compiled.regex.expr.ways (.start "/42".toList), way.2.rest = [] := by
  obtain ⟨compiled, hcompile, hmatch⟩ : ∃ compiled,
      PatternCompiler.compile {} "/:id([0-9]+)" .whole = .ok compiled ∧
        compiled.isMatch "/42" = true := ⟨_, rfl, rfl⟩
  exact ⟨compiled, hcompile, hmatch,
    (CompiledPattern.covers_path hcompile standsAlone_digits "/42").2 hmatch⟩

/-! ## Exceptions -/

/-- A pattern with a constraint that closes the groups around it and opens as many others. -/
def tornPattern : String :=
  "/:a(x\\\\)\\\\)\\\\)|\\\\(?:\\\\(?:\\\\(?:y)"

/-- The options of such a pattern each match a path of which only a part is theirs. -/
theorem CompiledPattern.tornPattern_misses_end :
    ∃ compiled, PatternCompiler.compile {} tornPattern .whole = .ok compiled ∧
      compiled.isMatch "/x\\\\\\zzz" = true ∧
      ∃ way ∈ compiled.regex.expr.ways (.start "/x\\\\\\zzz".toList),
        way.2.rest = ['z', 'z', 'z'] := by
  refine ⟨_, rfl, rfl, ?_⟩
  exact ⟨_, List.mem_singleton.mpr rfl, rfl⟩

end RouteChain
