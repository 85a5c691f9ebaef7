import RouteChain.Pattern.Compiled
import RouteChain.Proofs.Params
import RouteChain.Proofs.Pattern.Matcher
import RouteChain.Proofs.Regex.Reading

/-!
# Compiled patterns

What is known of a pattern because it was compiled.

## Main definitions

* `PatternCompiler.Accepts` — a pattern is compiled and matches a path.

The main result is `PatternCompiler.eq_of_compile`.
-/

namespace RouteChain

open Regex

/-- A pattern that is compiled has the names of its captures, and as many groups, in what the text
of its expression is parsed to. -/
theorem PatternCompiler.parse_of_compile {compiler : PatternCompiler} {pattern : String}
    {coverage : Coverage} {compiled : CompiledPattern}
    (h : compiler.compile pattern coverage = .ok compiled) :
    Regex.parse (!compiler.caseSensitive)
        (String.ofList (expressionText (patternSegments pattern) coverage)) = .ok compiled.regex ∧
      compiled.names = captureNames (patternSegments pattern) ∧
      compiled.regex.groupCount = compiled.names.length := by
  unfold PatternCompiler.compile at h
  cases hparse : Regex.parse (!compiler.caseSensitive)
      (String.ofList (expressionText (patternSegments pattern) coverage)) with
  | error cause =>
    rw [patternSegments] at hparse
    simp only [hparse] at h
    cases h
  | ok r =>
    rw [patternSegments] at hparse
    simp only [hparse] at h
    split at h
    · rename_i hcount
      obtain rfl := Except.ok.inj h
      exact ⟨rfl, rfl, hcount⟩
    · cases h

/-- A pattern that is compiled has the expression of its segments, the code of that, and as many
groups as captures. -/
theorem PatternCompiler.eq_of_compile {compiler : PatternCompiler} {pattern : String}
    {coverage : Coverage} {compiled : CompiledPattern}
    (h : compiler.compile pattern coverage = .ok compiled) :
    exprOf (!compiler.caseSensitive) (expressionText (patternSegments pattern) coverage) =
        .ok compiled.regex.expr ∧
      compiled.regex.code = .ofExpr (anywhere compiled.regex.expr) ∧
      compiled.names = captureNames (patternSegments pattern) ∧
      compiled.regex.groupCount = compiled.names.length := by
  obtain ⟨hparse, hnames, hcount⟩ := parse_of_compile h
  obtain ⟨hexpr, hcode⟩ := Regex.eq_of_parse hparse
  rw [String.toList_ofList] at hexpr
  exact ⟨hexpr, hcode, hnames, hcount⟩

def PatternCompiler.Accepts (compiler : PatternCompiler) (pattern : String) (coverage : Coverage)
    (path : String) : Prop :=
  ∃ compiled, compiler.compile pattern coverage = .ok compiled ∧ compiled.isMatch path = true

theorem PatternCompiler.accepts_iff_of_compile {compiler : PatternCompiler} {pattern : String}
    {coverage : Coverage} {compiled : CompiledPattern}
    (h : compiler.compile pattern coverage = .ok compiled) {path : String} :
    compiler.Accepts pattern coverage path ↔ compiled.isMatch path = true := by
  constructor
  · rintro ⟨other, hother, hmatch⟩
    obtain rfl := Except.ok.inj (h.symm.trans hother)
    exact hmatch
  · exact fun hmatch => ⟨compiled, h, hmatch⟩

/-- What a compiled pattern binds on a path is what the groups of a match took. -/
theorem CompiledPattern.captures?_eq_some {pattern : CompiledPattern} {path : String}
    {params : Params} (h : pattern.captures? path = some params) :
    ∃ marks, pattern.regex.code.find? path.toList = some marks ∧
      params = .ofGroups (pattern.names.zip ((List.range pattern.regex.groupCount).map (fun i =>
        groupText? path.toList marks (i + 1)))) := by
  obtain ⟨groups, hgroups, rfl⟩ := Option.map_eq_some_iff.mp h
  obtain ⟨marks, hmarks, rfl⟩ := Option.map_eq_some_iff.mp hgroups
  exact ⟨marks, hmarks, rfl⟩

/-- What a group took is a part of the text. -/
theorem Regex.infix_of_groupText? {text : List Char} {marks : List Mark} {index : Nat}
    {value : String} (h : groupText? text marks index = some value) : value.toList <:+: text := by
  unfold groupText? at h
  split at h
  · obtain rfl := Option.some.inj h
    rw [String.toList_ofList]
    exact (List.take_prefix ..).isInfix.trans (List.drop_suffix ..).isInfix
  · cases h

/-- What a compiled pattern binds are parts of the path, as they stand there. -/
theorem CompiledPattern.infix_of_captures? {compiled : CompiledPattern} {path : String}
    {params : Params} (h : compiled.captures? path = some params) {entry : String × String}
    (mem : entry ∈ params.entries) : entry.2.toList <:+: path.toList := by
  obtain ⟨marks, -, rfl⟩ := captures?_eq_some h
  have hvalue := (List.of_mem_zip (Params.mem_of_mem_ofGroups mem)).2
  obtain ⟨index, -, hgroup⟩ := List.mem_map.mp hvalue
  exact Regex.infix_of_groupText? hgroup

theorem CompiledPattern.isSome_captures? (pattern : CompiledPattern) (path : String) :
    (pattern.captures? path).isSome = pattern.isMatch path := by
  simp [captures?, isMatch, Regex.captures?, Regex.isMatch]

end RouteChain
