import RouteChain.Proofs.Pattern.Compiling
import RouteChain.Proofs.Pattern.Guarding
import RouteChain.Proofs.Pattern.Spans
import RouteChain.Proofs.Regex.Recasing
import RouteChain.Proofs.Unicode.CaseFolding

/-!
# Patterns without regard to case

Without regard to case a pattern without constraints matches the paths that are equal up to case to
one that it matches where case counts. The characters of literals and stems stand for all their
cases then, and what takes the values of captures, which leaves out a slash or a line feed only, is
the same, since neither has cases. The values are parts of the path itself.

The main result is `PatternCompiler.accepts_caseless_iff`.
-/

namespace RouteChain

open Regex Unicode

/-! ## Letters -/

/-- A character in all its cases. -/
theorem recased_spelledChar (c : Char) :
    Expr.Recased SameUpToCase (spelledChar true c) (spelledChar false c) := by
  refine .letter fun d => ?_
  have hchar (e : Char) : (CharSet.char c).contains e = true ↔ c = e := by simp [contains_char]
  change (CharSet.foldedChar c).contains d = true ↔
    ∃ e, SameUpToCase d e ∧ (CharSet.char c).contains e = true
  simp only [hchar, exists_eq_right']
  unfold CharSet.foldedChar
  split
  · rename_i halone
    rw [hchar]
    constructor
    · rintro rfl
      exact mem_caseGroup c
    · exact fun h => (eq_of_mem_caseGroup halone h).symm
  · simp only [CharSet.contains, List.any_eq_true]
    constructor
    · rintro ⟨e, mem, he⟩
      exact (hchar e).mp he ▸ mem
    · exact fun h => ⟨c, h, (hchar c).mpr rfl⟩

/-- All characters but one without cases. -/
theorem recased_compl_char {c : Char} (hc : caseGroup c = [c]) :
    Expr.Recased SameUpToCase (.letter (.compl (.char c))) (.letter (.compl (.char c))) := by
  have hcompl (e : Char) : (CharSet.compl (.char c)).contains e = true ↔ c ≠ e := by
    rw [CharSet.contains, contains_char]
    simp
  refine .letter fun d => ?_
  simp only [hcompl]
  constructor
  · exact fun hd => ⟨d, mem_caseGroup d, hd⟩
  · rintro ⟨e, he, hne⟩ rfl
    exact hne (List.mem_singleton.mp (hc ▸ he)).symm

theorem recased_slash : Expr.Recased SameUpToCase (charExpr '/') (charExpr '/') := by
  have hslash := recased_spelledChar '/'
  rwa [spelledChar_slash, spelledChar_slash] at hslash

/-! ## The parts of the expression -/

theorem recased_valueExpr (modifier : Modifier) :
    Expr.Recased SameUpToCase modifier.valueExpr modifier.valueExpr := by
  have hrun : Expr.Recased SameUpToCase runExpr runExpr :=
    .repetition 1 none false (recased_compl_char rfl)
  cases modifier with
  | one | optional => exact hrun
  | oneOrMore | zeroOrMore => exact hrun.cat (.repetition 0 none true (recased_slash.cat hrun))

theorem recased_lineExpr : Expr.Recased SameUpToCase lineExpr lineExpr :=
  .repetition 0 none true (recased_compl_char rfl)

theorem recased_slashSpelling (text : List Char) :
    List.Forall₂ (Expr.Recased SameUpToCase) (slashSpelling true text)
      (slashSpelling false text) := by
  refine .cons recased_slash ?_
  rw [List.forall₂_map_left_iff, List.forall₂_map_right_iff, List.forall₂_same]
  exact fun c _ => recased_spelledChar c

theorem recased_captureSpelling (stem : List Char) {value : Expr} (modifier : Modifier)
    (h : Expr.Recased SameUpToCase value value) :
    List.Forall₂ (Expr.Recased SameUpToCase) (captureSpelling true stem value modifier)
      (captureSpelling false stem value modifier) := by
  have hbehind {x : Expr} (hx : Expr.Recased SameUpToCase x x) :
      List.Forall₂ (Expr.Recased SameUpToCase) (slashSpelling true stem ++ [x])
        (slashSpelling false stem ++ [x]) :=
    List.rel_append (recased_slashSpelling stem) (.cons hx .nil)
  simp only [captureSpelling]
  split
  · split
    · exact .cons (.repetition 0 (some 1) true (recased_slash.cat h)) .nil
    · exact hbehind (.repetition 0 (some 1) true h)
  · exact hbehind h

theorem Segment.recased_spelling {segment : Segment} (plain : segment.isPlain = true)
    (index : Nat) : List.Forall₂ (Expr.Recased SameUpToCase) (segment.spelling true index)
      (segment.spelling false index) := by
  cases segment with
  | wildcard => exact List.rel_append (recased_slashSpelling []) (.cons recased_lineExpr .nil)
  | literal text => exact recased_slashSpelling text
  | capture stem name constraint modifier =>
    obtain rfl : constraint = none := by cases constraint <;> first | rfl | cases plain
    simp only [spelling, pieceExpr, Modifier.valueOf_runExpr]
    exact recased_captureSpelling stem modifier (.group index (recased_valueExpr modifier))

theorem recased_segmentsSpelling {segments : List Segment}
    (plain : ∀ segment ∈ segments, segment.isPlain = true) (index : Nat) :
    List.Forall₂ (Expr.Recased SameUpToCase) (segmentsSpelling true index segments)
      (segmentsSpelling false index segments) := by
  induction segments generalizing index with
  | nil => exact .nil
  | cons segment segments ih =>
    exact List.rel_append (Segment.recased_spelling (plain segment List.mem_cons_self) index)
      (ih (fun other mem => plain other (List.mem_cons_of_mem segment mem)) _)

theorem Coverage.recased_rootParts (coverage : Coverage) :
    List.Forall₂ (Expr.Recased SameUpToCase) coverage.rootParts coverage.rootParts := by
  cases coverage with
  | whole => exact .cons recased_slash (.cons .textEnd .nil)
  | leading => exact .cons recased_slash (.cons recased_lineExpr (.cons .textEnd .nil))

theorem Coverage.recased_endingParts (coverage : Coverage) :
    List.Forall₂ (Expr.Recased SameUpToCase) coverage.endingParts coverage.endingParts := by
  cases coverage with
  | whole => exact .cons (.repetition 0 (some 1) true recased_slash) (.cons .textEnd .nil)
  | leading =>
    exact .cons (.repetition 0 (some 1) true (recased_slash.cat recased_lineExpr))
      (.cons .textEnd .nil)

/-- With and without regard to case the expressions of a pattern differ in their letters only. -/
theorem recased_spelledParts {segments : List Segment} (coverage : Coverage)
    (plain : ∀ segment ∈ segments, segment.isPlain = true) :
    List.Forall₂ (Expr.Recased SameUpToCase) (spelledParts true segments coverage)
      (spelledParts false segments coverage) := by
  unfold spelledParts
  split
  · exact coverage.recased_rootParts
  · exact List.rel_append (recased_segmentsSpelling plain 1) coverage.recased_endingParts

/-! ## Compiling -/

section

variable {pattern : String} {coverage : Coverage}

/-- A pattern without constraints is compiled if there is room for its expression. -/
theorem PatternCompiler.exists_compiled_iff (compiler : PatternCompiler)
    (plain : ∀ segment ∈ patternSegments pattern, segment.isPlain = true) :
    (∃ compiled, compiler.compile pattern coverage = .ok compiled) ↔
      ((Expr.assertion .textStart :: spelledParts (!compiler.caseSensitive)
        (patternSegments pattern) coverage).map Expr.weight).sum ≤ Expr.maxWeight := by
  have hparts : ∀ x ∈ Expr.assertion .textStart :: spelledParts (!compiler.caseSensitive)
      (patternSegments pattern) coverage, x.isPart = true :=
    List.forall_mem_cons.mpr ⟨rfl, fun x mem => (part_of_mem_spelledParts plain mem).1⟩
  have hcount := groupCount_spelledParts coverage fun segment mem =>
    Segment.captureless_of_innerCount (Segment.innerCount_of_isPlain (plain segment mem))
      (!compiler.caseSensitive)
  rw [Expr.sequence_eq_ofParts hparts, ← length_captureNames] at hcount
  have hparse := parse_of_isPlain (!compiler.caseSensitive) coverage plain
  rw [← Expr.weight_ofParts (List.cons_ne_nil _ _), compile]
  generalize Expr.ofParts (.assertion .textStart :: spelledParts (!compiler.caseSensitive)
    (patternSegments pattern) coverage) = x at hparse hcount ⊢
  rw [patternSegments] at hparse hcount
  rcases Nat.lt_or_ge Expr.maxWeight x.weight with hlarge | hroom
  · simp [hparse, hlarge, Nat.not_le.mpr hlarge]
  · simp [hparse, Nat.not_lt.mpr hroom, hroom, Regex.groupCount, hcount]

/-- Without regard to case the same patterns are compiled. -/
theorem PatternCompiler.exists_compiled_caseless
    (plain : ∀ segment ∈ patternSegments pattern, segment.isPlain = true) :
    (∃ compiled, PatternCompiler.compile ⟨false⟩ pattern coverage = .ok compiled) ↔
      ∃ compiled, PatternCompiler.compile ⟨true⟩ pattern coverage = .ok compiled := by
  have hweight := Expr.Recased.sum_weight_eq (recased_spelledParts coverage plain)
  rw [exists_compiled_iff _ plain, exists_compiled_iff _ plain]
  simp only [List.map_cons, List.sum_cons, Bool.not_false, Bool.not_true, hweight]

/-- A pattern without constraints accepts a path if it is compiled and there is a way to match its
parts. -/
theorem PatternCompiler.accepts_iff_of_isPlain (compiler : PatternCompiler)
    (plain : ∀ segment ∈ patternSegments pattern, segment.isPlain = true) (path : String) :
    compiler.Accepts pattern coverage path ↔
      (∃ compiled, compiler.compile pattern coverage = .ok compiled) ∧
        ∃ way, way ∈ sequenceWays
          (spelledParts (!compiler.caseSensitive) (patternSegments pattern) coverage)
          (.start path.toList) := by
  constructor
  · rintro ⟨compiled, hcompile, hmatch⟩
    exact ⟨⟨compiled, hcompile⟩, (CompiledPattern.isMatch_iff hcompile plain path).mp hmatch⟩
  · rintro ⟨⟨compiled, hcompile⟩, hway⟩
    exact ⟨compiled, hcompile, (CompiledPattern.isMatch_iff hcompile plain path).mpr hway⟩

end

/-! ## Paths -/

/-- Without regard to case a pattern without constraints is compiled exactly if it is where case
counts, and then accepts a path exactly if some path that is equal to it up to case, character by
character, is accepted where case counts. What it binds are parts of the path as it was given. That
both are compiled or neither rests on `Expr.weight`, which counts characters alike with and without
regard to case: under a limit that does not, there are large patterns of which only one is. -/
theorem PatternCompiler.accepts_caseless_iff {pattern : String} (coverage : Coverage)
    (plain : ∀ segment ∈ patternSegments pattern, segment.isPlain = true) :
    ((∃ compiled, PatternCompiler.compile ⟨false⟩ pattern coverage = .ok compiled) ↔
      ∃ compiled, PatternCompiler.compile ⟨true⟩ pattern coverage = .ok compiled) ∧
    ∀ path : String,
      (PatternCompiler.Accepts ⟨false⟩ pattern coverage path ↔
        ∃ other : String, EqualUpToCase path.toList other.toList ∧
          PatternCompiler.Accepts ⟨true⟩ pattern coverage other) ∧
      ∀ compiled params, PatternCompiler.compile ⟨false⟩ pattern coverage = .ok compiled →
        compiled.captures? path = some params →
        ∀ entry ∈ params.entries, entry.2.toList <:+: path.toList := by
  refine ⟨exists_compiled_caseless plain, fun path => ⟨?_, ?_⟩⟩
  · have hways := (Expr.Recased.sequenceWays (recased_spelledParts coverage plain)).exists_mem_iff
      mem_caseGroup path.toList
    simp only [accepts_iff_of_isPlain _ plain, exists_compiled_caseless plain, Bool.not_false,
      Bool.not_true, hways]
    constructor
    · rintro ⟨hcompiled, other, hother, hway⟩
      refine ⟨String.ofList other, ?_, hcompiled, ?_⟩
      · rwa [String.toList_ofList]
      · rwa [String.toList_ofList]
    · rintro ⟨other, hother, hcompiled, hway⟩
      exact ⟨hcompiled, other.toList, hother, hway⟩
  · intro compiled params _ hcaptures entry mem
    exact CompiledPattern.infix_of_captures? hcaptures mem

/-- The Kelvin sign is a case of `k`, and a value keeps the case that it has in the path. -/
theorem PatternCompiler.accepts_caseless_iff_of_kelvin :
    (∀ segment ∈ patternSegments "/kelvin/:id", segment.isPlain = true) ∧
      PatternCompiler.Accepts ⟨true⟩ "/kelvin/:id" .whole "/kelvin/ab" ∧
      ¬PatternCompiler.Accepts ⟨true⟩ "/kelvin/:id" .whole "/\u212AELVIN/aB" ∧
      ∃ compiled, PatternCompiler.compile ⟨false⟩ "/kelvin/:id" .whole = .ok compiled ∧
        compiled.isMatch "/\u212AELVIN/aB" = true ∧
        compiled.captures? "/\u212AELVIN/aB" = some ⟨[("id", "aB")]⟩ ∧
        "aB".toList <:+: "/\u212AELVIN/aB".toList := by
  have hsegments : patternSegments "/kelvin/:id" =
      [.literal "kelvin".toList, .capture [] (some "id".toList) none .one] := by decide
  have plain : ∀ segment ∈ patternSegments "/kelvin/:id", segment.isPlain = true := by
    rw [hsegments]
    decide
  have hsensitive : PatternCompiler.compile ⟨true⟩ "/kelvin/:id" .whole =
      .ok (plainPattern "/kelvin/:id" .whole) :=
    compile_of_weight_le plain (by rw [hsegments]; decide)
  have haccepts (path : String) : PatternCompiler.Accepts ⟨true⟩ "/kelvin/:id" .whole path ↔
      (bindings? (patternSegments "/kelvin/:id") .whole path).isSome = true := by
    rw [accepts_iff_of_compile hsensitive, ← CompiledPattern.isSome_captures?,
      captures?_plainPattern]
  have hkelvin : PatternCompiler.Accepts ⟨true⟩ "/kelvin/:id" .whole "/kelvin/ab" := by
    rw [haccepts, hsegments]
    decide
  have hsign : ¬PatternCompiler.Accepts ⟨true⟩ "/kelvin/:id" .whole "/\u212AELVIN/aB" := by
    rw [haccepts, hsegments]
    decide
  have hsame : EqualUpToCase "/\u212AELVIN/aB".toList "/kelvin/ab".toList := by decide +kernel
  obtain ⟨hiff, hvalues⟩ := (accepts_caseless_iff .whole plain).2 "/\u212AELVIN/aB"
  obtain ⟨compiled, hcompile, hmatch⟩ := hiff.mpr ⟨"/kelvin/ab", hsame, hkelvin⟩
  have hbinds : (PatternCompiler.compile ⟨false⟩ "/kelvin/:id" .whole).toOption.bind
      (·.captures? "/\u212AELVIN/aB") = some ⟨[("id", "aB")]⟩ := by decide +kernel
  rw [hcompile] at hbinds
  exact ⟨plain, hkelvin, hsign, compiled, hcompile, hmatch, hbinds,
    hvalues compiled _ hcompile hbinds ("id", "aB") List.mem_cons_self⟩

end RouteChain
