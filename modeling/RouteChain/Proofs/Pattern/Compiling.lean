import RouteChain.Pattern.Compiled
import RouteChain.Proofs.Pattern.Classify
import RouteChain.Proofs.Pattern.Expression

/-!
# Compiling patterns without constraints

A pattern without constraints is compiled unless its expression takes too much room, and then binds
on every path what its segments take from it.

## Main definitions

* `patternWeight` — how much room the expression of a pattern takes.
* `PatternCompiler.HasRoom` — a pattern with any constraints that is not refused for its size.

The main result is `PatternCompiler.compile_plain`.
-/

namespace RouteChain

open Regex

/-! ## Room -/

def Modifier.weight : Modifier → Nat
  | .one => 7
  | .optional => 9
  | .oneOrMore => 15
  | .zeroOrMore => 17

def Segment.weight : Segment → Nat
  | .wildcard => 4
  | .literal text => text.length + 1
  | .capture stem _ _ modifier => stem.length + 1 + modifier.weight

def Coverage.weight : Coverage → Nat
  | .whole => 2
  | .leading => 5

def patternWeight (segments : List Segment) (coverage : Coverage) : Nat :=
  1 + (segments.map Segment.weight).sum + coverage.weight + if segments.isEmpty then 0 else 2

namespace PatternCompiler

/-- The pattern is not too large and does not nest too deeply. -/
def HasRoom (compiler : PatternCompiler) (pattern : String) (coverage : Coverage) : Prop :=
  ∀ cause, compiler.compile pattern coverage = .error (.invalidExpression pattern cause) →
    cause ≠ .tooLarge ∧ cause ≠ .tooDeep

theorem hasRoom_of_compile {compiler : PatternCompiler} {pattern : String} {coverage : Coverage}
    (h : ∃ compiled, compiler.compile pattern coverage = .ok compiled) :
    compiler.HasRoom pattern coverage := by
  obtain ⟨compiled, hcompile⟩ := h
  intro cause herror
  rw [hcompile] at herror
  cases herror

end PatternCompiler

theorem sum_weight_slashParts (text : List Char) :
    ((slashParts text).map Expr.weight).sum = text.length + 1 := by
  have hone : Expr.weight ∘ charExpr = fun _ => 1 := rfl
  rw [slashParts, List.map_map, hone, List.map_const', List.sum_replicate_nat]
  simp

theorem sum_weight_parts (index : Nat) (segment : Segment) :
    ((segment.parts index).map Expr.weight).sum = segment.weight := by
  cases segment with
  | wildcard => rfl
  | literal text => exact sum_weight_slashParts text
  | capture stem name constraint modifier =>
    simp only [Segment.parts, Segment.weight]
    cases modifier with
    | one | oneOrMore =>
      simp only [Modifier.isOptional, Bool.false_eq_true, if_false, List.map_append,
        List.sum_append, sum_weight_slashParts]
      rfl
    | optional | zeroOrMore =>
      simp only [Modifier.isOptional, if_true]
      cases stem with
      | nil => rfl
      | cons c stem =>
        simp only [List.isEmpty_cons, Bool.false_eq_true, if_false, List.map_append,
          List.sum_append, sum_weight_slashParts]
        rfl

theorem sum_weight_segmentParts (index : Nat) (segments : List Segment) :
    ((segmentParts index segments).map Expr.weight).sum = (segments.map Segment.weight).sum := by
  induction segments generalizing index with
  | nil => rfl
  | cons segment segments ih =>
    rw [segmentParts, List.map_append, List.sum_append, sum_weight_parts, ih, List.map_cons,
      List.sum_cons]

theorem weight_expressionParts (segments : List Segment) (coverage : Coverage) :
    (Expr.ofParts (expressionParts segments coverage)).weight =
      patternWeight segments coverage := by
  rw [expressionParts, Expr.weight_ofParts (List.cons_ne_nil _ _), List.map_cons, List.sum_cons]
  cases segments with
  | nil => cases coverage <;> rfl
  | cons segment segments =>
    simp only [List.isEmpty_cons, Bool.false_eq_true, if_false, List.map_append, List.sum_append,
      sum_weight_segmentParts, patternWeight]
    cases coverage <;>
      simp [Coverage.endingParts, Coverage.weight, Expr.weight, optionExpr, charExpr, lineExpr] <;>
      omega

/-! ## Groups -/

theorem groupCount_slashParts (text : List Char) :
    ((slashParts text).map Expr.groupCount).foldr max 0 = 0 := by
  rw [slashParts]
  induction '/' :: text with
  | nil => rfl
  | cons c text ih =>
    rw [List.map_cons, List.map_cons, List.foldr_cons, ih]
    rfl

/-- The only group of a segment is that of its capture. -/
theorem groupCount_parts (index : Nat) (segment : Segment) :
    ((segment.parts index).map Expr.groupCount).foldr max 0 =
      if segment.captureCount = 0 then 0 else index := by
  have hvalue (modifier : Modifier) : modifier.valueExpr.groupCount = 0 := by cases modifier <;> rfl
  have hbehind (stem : List Char) (x : Expr) :
      ((slashParts stem ++ [x]).map Expr.groupCount).foldr max 0 = x.groupCount := by
    rw [List.map_append, foldr_max_append, groupCount_slashParts]
    simp
  cases segment with
  | wildcard => rfl
  | literal text => exact groupCount_slashParts text
  | capture stem name constraint modifier =>
    simp only [Segment.parts, Segment.captureCount]
    split
    · split
      · simp [optionExpr, charExpr, Expr.groupCount, hvalue]
      · rw [hbehind]
        simp [optionExpr, Expr.groupCount, hvalue]
    · rw [hbehind]
      simp [Expr.groupCount, hvalue]

/-- The groups of a pattern are numbered without gaps. -/
theorem groupCount_segmentParts (index : Nat) (segments : List Segment) :
    max index (((segmentParts (index + 1) segments).map Expr.groupCount).foldr max 0) =
      index + captureCount segments := by
  induction segments generalizing index with
  | nil => simp [segmentParts, captureCount]
  | cons segment segments ih =>
    have hrest := ih (index + segment.captureCount)
    have hindex : index + 1 + segment.captureCount = index + segment.captureCount + 1 := by omega
    rw [segmentParts, List.map_append, foldr_max_append, groupCount_parts, hindex, captureCount]
    have hone : segment.captureCount ≤ 1 := by cases segment <;> simp [Segment.captureCount]
    split <;> omega

theorem groupCount_expressionParts (segments : List Segment) (coverage : Coverage) :
    (Expr.ofParts (expressionParts segments coverage)).groupCount = captureCount segments := by
  rw [expressionParts, Expr.groupCount_ofParts, List.map_cons, List.foldr_cons]
  cases segments with
  | nil => cases coverage <;> rfl
  | cons segment segments =>
    have hgroups := groupCount_segmentParts 0 (segment :: segments)
    have hend : (coverage.endingParts.map Expr.groupCount).foldr max 0 = 0 := by
      cases coverage <;> rfl
    simp only [List.isEmpty_cons, Bool.false_eq_true, if_false, List.map_append, foldr_max_append,
      hend]
    simpa [Expr.groupCount] using hgroups

theorem length_captureNames (segments : List Segment) :
    (captureNames segments).length = captureCount segments := by
  have hfrom (unnamed : Nat) :
      (captureNamesFrom unnamed segments).length = captureCount segments := by
    induction segments generalizing unnamed with
    | nil => rfl
    | cons segment segments ih =>
      cases segment with
      | wildcard | literal => simp [captureNamesFrom, captureCount, Segment.captureCount, ih]
      | capture stem name constraint modifier =>
        cases name <;> simp [captureNamesFrom, captureCount, Segment.captureCount, ih, Nat.add_comm]
  exact hfrom 0

/-! ## Compiling -/

/-- What a pattern without constraints is compiled to. -/
def plainPattern (pattern : String) (coverage : Coverage) : CompiledPattern :=
  let segments := patternSegments pattern
  let x := Expr.ofParts (expressionParts segments coverage)
  ⟨⟨String.ofList (expressionText segments coverage), x, .ofExpr (anywhere x)⟩,
    captureNames segments⟩

/-- It binds on every path what the segments take from it. -/
theorem captures?_plainPattern (pattern : String) (coverage : Coverage) (path : String) :
    (plainPattern pattern coverage).captures? path =
      bindings? (patternSegments pattern) coverage path := by
  have hgroups := head?_expressionParts (patternSegments pattern) coverage path.toList
  have hfound : (plainPattern pattern coverage).regex.code.find? path.toList =
      (sequenceWays (expressionParts (patternSegments pattern) coverage)
        (.start path.toList)).head?.map Prod.fst := by
    rw [plainPattern, expressionParts, sequenceWays_textStart]
    exact Code.find?_anywhere (fun x mem =>
      (part_of_mem_expressionParts (List.mem_cons_of_mem _ mem)).2) path.toList
  have hcount : (plainPattern pattern coverage).regex.groupCount =
      captureCount (patternSegments pattern) := groupCount_expressionParts _ _
  rw [CompiledPattern.captures?, Regex.captures?, hfound, hcount, hgroups, bindings?,
    Option.map_map]
  rfl

/-- What the expression of a pattern without constraints is parsed to, with or without regard to
case. -/
theorem parse_of_isPlain (ignoreCase : Bool) {pattern : String} (coverage : Coverage)
    (plain : ∀ segment ∈ patternSegments pattern, segment.isPlain = true) :
    Regex.parse ignoreCase (String.ofList (expressionText (patternSegments pattern) coverage)) =
      let x := Expr.ofParts
        (.assertion .textStart :: spelledParts ignoreCase (patternSegments pattern) coverage)
      if Expr.maxWeight < x.weight then .error .tooLarge
      else .ok ⟨String.ofList (expressionText (patternSegments pattern) coverage), x,
        .ofExpr (anywhere x)⟩ := by
  rw [Regex.parse, String.toList_ofList, exprOf_of_isPlain ignoreCase coverage plain]
  simp only [bind, Except.bind]
  split <;> rfl

/-- What it is parsed to where case counts. -/
theorem parse_expressionText {pattern : String} (coverage : Coverage)
    (plain : ∀ segment ∈ patternSegments pattern, segment.isPlain = true) :
    Regex.parse false (String.ofList (expressionText (patternSegments pattern) coverage)) =
      if Expr.maxWeight < patternWeight (patternSegments pattern) coverage then .error .tooLarge
      else .ok (plainPattern pattern coverage).regex := by
  rw [parse_of_isPlain false coverage plain, spelledParts_of_isPlain coverage plain]
  simp only [weight_expressionParts]
  rfl

theorem PatternCompiler.compile_of_weight_le {pattern : String} {coverage : Coverage}
    (plain : ∀ segment ∈ patternSegments pattern, segment.isPlain = true)
    (h : patternWeight (patternSegments pattern) coverage ≤ Expr.maxWeight) :
    PatternCompiler.compile ⟨true⟩ pattern coverage = .ok (plainPattern pattern coverage) := by
  have hparse := parse_expressionText coverage plain
  rw [if_neg (Nat.not_lt.mpr h)] at hparse
  have hcount : (plainPattern pattern coverage).regex.groupCount =
      (captureNames (patternSegments pattern)).length := by
    rw [length_captureNames]
    exact groupCount_expressionParts _ _
  simp only [PatternCompiler.compile, Bool.not_true]
  rw [patternSegments] at hparse hcount
  simp only [hparse, hcount, if_true]
  rfl

theorem PatternCompiler.compile_of_lt_weight {pattern : String} {coverage : Coverage}
    (plain : ∀ segment ∈ patternSegments pattern, segment.isPlain = true)
    (h : Expr.maxWeight < patternWeight (patternSegments pattern) coverage) :
    PatternCompiler.compile ⟨true⟩ pattern coverage =
      .error (.invalidExpression pattern .tooLarge) := by
  have hparse := parse_expressionText coverage plain
  rw [if_pos h, patternSegments] at hparse
  rw [PatternCompiler.compile, Bool.not_true, hparse]

/-- A pattern without constraints is refused if its expression takes too much room. Otherwise it is
compiled, and binds on every path what its segments take from it. Which patterns are too large is a
matter of the bound, `Expr.maxWeight`: with another bound it would be others. -/
theorem PatternCompiler.compile_plain (pattern : String) (coverage : Coverage)
    (plain : ∀ segment ∈ patternSegments pattern, segment.isPlain = true) :
    (Expr.maxWeight < patternWeight (patternSegments pattern) coverage →
      PatternCompiler.compile ⟨true⟩ pattern coverage =
        .error (.invalidExpression pattern .tooLarge)) ∧
    (patternWeight (patternSegments pattern) coverage ≤ Expr.maxWeight →
      ∃ compiled, PatternCompiler.compile ⟨true⟩ pattern coverage = .ok compiled ∧
        ∀ path, compiled.captures? path = bindings? (patternSegments pattern) coverage path) :=
  ⟨PatternCompiler.compile_of_lt_weight plain, fun h =>
    ⟨plainPattern pattern coverage, PatternCompiler.compile_of_weight_le plain h,
      captures?_plainPattern pattern coverage⟩⟩

theorem PatternCompiler.compile_plain_of_post :
    (∀ segment ∈ patternSegments "/post-:id/:tags*", segment.isPlain = true) ∧
      ∃ compiled, PatternCompiler.compile ⟨true⟩ "/post-:id/:tags*" .whole = .ok compiled ∧
        compiled.captures? "/post-7/a/b/" = some ⟨[("id", "7"), ("tags", "a/b")]⟩ ∧
        compiled.captures? "/post-7" = some ⟨[("id", "7")]⟩ ∧
        compiled.captures? "/post-" = none := by
  have hsegments : patternSegments "/post-:id/:tags*" =
      [.capture "post-".toList (some "id".toList) none .one,
        .capture [] (some "tags".toList) none .zeroOrMore] := by decide
  have hplain : ∀ segment ∈ patternSegments "/post-:id/:tags*", segment.isPlain = true :=
    fun segment => isPlain_of_mem_patternSegments (by decide)
  obtain ⟨compiled, hcompile, hcaptures⟩ :=
    (PatternCompiler.compile_plain "/post-:id/:tags*" .whole hplain).2 (by rw [hsegments]; decide)
  refine ⟨hplain, compiled, hcompile, ?_, ?_, ?_⟩
  · rw [hcaptures, hsegments]
    decide +kernel
  · rw [hcaptures, hsegments]
    decide
  · rw [hcaptures, hsegments]
    decide

/-! ## Limits -/

def wildcards (count : Nat) : String :=
  String.ofList (List.replicate count ['/', '*']).flatten

theorem patternSegments_wildcards (count : Nat) :
    patternSegments (wildcards count) = List.replicate count .wildcard := by
  have hsplit : Text.splitOn '/' (List.replicate count ['/', '*']).flatten =
      [] :: List.replicate count ['*'] := by
    induction count with
    | zero => rfl
    | succ count ih =>
      rw [List.replicate_succ, List.flatten_cons, List.replicate_succ]
      simp [Text.splitOn, ih]
  rw [patternSegments, wildcards, String.toList_ofList, segmentTexts, hsplit]
  simp [Segment.classify]

theorem isPlain_wildcards (count : Nat) :
    ∀ segment ∈ patternSegments (wildcards count), segment.isPlain = true := by
  rw [patternSegments_wildcards]
  intro segment mem
  rw [List.eq_of_mem_replicate mem]
  rfl

/-- A pattern of too many wildcards is refused. -/
theorem PatternCompiler.compile_wildcards {count : Nat} (h : 75000 ≤ count) :
    PatternCompiler.compile ⟨true⟩ (wildcards count) .whole =
      .error (.invalidExpression (wildcards count) .tooLarge) := by
  refine PatternCompiler.compile_of_lt_weight (isPlain_wildcards count) ?_
  rw [patternSegments_wildcards, patternWeight, List.map_replicate, List.sum_replicate_nat]
  simp only [Expr.maxWeight, Segment.weight, Coverage.weight]
  omega

/-- A pattern without segments does not match the empty path, although that leaves nothing. -/
theorem PatternCompiler.compile_root :
    ∃ compiled, PatternCompiler.compile ⟨true⟩ "/" .whole = .ok compiled ∧
      compiled.captures? "" = none := by
  have hroot : patternSegments "/" = [] := by decide
  refine ⟨plainPattern "/" .whole, PatternCompiler.compile_of_weight_le (by rw [hroot]; decide)
    (by rw [hroot]; decide), ?_⟩
  rw [captures?_plainPattern, hroot]
  rfl

/-- Compiling may fail although there are no constraints, and a path may not be matched although the
segments of the pattern leave nothing of it. -/
theorem PatternCompiler.compile_plain_limits :
    ((∀ segment ∈ patternSegments (wildcards 100000), segment.isPlain = true) ∧
      PatternCompiler.compile ⟨true⟩ (wildcards 100000) .whole =
        .error (.invalidExpression (wildcards 100000) .tooLarge)) ∧
    (takeSegments (patternSegments "/") "".toList = [([], [])] ∧
      Coverage.whole.covers [] = true ∧
      ∃ compiled, PatternCompiler.compile ⟨true⟩ "/" .whole = .ok compiled ∧
        compiled.captures? "" = none) :=
  ⟨⟨isPlain_wildcards 100000, PatternCompiler.compile_wildcards (by omega)⟩, by decide, rfl,
    PatternCompiler.compile_root⟩

end RouteChain
