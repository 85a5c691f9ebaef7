import RouteChain.Proofs.Pattern.Anchoring
import RouteChain.Proofs.Pattern.Compiling
import RouteChain.Proofs.Pattern.Spans

/-!
# Groups and names pair up

A pattern is accepted if its expression has as many groups as the pattern has captures. Where the
constraints are expressions on their own this is enough for groups and names to pair up: a group in
a constraint would push the group of the last capture beyond the number of captures, unless it is in
the constraint of the last capture, and then it would be beyond that number itself.

So each name is bound to what the constraint of its own capture spans, or to nothing. A constraint
that is no expression on its own can defeat this: it can open a group and make the group of another
capture part of a class.

The main results are `PatternCompiler.spelled_of_compile` and `CompiledPattern.binds_own_span`.
-/

namespace RouteChain

open Regex

/-! ## Counting groups -/

/-- The groups in a constraint are numbered behind that of its capture. -/
theorem Modifier.mem_groups_valueBehind {x : Expr} {number : Nat} (mem : number ∈ x.groups)
    (count index : Nat) (modifier : Modifier) :
    number + index ∈ (modifier.valueBehind x count index).groups := by
  have hshift : number + index ∈ (x.shift index).groups := by
    rw [Expr.groups_shift]
    exact List.mem_map_of_mem mem
  cases modifier with
  | one | optional => exact hshift
  | oneOrMore | zeroOrMore =>
    rw [valueBehind, Expr.groups_sequence]
    exact List.mem_flatMap.mpr ⟨_, List.mem_cons_self, hshift⟩

namespace Segment

variable {ignoreCase : Bool} {segment : Segment}

/-- A segment opens at least the group of its capture. -/
theorem captureCount_le_openedCount (segment : Segment) :
    segment.captureCount ≤ segment.openedCount := by
  cases segment <;> simp [captureCount, openedCount]

/-- If it opens no more than that, its constraint opens none. -/
theorem innerCount_of_openedCount_le (h : segment.openedCount ≤ segment.captureCount) :
    segment.innerCount = 0 := by
  cases segment with
  | wildcard | literal text => rfl
  | capture stem name constraint modifier =>
    have hinner : modifier.pieceCount * constraintCount constraint = 0 := by
      simpa [openedCount, captureCount] using h
    rw [innerCount]
    cases modifier <;> simpa [Modifier.pieceCount] using hinner

/-- The group of a capture is numbered behind those before it. -/
theorem mem_groups_numbered (segment : Segment) (h : 0 < segment.captureCount)
    (ignoreCase : Bool) (index : Nat) :
    index + segment.captureCount ∈ (segment.numbered ignoreCase index).flatMap Expr.groups := by
  cases segment with
  | wildcard | literal text => cases h
  | capture stem name constraint modifier =>
    rw [numbered, flatMap_groups_captureSpelling]
    exact List.mem_cons_self

/-- If none of its groups is numbered higher, the constraint of the capture has none. -/
theorem captureless_of_groups_le {index : Nat}
    (h : ∀ number ∈ (segment.numbered ignoreCase index).flatMap Expr.groups,
      number ≤ index + segment.captureCount) : segment.Captureless ignoreCase := by
  cases segment with
  | wildcard | literal text => trivial
  | capture stem name constraint modifier =>
    refine List.eq_nil_iff_forall_not_mem.mpr fun number mem => ?_
    have hpositive := (of_mem_groups_pieceExpr mem).1
    have hbehind := modifier.mem_groups_valueBehind mem (constraintCount constraint) (index + 1)
    rw [numbered, flatMap_groups_captureSpelling] at h
    have hle : number + (index + 1) ≤ index + 1 := h _ (List.mem_cons_of_mem _ hbehind)
    omega

end Segment

/-- The group of the last capture is numbered at least as high as there are captures. -/
theorem exists_mem_groups_numberedSegments (ignoreCase : Bool) {segments : List Segment}
    (h : 0 < captureCount segments) (index : Nat) :
    ∃ number ∈ (numberedSegments ignoreCase index segments).flatMap Expr.groups,
      index + captureCount segments ≤ number := by
  induction segments generalizing index with
  | nil => cases h
  | cons segment segments ih =>
    rw [captureCount] at h
    rw [numberedSegments, List.flatMap_append, captureCount]
    by_cases hmore : 0 < captureCount segments
    · obtain ⟨number, mem, hle⟩ := ih hmore (index + segment.openedCount)
      have hopened := segment.captureCount_le_openedCount
      exact ⟨number, List.mem_append_right _ mem, by omega⟩
    · have hlast := segment.mem_groups_numbered (by omega) ignoreCase index
      exact ⟨index + segment.captureCount, List.mem_append_left _ hlast, by omega⟩

/-- Without captures there is nothing to be numbered. -/
theorem segmentsSpelling_of_captureCount {segments : List Segment} (h : captureCount segments = 0)
    (ignoreCase : Bool) (index other : Nat) :
    segmentsSpelling ignoreCase index segments = segmentsSpelling ignoreCase other segments := by
  induction segments generalizing index other with
  | nil => rfl
  | cons segment segments ih =>
    obtain ⟨hfirst, hrest⟩ := Nat.add_eq_zero_iff.mp h
    have hsegment : segment.spelling ignoreCase index = segment.spelling ignoreCase other := by
      cases segment with
      | wildcard | literal text => rfl
      | capture stem name constraint modifier => cases hfirst
    rw [segmentsSpelling, segmentsSpelling, hsegment,
      ih hrest _ (other + segment.captureCount)]

/-- Where no group is numbered higher than there are captures, no constraint has a group, and the
groups are numbered as the captures are. -/
theorem captureless_of_groups_le {ignoreCase : Bool} {segments : List Segment} (index : Nat)
    (h : ∀ number ∈ (numberedSegments ignoreCase index segments).flatMap Expr.groups,
      number ≤ index + captureCount segments) :
    (∀ segment ∈ segments, segment.Captureless ignoreCase) ∧
      numberedSegments ignoreCase index segments =
        segmentsSpelling ignoreCase (index + 1) segments := by
  induction segments generalizing index with
  | nil => exact ⟨nofun, rfl⟩
  | cons segment segments ih =>
    rw [numberedSegments, List.flatMap_append, captureCount] at h
    have hfirst number mem := h number (List.mem_append_left _ mem)
    have hrest number mem := h number (List.mem_append_right _ mem)
    have hopened := segment.captureCount_le_openedCount
    rw [List.forall_mem_cons, numberedSegments, segmentsSpelling]
    by_cases hmore : 0 < captureCount segments
    · -- The group of the last capture leaves no room for groups in this constraint.
      obtain ⟨number, mem, hle⟩ :=
        exists_mem_groups_numberedSegments ignoreCase hmore (index + segment.openedCount)
      have hbound := hrest number mem
      have hcount : segment.openedCount = segment.captureCount := by omega
      have hfree := Segment.captureless_of_innerCount
        (Segment.innerCount_of_openedCount_le hcount.le) ignoreCase
      obtain ⟨hothers, heq⟩ := ih (index + segment.openedCount) fun number mem => by
        have := hrest number mem
        omega
      rw [hcount] at heq
      refine ⟨⟨hfree, hothers⟩, ?_⟩
      rw [Segment.numbered_eq_spelling hfree, hcount, heq, Nat.add_right_comm]
    · -- This is the last capture: groups in its constraint would be numbered higher than it is.
      have hnone : captureCount segments = 0 := by omega
      rw [hnone, Nat.add_zero] at hfirst hrest
      have hfree := Segment.captureless_of_groups_le hfirst
      obtain ⟨hothers, heq⟩ := ih (index + segment.openedCount) fun number mem => by
        have := hrest number mem
        omega
      refine ⟨⟨hfree, hothers⟩, ?_⟩
      rw [Segment.numbered_eq_spelling hfree, heq,
        segmentsSpelling_of_captureCount hnone ignoreCase _ (index + 1 + segment.captureCount)]

/-! ## Compiled patterns -/

/-- The expression of a pattern whose constraints are expressions on their own, if it was accepted,
has no groups but one for each capture. -/
theorem PatternCompiler.spelled_of_compile {compiler : PatternCompiler} {pattern : String}
    {coverage : Coverage} {compiled : CompiledPattern}
    (h : compiler.compile pattern coverage = .ok compiled)
    (valid : ∀ segment ∈ patternSegments pattern,
      segment.IsExpression (!compiler.caseSensitive)) :
    (∀ segment ∈ patternSegments pattern, segment.Captureless (!compiler.caseSensitive)) ∧
      compiled.regex.expr = .sequence (.assertion .textStart ::
        spelledParts (!compiler.caseSensitive) (patternSegments pattern) coverage) := by
  obtain ⟨hexpr, -, hnames, hcount⟩ := eq_of_compile h
  have hdenotes := denotes_expressionText coverage fun segment mem =>
    legible_of_mem_patternSegments mem (valid segment mem)
  have hwritten := eq_of_denotes hdenotes hexpr
  rw [hnames, length_captureNames] at hcount
  have hle : ∀ number ∈ compiled.regex.expr.groups,
      number ≤ captureCount (patternSegments pattern) := fun number mem =>
    hcount ▸ Expr.le_groupCount mem
  rw [hwritten, Expr.groups_sequence, List.flatMap_cons] at hle
  rw [hwritten]
  generalize patternSegments pattern = segments at *
  unfold numberedParts spelledParts at *
  split at hle
  · rename_i hempty
    obtain rfl := List.isEmpty_iff.mp hempty
    exact ⟨nofun, rfl⟩
  · rename_i hempty
    have hall := captureless_of_groups_le 0 fun number mem => by
      have hmem := List.mem_append_right (Expr.groups (.assertion .textStart))
        (List.mem_append_left (coverage.endingParts.flatMap Expr.groups) mem)
      rw [Nat.zero_add]
      exact hle number (by rwa [List.flatMap_append])
    rw [if_neg hempty, if_neg hempty, hall.2]
    exact ⟨hall.1, rfl⟩

/-- A pattern whose constraints are expressions on their own, if it is accepted, has a group for
each name, and it is the group of the capture that bears the name: there are no others, and they
are numbered in the order of the captures. A path binds each name to what the constraint of its own
capture spans in the place that the segments leave to it, or to nothing. -/
theorem CompiledPattern.binds_own_span {compiler : PatternCompiler} {pattern : String}
    {coverage : Coverage} {compiled : CompiledPattern}
    (h : compiler.compile pattern coverage = .ok compiled)
    (valid : ∀ segment ∈ patternSegments pattern,
      segment.IsExpression (!compiler.caseSensitive)) :
    compiled.names.length = compiled.regex.groupCount ∧
      compiled.regex.expr = .sequence (.assertion .textStart ::
        spelledParts (!compiler.caseSensitive) (patternSegments pattern) coverage) ∧
      compiled.regex.expr.groups = List.range' 1 compiled.names.length ∧
      ∀ path params, compiled.captures? path = some params →
        ∃ values t, Span (!compiler.caseSensitive) (patternSegments pattern) values
            (.start path.toList) t ∧
          coverage.covers t.rest = true ∧ values.length = compiled.names.length ∧
          params = .ofGroups (compiled.names.zip (values.map (·.map String.ofList))) := by
  obtain ⟨-, hcode, hnames, hcount⟩ := PatternCompiler.eq_of_compile h
  obtain ⟨hfree, hexpr⟩ := PatternCompiler.spelled_of_compile h valid
  have hlength : compiled.names.length = captureCount (patternSegments pattern) := by
    rw [hnames, length_captureNames]
  refine ⟨hcount.symm, hexpr, ?_, fun path params hcaptures => ?_⟩
  · rw [hexpr, groups_spelledParts coverage hfree, hlength]
  · obtain ⟨marks, hmarks, rfl⟩ := captures?_eq_some hcaptures
    rw [hcode] at hmarks
    have hways : compiled.regex.expr.ways = sequenceWays (.assertion .textStart ::
        spelledParts (!compiler.caseSensitive) (patternSegments pattern) coverage) := by
      rw [hexpr, Expr.ways_sequence]
    obtain ⟨last, hlast⟩ := Code.mem_sequenceWays_of_find? hways hmarks
    obtain ⟨values, t, hspan, hcovers, hvalues⟩ := exists_span_spelledParts hfree hlast
    refine ⟨values, t, hspan, hcovers, ?_, ?_⟩
    · have hcounts := congrArg List.length hvalues
      rw [List.length_map, List.length_range, List.length_map] at hcounts
      rw [← hcounts, hlength]
    · rw [hcount, hlength, hvalues]

/-- A pattern in whose last constraint there is a group that is never entered. -/
def wordPattern : String :=
  "/:id([0-9]+)/:word(\\\\(y\\\\){0}[a-z]+)"

theorem patternSegments_wordPattern : patternSegments wordPattern =
    [.capture [] (some ['i', 'd']) (some ['[', '0', '-', '9', ']', '+']) .one,
      .capture [] (some ['w', 'o', 'r', 'd'])
        (some ("\\\\(y\\\\){0}[a-z]+".toList)) .one] := by
  decide

theorem isExpression_wordPattern : ∀ segment ∈ patternSegments wordPattern,
    segment.IsExpression false := by
  rw [patternSegments_wordPattern, List.forall_mem_cons, List.forall_mem_singleton]
  exact ⟨⟨_, rfl⟩, ⟨_, rfl⟩⟩

theorem CompiledPattern.binds_own_span_of_word :
    ∃ compiled, PatternCompiler.compile {} wordPattern .whole = .ok compiled ∧
      compiled.captures? "/42/\\xyz" = some ⟨[("id", "42"), ("word", "\\xyz")]⟩ ∧
      compiled.names.length = compiled.regex.groupCount ∧
      compiled.regex.expr.groups = List.range' 1 compiled.names.length ∧
      ∃ values t, Span false (patternSegments wordPattern) values (.start "/42/\\xyz".toList) t ∧
        Coverage.whole.covers t.rest = true ∧ values.length = compiled.names.length ∧
        ⟨[("id", "42"), ("word", "\\xyz")]⟩ =
          Params.ofGroups (compiled.names.zip (values.map (·.map String.ofList))) := by
  obtain ⟨compiled, hcompile, hcaptures⟩ : ∃ compiled,
      PatternCompiler.compile {} wordPattern .whole = .ok compiled ∧
        compiled.captures? "/42/\\xyz" = some ⟨[("id", "42"), ("word", "\\xyz")]⟩ :=
    ⟨_, rfl, rfl⟩
  obtain ⟨hcount, -, hgroups, hbinds⟩ :=
    CompiledPattern.binds_own_span hcompile isExpression_wordPattern
  exact ⟨compiled, hcompile, hcaptures, hcount, hgroups, hbinds _ _ hcaptures⟩

/-! ## Exceptions -/

/-- A pattern with a constraint that opens a group, and hides that of the other capture in a
class. -/
def hidingPattern : String :=
  "/:a(\\\\(y\\\\)[)/:b(])"

/-- Such a pattern is accepted, but the second name is bound to a part of what the first capture
takes, and not to what its own constraint could span. -/
theorem CompiledPattern.hidingPattern_binds_part :
    ∃ compiled, PatternCompiler.compile {} hidingPattern .whole = .ok compiled ∧
      compiled.names = ["a", "b"] ∧
      (patternSegments hidingPattern)[1]? = some (.capture [] (some ['b']) (some [']']) .one) ∧
      compiled.captures? "/\\y\\)" = some ⟨[("a", "\\y\\)"), ("b", "y\\")]⟩ ∧
      ∀ s t, (pieceExpr false (some [']'])).Spans s t → s.rest ≠ ['y', '\\'] ++ t.rest := by
  refine ⟨_, rfl, rfl, by decide, rfl, ?_⟩
  rintro s t ⟨marks, mem⟩ hrest
  have hpiece : pieceExpr false (some [']']) = charExpr ']' := rfl
  rw [hpiece, ways_charExpr, hrest] at mem
  cases mem

end RouteChain
