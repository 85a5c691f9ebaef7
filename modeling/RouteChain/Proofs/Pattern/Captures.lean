import Mathlib.Data.List.Find
import RouteChain.Proofs.Pattern.Binding

/-!
# The preferred way to match a pattern

The preferred way to match the expression of a pattern binds what the segments of the pattern take
first, of all that they can take, so that the rest is covered.

## Main definitions

* `segmentParts`, `Coverage.endingParts`, `Coverage.rootParts` — the parts of the expression of a
  pattern.
* `expressionParts` — all of them.

The main result is `head?_expressionParts`.
-/

namespace RouteChain

open Regex Regex.Way

/-! ## One segment after another -/

def takesThen (takes : List (List (Option (List Char)) × List Char))
    (next : List Char → List (List (Option (List Char)) × List Char)) :
    List (List (Option (List Char)) × List Char) :=
  takes.flatMap (fun taken => (next taken.2).map (fun other => (taken.1 ++ other.1, other.2)))

theorem boundedTakes_takesThen (takes : List (List (Option (List Char)) × List Char))
    (next : List Char → List (List (Option (List Char)) × List Char)) :
    boundedTakes (takesThen takes next) =
      takesThen takes (fun rest => boundedTakes (next rest)) := by
  simp [boundedTakes, takesThen, List.filter_flatMap, List.filter_map, Function.comp_def]

/-- What takes nothing off a boundary follows only what ends at one. -/
theorem takesThen_boundedTakes (takes : List (List (Option (List Char)) × List Char))
    {next : List Char → List (List (Option (List Char)) × List Char)}
    (h : ∀ rest, atBoundary rest = false → next rest = []) :
    takesThen takes next = takesThen (boundedTakes takes) next := by
  induction takes with
  | nil => rfl
  | cons taken takes ih =>
    simp only [takesThen, boundedTakes, List.filter_cons, List.flatMap_cons] at ih ⊢
    cases hboundary : atBoundary taken.2 with
    | true => simp [ih]
    | false => simpa [h taken.2 hboundary] using ih

/-- Ways that are continued bind what is taken after something else was. -/
theorem forall₂_andThen {text : List Char} {index count more : Nat} {ways : List Way}
    {takes : List (List (Option (List Char)) × List Char)} {next : Spot → List Way}
    {nextTakes : List Char → List (List (Option (List Char)) × List Char)}
    (h : List.Forall₂ (Binds text index count) ways takes)
    (h' : ∀ s : Spot, text.drop s.position = s.rest →
      List.Forall₂ (Binds text (index + count) more) (next s) (nextTakes s.rest)) :
    List.Forall₂ (Binds text index (count + more)) (andThen ways next)
      (takesThen takes nextTakes) := by
  induction h with
  | nil => exact .nil
  | @cons way taken ways takes binds _ ih =>
    have hnext := h' way.2 binds.drop_eq
    rw [binds.rest_eq] at hnext
    rw [cons_andThen, takesThen, List.flatMap_cons]
    refine List.rel_append ?_ ih
    rw [List.forall₂_map_left_iff, List.forall₂_map_right_iff]
    exact hnext.imp fun last other bound => binds.append bound

/-- Off a boundary a segment takes nothing, and leaves everything if its capture may be absent. -/
theorem takes_off_boundary (segment : Segment) {text : List Char} (h : atBoundary text = false) :
    segment.takes text = [] ∨ segment.takes text = [([none], text)] := by
  have hnone (start : List Char) : takeText ('/' :: start) text = [] := by
    cases text with
    | nil => cases h
    | cons c text =>
      have hc : c ≠ '/' := by simpa [atBoundary] using h
      simp [takeText, Ne.symm hc]
  cases segment with
  | wildcard | literal => simp [Segment.takes, hnone]
  | capture stem name constraint modifier =>
    simp only [Segment.takes, hnone]
    cases modifier.isOptional <;> cases stem.isEmpty <;> simp

theorem boundedTakes_off_boundary (segments : List Segment) {text : List Char}
    (h : atBoundary text = false) : boundedTakes (takeSegments segments text) = [] := by
  induction segments with
  | nil => simp [takeSegments, boundedTakes, h]
  | cons segment segments ih =>
    have hthen : takeSegments (segment :: segments) text =
        takesThen (segment.takes text) (takeSegments segments) := rfl
    rw [hthen, boundedTakes_takesThen]
    rcases takes_off_boundary segment h with htakes | htakes <;> simp [htakes, takesThen, ih]

/-! ## Several segments -/

def segmentParts : (index : Nat) → List Segment → List Expr
  | _, [] => []
  | index, segment :: segments =>
    segment.parts index ++ segmentParts (index + segment.captureCount) segments

def captureCount : List Segment → Nat
  | [] => 0
  | segment :: segments => segment.captureCount + captureCount segments

/-- The expressions of some segments take and bind what the segments do. -/
theorem forall₂_segments {text : List Char} (index : Nat) (segments : List Segment) {s : Spot}
    (h : text.drop s.position = s.rest) :
    List.Forall₂ (Binds text index (captureCount segments))
      (bounded (sequenceWays (segmentParts index segments) s))
      (boundedTakes (takeSegments segments s.rest)) := by
  induction segments generalizing text index s with
  | nil => exact forall₂_bounded (.cons (.unmarked index h (List.nil_append _).symm) .nil)
  | cons segment segments ih =>
    have hthen : takeSegments (segment :: segments) s.rest =
        takesThen (segment.takes s.rest) (takeSegments segments) := rfl
    rw [segmentParts, sequenceWays_append, bounded_andThen, andThen_bounded, hthen,
      boundedTakes_takesThen, takesThen_boundedTakes]
    · exact forall₂_andThen (forall₂_segment index segment h) fun s h => ih _ h
    · exact fun rest hrest => boundedTakes_off_boundary segments hrest
    · intro other hother
      -- Any place is one of some text, and there the segments take nothing either.
      have hplace : (List.replicate other.position '/' ++ other.rest).drop other.position =
          other.rest := by simp
      have hnone := ih (index + segment.captureCount) hplace
      rw [boundedTakes_off_boundary segments hother] at hnone
      exact List.forall₂_nil_right_iff.mp hnone

/-! ## Endings -/

def Coverage.endingParts : Coverage → List Expr
  | .whole => [optionExpr (charExpr '/'), .assertion .textEnd]
  | .leading => [optionExpr (.cat (charExpr '/') lineExpr), .assertion .textEnd]

def Coverage.rootParts : Coverage → List Expr
  | .whole => [charExpr '/', .assertion .textEnd]
  | .leading => [charExpr '/', lineExpr, .assertion .textEnd]

theorem ways_textEnd (s : Spot) :
    (Expr.assertion .textEnd).ways s = if s.rest.isEmpty then stay s else [] := by
  simp [Expr.ways, Assertion.ways, Assertion.holds, Spot.after]

/-- Before the end of the text only the ways that lead there are left. -/
theorem andThen_textEnd (ways : List Way) :
    andThen ways (sequenceWays [.assertion .textEnd]) =
      ways.filter (fun way => way.2.rest.isEmpty) := by
  induction ways with
  | nil => rfl
  | cons way ways ih =>
    rw [cons_andThen, ih, sequenceWays_singleton, ways_textEnd]
    cases hrest : way.2.rest.isEmpty <;> simp [hrest, stay]

/-- A line is taken up to the end of the text if there is no line feed. -/
theorem find?_takeLine (text : List Char) :
    (takeLine text).find? (fun taken => taken.2.isEmpty) =
      if text.all (· ≠ '\n') then some (text, []) else none := by
  induction text with
  | nil => rfl
  | cons c text ih =>
    by_cases h : c = '\n'
    · simp [takeLine, h]
    · simp only [takeLine, h, if_false, List.find?_append, List.find?_map, Function.comp_def, ih]
      split <;> grind

/-- A line at the end of a pattern takes all that is left. -/
theorem head?_lineExpr (s : Spot) :
    (sequenceWays [lineExpr, .assertion .textEnd] s).head? =
      if s.rest.all (· ≠ '\n') then some ([], s.skip s.rest) else none := by
  have hrest : ∀ taken ∈ takeLine s.rest, (s.skip taken.1).rest = taken.2 := fun taken mem =>
    Spot.rest_skip (eq_append_of_mem_takeLine mem)
  have hfilter : (takeLine s.rest).filter (fun taken => (s.skip taken.1).rest.isEmpty) =
      (takeLine s.rest).filter (fun taken => taken.2.isEmpty) :=
    List.filter_congr fun taken mem => by rw [hrest taken mem]
  rw [sequenceWays, andThen_textEnd, ways_lineExpr, List.filter_map, List.head?_map]
  simp only [Function.comp_def, hfilter, List.head?_filter, find?_takeLine]
  split <;> rfl

/-- A slash at the end of a pattern takes the rest if that is one. -/
theorem sequenceWays_slash (s : Spot) :
    sequenceWays [charExpr '/', .assertion .textEnd] s =
      if s.rest = ['/'] then stay (s.skip ['/']) else [] := by
  rw [sequenceWays, andThen_textEnd, ways_charExpr]
  cases hrest : s.rest with
  | nil => simp
  | cons c rest =>
    by_cases hc : '/' = c
    · subst hc
      cases rest <;> simp [hrest, Spot.skip, stay]
    · simp [hc, Ne.symm hc]

/-- The rest of a pattern without segments covers what is left, unless nothing is. -/
theorem head?_rootParts (coverage : Coverage) (s : Spot) :
    (sequenceWays coverage.rootParts s).head?.map Prod.fst =
      if !s.rest.isEmpty && coverage.covers s.rest then some [] else none := by
  cases coverage with
  | whole =>
    rw [Coverage.rootParts, sequenceWays_slash]
    cases hrest : s.rest with
    | nil => simp
    | cons c rest =>
      by_cases h : c :: rest = ['/'] <;> simp [h, Coverage.covers, stay]
  | leading =>
    rw [Coverage.rootParts, sequenceWays, ways_charExpr]
    cases hrest : s.rest with
    | nil => simp
    | cons c rest =>
      by_cases hc : '/' = c
      · subst hc
        have hslash : s.rest = ['/'] ++ rest := hrest
        have hskip : (s.skip ['/']).rest = rest := Spot.rest_skip hslash
        simp only [List.isPrefixOf, beq_self_eq_true, Bool.and_self, if_true, stay_andThen,
          head?_lineExpr, hskip]
        cases hall : rest.all (· ≠ '\n') <;> grind [Coverage.covers]
      · simp [hc, Ne.symm hc, Coverage.covers]

/-- A pattern with segments ends like one without, or at the end of the text. -/
theorem sequenceWays_endingParts (coverage : Coverage) (s : Spot) :
    sequenceWays coverage.endingParts s =
      sequenceWays coverage.rootParts s ++ if s.rest.isEmpty then stay s else [] := by
  cases coverage with
  | whole =>
    rw [Coverage.endingParts, Coverage.rootParts, sequenceWays, ways_optionExpr, append_andThen,
      stay_andThen, sequenceWays_singleton, ways_textEnd]
    rfl
  | leading =>
    rw [Coverage.endingParts, Coverage.rootParts, sequenceWays, ways_optionExpr, append_andThen,
      stay_andThen, sequenceWays_singleton, ways_textEnd, Expr.ways, andThen_assoc]
    rfl

/-- The end of a pattern with segments covers what is left. -/
theorem head?_endingParts (coverage : Coverage) (s : Spot) :
    (sequenceWays coverage.endingParts s).head?.map Prod.fst =
      if coverage.covers s.rest then some [] else none := by
  rw [sequenceWays_endingParts, List.head?_append, Option.map_or, head?_rootParts]
  cases hempty : s.rest.isEmpty with
  | true => simp [List.isEmpty_iff.mp hempty, Coverage.covers, stay]
  | false => cases hcovers : coverage.covers s.rest <;> simp

/-! ## The whole expression -/

def expressionParts (segments : List Segment) (coverage : Coverage) : List Expr :=
  .assertion .textStart ::
    if segments.isEmpty then coverage.rootParts
    else segmentParts 1 segments ++ coverage.endingParts

theorem atBoundary_of_covers {coverage : Coverage} {rest : List Char}
    (h : coverage.covers rest = true) : atBoundary rest = true := by
  cases rest with
  | nil => rfl
  | cons c rest => cases coverage <;> grind [Coverage.covers, atBoundary]

/-- A pattern is matched on the first way of its segments behind which the rest is covered. -/
theorem head?_andThen_endingParts (coverage : Coverage) (ways : List Way) :
    (andThen ways (sequenceWays coverage.endingParts)).head?.map Prod.fst =
      (ways.find? (fun way => coverage.covers way.2.rest)).map Prod.fst := by
  induction ways with
  | nil => rfl
  | cons way ways ih =>
    have hend := head?_endingParts coverage way.2
    rw [cons_andThen, List.head?_append, Option.map_or, ih, List.find?_cons, List.head?_map]
    cases hways : (sequenceWays coverage.endingParts way.2).head? with
    | none =>
      have hcovers : coverage.covers way.2.rest = false := by simpa [hways] using hend
      simp [hcovers]
    | some last =>
      obtain ⟨hcovers, hmarks⟩ : coverage.covers way.2.rest = true ∧ [] = last.1 := by
        simpa [hways] using hend.symm
      simp [hcovers, ← hmarks]

/-- What is covered begins at a boundary, so nothing is lost where only that is kept. -/
theorem find?_filter_atBoundary {α : Type} (coverage : Coverage) (rest : α → List Char)
    (all : List α) :
    (all.filter (fun one => atBoundary (rest one))).find? (fun one => coverage.covers (rest one)) =
      all.find? (fun one => coverage.covers (rest one)) := by
  rw [List.find?_filter]
  refine List.find?_congr fun one _ => ?_
  cases hcovers : coverage.covers (rest one) with
  | false => simp
  | true => simp [atBoundary_of_covers hcovers]

/-- The texts of all groups of a way that binds what is taken are the values of the captures. -/
theorem Binds.groups_eq {text : List Char} {count : Nat} {way : Way}
    {taken : List (Option (List Char)) × List Char} (h : Binds text 1 count way taken) :
    (List.range count).map (fun i => groupText? text way.1 (i + 1)) =
      taken.1.map (·.map String.ofList) := by
  refine List.ext_getElem (by simp [h.length_eq]) fun n hn hn' => ?_
  have hvalue : n < taken.1.length := by simpa using hn'
  have := h.value_eq n taken.1[n] (List.getElem?_eq_getElem hvalue)
  rw [List.getElem_map, List.getElem_map, List.getElem_range, Nat.add_comm n 1, this]

/-- Of ways that bind what is taken, the first behind which the rest is covered binds what is taken
first so that it is. -/
theorem groups_find? {text : List Char} {count : Nat} {ways : List Way}
    {takes : List (List (Option (List Char)) × List Char)} (coverage : Coverage)
    (h : List.Forall₂ (Binds text 1 count) ways takes) :
    (ways.find? (fun way => coverage.covers way.2.rest)).map (fun way =>
        (List.range count).map (fun i => groupText? text way.1 (i + 1))) =
      (takes.find? (fun taken => coverage.covers taken.2)).map (fun taken =>
        taken.1.map (·.map String.ofList)) := by
  induction h with
  | nil => rfl
  | @cons way taken ways takes binds _ ih =>
    rw [List.find?_cons, List.find?_cons, binds.rest_eq]
    cases coverage.covers taken.2 with
    | true => exact congrArg some binds.groups_eq
    | false => exact ih

/-- The preferred way to match the expression of a pattern binds the values of its captures. -/
theorem head?_expressionParts (segments : List Segment) (coverage : Coverage) (path : List Char) :
    ((sequenceWays (expressionParts segments coverage) (.start path)).head?.map Prod.fst).map
        (fun marks => (List.range (captureCount segments)).map (fun i =>
          groupText? path marks (i + 1))) =
      (captureValues? segments coverage path).map (·.map (·.map String.ofList)) := by
  cases segments with
  | nil =>
    rw [expressionParts, List.isEmpty_nil, if_pos rfl, sequenceWays_textStart, head?_rootParts,
      captureValues?]
    cases path with
    | nil => rfl
    | cons c path =>
      cases hcovers : coverage.covers (c :: path) <;>
        simp [hcovers, takeSegments, Spot.start, captureCount]
  | cons segment segments =>
    have hplace : path.drop (Spot.start path).position = (Spot.start path).rest := rfl
    have hall := forall₂_segments 1 (segment :: segments) hplace
    have hfound := groups_find? coverage hall
    rw [bounded, boundedTakes, find?_filter_atBoundary coverage (fun way : Way => way.2.rest),
      find?_filter_atBoundary coverage
        (fun taken : List (Option (List Char)) × List Char => taken.2)] at hfound
    rw [expressionParts, List.isEmpty_cons, if_neg Bool.false_ne_true, sequenceWays_textStart,
      sequenceWays_append, head?_andThen_endingParts, captureValues?, List.isEmpty_cons,
      Bool.false_and, if_neg Bool.false_ne_true, Option.map_map, Option.map_map]
    exact hfound

end RouteChain
