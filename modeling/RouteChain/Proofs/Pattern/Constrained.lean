import RouteChain.Proofs.Pattern.Expression
import RouteChain.Proofs.Regex.Standalone

/-!
# Constraints within the expression of a pattern

A constraint that is an expression on its own stands for the same in the expression of its pattern,
only that its groups are numbered from its place on. The parentheses that they need are escaped in
its text, so that it can neither set flags for what follows it nor be taken apart.

## Main definitions

* `Segment.IsExpression` — the constraint of a segment is an expression on its own.
* `Segment.StandsAlone` — it is, and captures nothing.

The main results are `legible_of_mem_patternSegments` and `exprOf_of_standsAlone`.
-/

namespace RouteChain

open Regex

namespace Segment

/-! ## Parentheses -/

theorem parensEscaped_of_eq_true {escaped : Bool} {text : List Char}
    (h : parensEscaped escaped text = true) : ParensEscaped text := by
  rintro pre c rest rfl
  induction pre generalizing escaped with
  | nil =>
    simp only [List.nil_append, parensEscaped, Bool.and_eq_true, Bool.or_eq_true, beq_iff_eq] at h
    simpa using h.2.1
  | cons d pre ih =>
    simp only [List.cons_append, parensEscaped, Bool.and_eq_true] at h
    exact ih h.2

/-- The parentheses in the constraint of a segment are escaped. -/
def Escaped : Segment → Prop
  | .capture _ _ (some body) _ => ParensEscaped body
  | _ => True

theorem escaped_withStem {segment : Segment} (c : Char) (h : segment.Escaped) :
    (segment.withStem c).Escaped := by
  cases segment with
  | capture stem name constraint modifier => cases constraint <;> exact h
  | wildcard | literal text => trivial

theorem parensEscaped_of_isConstraint {text : List Char} (h : isConstraint text = true) :
    ParensEscaped text :=
  parensEscaped_of_eq_true (Bool.and_eq_true_iff.mp h).2

theorem parensEscaped_of_constraint? {text body : List Char} {modifier : Modifier}
    (h : constraint? text = some (body, modifier)) : ParensEscaped body := by
  unfold constraint? at h
  split at h
  · split at h
    · rename_i hbody
      cases h
      exact parensEscaped_of_isConstraint hbody
    · cases h
  · split at h
    · rename_i hbody
      obtain ⟨_, -, heq⟩ := Option.map_eq_some_iff.mp h
      cases heq
      exact parensEscaped_of_isConstraint hbody
    · cases h
  · cases h

theorem escaped_of_named? {text : List Char} {segment : Segment} (h : named? text = some segment) :
    segment.Escaped := by
  unfold named? at h
  split at h
  · split at h
    · cases h
    · obtain ⟨⟨body, modifier⟩, hbody, rfl⟩ := Option.map_eq_some_iff.mp h
      exact parensEscaped_of_constraint? hbody
    · obtain ⟨modifier, -, rfl⟩ := Option.map_eq_some_iff.mp h
      trivial
  · cases h

theorem escaped_of_unnamed? {text : List Char} {segment : Segment}
    (h : unnamed? text = some segment) : segment.Escaped := by
  unfold unnamed? at h
  split at h
  · obtain ⟨⟨body, modifier⟩, hbody, rfl⟩ := Option.map_eq_some_iff.mp h
    exact parensEscaped_of_constraint? hbody
  · cases h

theorem escaped_of_afterStem {read : List Char → Option Segment} {text : List Char}
    {segment : Segment} (hread : ∀ {text segment}, read text = some segment → segment.Escaped)
    (h : afterStem read text = some segment) : segment.Escaped := by
  induction text generalizing segment with
  | nil => exact hread h
  | cons c text ih =>
    rw [afterStem, Option.or_eq_some_iff] at h
    rcases h with h | ⟨-, h⟩
    · split at h
      · cases h
      · obtain ⟨behind, hbehind, rfl⟩ := Option.map_eq_some_iff.mp h
        exact escaped_withStem c (ih hbehind)
    · exact hread h

/-- Whatever the text of a segment, the parentheses in its constraint are escaped. -/
theorem escaped_classify (text : List Char) : (classify text).Escaped := by
  unfold classify
  split
  · trivial
  · cases hnamed : afterStem named? text with
    | some segment => exact escaped_of_afterStem escaped_of_named? hnamed
    | none =>
      cases hunnamed : afterStem unnamed? text with
      | some segment => exact escaped_of_afterStem escaped_of_unnamed? hunnamed
      | none => trivial

/-! ## Standalone constraints -/

/-- The constraint of a segment, if it has one, is an expression on its own. -/
def IsExpression (ignoreCase : Bool) : Segment → Prop
  | .capture _ _ (some body) _ => ∃ x, exprOf ignoreCase body = .ok x
  | _ => True

/-- The constraint of a segment, if it has one, is an expression on its own and captures nothing. -/
def StandsAlone (ignoreCase : Bool) : Segment → Prop
  | .capture _ _ (some body) _ => Standalone ignoreCase body
  | _ => True

variable {ignoreCase : Bool} {segment : Segment}

theorem isExpression_of_standsAlone (h : segment.StandsAlone ignoreCase) :
    segment.IsExpression ignoreCase := by
  unfold StandsAlone at h
  split at h
  · exact Standalone.exists_exprOf h
  · rename_i hconstraint
    unfold IsExpression
    split
    · exact absurd rfl (hconstraint _ _ _ _)
    · trivial

theorem innerCount_of_standsAlone (h : segment.StandsAlone ignoreCase) :
    segment.innerCount = 0 := by
  cases segment with
  | wildcard | literal text => rfl
  | capture stem name constraint modifier =>
    cases constraint with
    | none => rfl
    | some body =>
      obtain ⟨x, hx⟩ := Standalone.exists_exprOf h
      obtain ⟨tokens, tree, options, after, written, -⟩ := exists_written hx
      rw [innerCount, constraintCount, tokensOf, written.tokens_eq]
      exact Standalone.captureCount_eq h written.tokens_eq

theorem legible_of_isExpression (hescaped : segment.Escaped)
    (h : segment.IsExpression ignoreCase) : segment.Legible ignoreCase (Ast.maxDepth + 1) := by
  cases segment with
  | wildcard | literal text => trivial
  | capture stem name constraint modifier =>
    intro index
    cases constraint with
    | none => exact (denotes_run ignoreCase index).mono _ (by decide)
    | some body =>
      obtain ⟨x, hx⟩ := h
      have hpiece : pieceExpr ignoreCase (some body) = x := by rw [pieceExpr, hx]; rfl
      rw [hpiece]
      exact (denotes_enclosed hx hescaped index).mono _ (Nat.le_refl _)

end Segment

theorem legible_of_mem_patternSegments {ignoreCase : Bool} {pattern : String} {segment : Segment}
    (mem : segment ∈ patternSegments pattern) (h : segment.IsExpression ignoreCase) :
    segment.Legible ignoreCase (Ast.maxDepth + 1) := by
  obtain ⟨text, -, rfl⟩ := List.mem_map.mp mem
  exact Segment.legible_of_isExpression (Segment.escaped_classify text) h

/-- The expression of a pattern whose constraints are expressions on their own and capture nothing,
unless they nest too deeply within it. -/
theorem exprOf_of_standsAlone {ignoreCase : Bool} {pattern : String} (coverage : Coverage)
    (h : ∀ segment ∈ patternSegments pattern, segment.StandsAlone ignoreCase) :
    exprOf ignoreCase (expressionText (patternSegments pattern) coverage) = .ok (.sequence
        (.assertion .textStart :: spelledParts ignoreCase (patternSegments pattern) coverage)) ∨
      exprOf ignoreCase (expressionText (patternSegments pattern) coverage) = .error .tooDeep := by
  have hlegible segment (mem : segment ∈ patternSegments pattern) :=
    legible_of_mem_patternSegments mem (Segment.isExpression_of_standsAlone (h segment mem))
  have hcount segment (mem : segment ∈ patternSegments pattern) :=
    Segment.innerCount_of_standsAlone (h segment mem)
  exact (exprOf_of_legible coverage hlegible hcount).imp_right And.right

theorem patternSegments_digits : patternSegments "/:id([0-9]+)" =
    [.capture [] (some ['i', 'd']) (some ['[', '0', '-', '9', ']', '+']) .one] := by
  decide

/-- Some digits are an expression on their own. -/
theorem standalone_digits : Standalone false ['[', '0', '-', '9', ']', '+'] where
  parses := ⟨_, rfl⟩
  noCapture tokens h name := by
    obtain rfl : [.atom (.bracketed false (.range '0' '9')), .repetition ⟨1, none, true⟩] =
        tokens := Except.ok.inj h
    simp

theorem standsAlone_digits : ∀ segment ∈ patternSegments "/:id([0-9]+)",
    segment.StandsAlone false := by
  rw [patternSegments_digits]
  intro segment mem
  rw [List.mem_singleton.mp mem]
  exact standalone_digits

end RouteChain
