import RouteChain.Params
import RouteChain.Pattern.Expression

/-!
# Compiled patterns

## Main definitions

* `PatternError` — why a pattern is refused.
* `PatternCompiler` — compiles patterns, with or without regard to case.
* `CompiledPattern` — the expression of a pattern with the names of its groups;
  `CompiledPattern.captures?` binds them to a path.
-/

namespace RouteChain

/-! ## Errors -/

/-- Why a pattern is refused: its expression is refused, or its constraints have groups of their
own, so that groups and names do not pair up. -/
inductive PatternError where
  | invalidExpression (pattern : String) (cause : Regex.Error)
  | groupCountMismatch (pattern : String) (expected found : Nat)
  deriving Repr, DecidableEq

namespace PatternError

def pattern : PatternError → String
  | .invalidExpression pattern _ => pattern
  | .groupCountMismatch pattern _ _ => pattern

/-- The error as text. What is wrong with an expression is left to its cause. -/
def message : PatternError → String
  | .invalidExpression pattern _ => "invalid route pattern " ++ Text.quote pattern ++ ": "
  | .groupCountMismatch pattern expected found =>
    "route pattern " ++ Text.quote pattern ++ " has " ++ toString found ++
      " capture groups but " ++ toString expected ++ " parameter names"

end PatternError

/-! ## Compiling -/

/-- The expression of a pattern with the names of its groups: `names[i]` is bound by group `i +
1`. -/
structure CompiledPattern where
  regex : Regex
  names : List String
  deriving DecidableEq

structure PatternCompiler where
  caseSensitive : Bool := true
  deriving Repr, DecidableEq

def PatternCompiler.compile (compiler : PatternCompiler) (pattern : String) (coverage : Coverage) :
    Except PatternError CompiledPattern :=
  let segments := (segmentTexts pattern.toList).map Segment.classify
  let names := captureNames segments
  let text := String.ofList (expressionText segments coverage)
  match Regex.parse (!compiler.caseSensitive) text with
  | .error cause => .error (.invalidExpression pattern cause)
  | .ok regex =>
    if regex.groupCount = names.length then .ok ⟨regex, names⟩
    else .error (.groupCountMismatch pattern names.length regex.groupCount)

def PatternCompiler.describe (compiler : PatternCompiler) : String :=
  "PatternCompiler \x7b case_sensitive: " ++ toString compiler.caseSensitive ++ " \x7d"

/-! ## Matching -/

namespace CompiledPattern

def isMatch (pattern : CompiledPattern) (path : String) : Bool :=
  pattern.regex.isMatch path

/-- The parameters that the path binds. A group that takes no part in the match binds nothing, and
of several groups with one name the last that takes part prevails. -/
def captures? (pattern : CompiledPattern) (path : String) : Option Params :=
  (pattern.regex.captures? path).map (fun groups => .ofGroups (pattern.names.zip groups))

def describe (pattern : CompiledPattern) : String :=
  "CompiledPattern \x7b regex: " ++ Text.quote pattern.regex.text ++ ", names: [" ++
    ", ".intercalate (pattern.names.map Text.quote) ++ "] \x7d"

end CompiledPattern

end RouteChain
