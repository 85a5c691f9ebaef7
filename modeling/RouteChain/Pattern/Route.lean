import RouteChain.Dispatch.Event
import RouteChain.Pattern.Compiled

/-!
# Route patterns

A route pattern as it is registered: its text with its compiled form. A pattern that fails to
compile may be kept, and then matches nothing.

## Main definitions

* `Matcher`, `RoutePattern` — what a pattern matches with, and the pattern.
* `RoutePattern.strict`, `RoutePattern.lenient` — registering a pattern, with failure as an error or
  as a pattern that matches nothing.
* `RoutePattern.fit` — matching a path.
-/

namespace RouteChain

/-- How a path fits a pattern: it misses, it hits a pattern without a text, or it hits one with a
text and binds its parameters. -/
inductive Fit where
  | misses
  | hits
  | binds (params : Params)
  deriving Repr, DecidableEq

/-- What a pattern matches with: everything, its compiled form, or nothing. -/
inductive Matcher where
  | any
  | compiled (pattern : CompiledPattern)
  | disabled
  deriving DecidableEq

/-- A route pattern: its text, if it has one, its coverage, and what it matches with. -/
structure RoutePattern where
  source : Option String
  coverage : Coverage
  matcher : Matcher
  deriving DecidableEq

namespace RoutePattern

/-! ## Registering -/

/-- The pattern without a text, which matches every path. -/
def any : RoutePattern :=
  ⟨none, .leading, .any⟩

/-- The pattern with the given text, unless it fails to compile. -/
def strict (compiler : PatternCompiler) (source : Option String) (coverage : Coverage) :
    Except PatternError RoutePattern :=
  match source with
  | none => .ok any
  | some text =>
    (compiler.compile text coverage).map (fun pattern => ⟨source, coverage, .compiled pattern⟩)

/-- The pattern with the given text. If it fails to compile it is kept, but matches nothing, and a
warning tells why. -/
def lenient (compiler : PatternCompiler) (source : Option String) (coverage : Coverage) :
    RoutePattern × List Event :=
  match strict compiler source coverage with
  | .ok pattern => (pattern, [])
  | .error e => (⟨source, coverage, .disabled⟩, [.patternDisabled e])

/-! ## Using -/

def isValid (pattern : RoutePattern) : Bool :=
  pattern.matcher != .disabled

def compiled? (pattern : RoutePattern) : Option CompiledPattern :=
  match pattern.matcher with
  | .compiled c => some c
  | _ => none

def parameterNames (pattern : RoutePattern) : List String :=
  (pattern.compiled?.map CompiledPattern.names).getD []

def fit (pattern : RoutePattern) (path : String) : Fit :=
  match pattern.matcher with
  | .any => .hits
  | .disabled => .misses
  | .compiled c =>
    match c.captures? path with
    | some params => .binds params
    | none => .misses

/-! ## As text -/

def describeCoverage : Coverage → String
  | .whole => "Exact"
  | .leading => "Prefix"

def describeMatcher : Matcher → String
  | .any => "Any"
  | .compiled c => "Compiled(" ++ c.describe ++ ")"
  | .disabled => "Invalid"

def describe (pattern : RoutePattern) : String :=
  "RoutePattern \x7b source: " ++ Text.quoteOption pattern.source ++
    ", mode: " ++ describeCoverage pattern.coverage ++
    ", matcher: " ++ describeMatcher pattern.matcher ++ " \x7d"

end RoutePattern

end RouteChain
