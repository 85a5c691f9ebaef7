import RouteChain.Pattern.Segment
import RouteChain.Regex.Basic

/-!
# The expression of a route pattern

A route pattern is matched by a regular expression over the whole path. Each segment contributes a
fragment, and how much of the path is to be covered decides how the expression ends.

## Main definitions

* `Coverage` — how much of a path a pattern has to cover.
* `Segment.fragment` — the part of the expression that a segment contributes.
* `expressionText` — the expression of a pattern.
* `captureNames` — the names of its captures, in order.
-/

namespace RouteChain

/-- How much of a path a pattern has to cover: all of it but a slash at the end, or a leading run of
whole segments. -/
inductive Coverage where
  | whole
  | leading
  deriving Repr, DecidableEq

/-! ## Fragments -/

/-- What a capture takes when nothing constrains it: as few characters as will do, but no slash. -/
def defaultConstraint : List Char :=
  ['[', '^', '/', ']', '+', '?']

/-- The expression of one piece of a capture. A constraint is a group, since it may be a choice. -/
def pieceText : Option (List Char) → List Char
  | some body => ['(', '?', ':'] ++ body ++ [')']
  | none => defaultConstraint

/-- The expression of one or more pieces with slashes between them. -/
def piecesText (piece : List Char) : List Char :=
  piece ++ ['(', '?', ':', '/'] ++ piece ++ [')', '*']

/-- The fragment of a capture. If nothing stands before an optional capture, its slash is optional
with it. -/
def captureFragment (stem piece : List Char) : Modifier → List Char
  | .one => ['/'] ++ stem ++ ['(', '?', ':', '('] ++ piece ++ [')', ')']
  | .oneOrMore => ['/'] ++ stem ++ ['('] ++ piecesText piece ++ [')']
  | .optional =>
    if stem.isEmpty then ['(', '?', ':', '/', '('] ++ piece ++ [')', ')', '?']
    else ['/'] ++ stem ++ ['(', '?', ':', '('] ++ piece ++ [')', ')', '?']
  | .zeroOrMore =>
    if stem.isEmpty then ['(', '?', ':', '/', '('] ++ piecesText piece ++ [')', ')', '?']
    else ['/'] ++ stem ++ ['(', '?', ':', '('] ++ piecesText piece ++ [')', ')', '?']

def Segment.fragment : Segment → List Char
  | .wildcard => ['/', '.', '*']
  | .literal text => '/' :: Regex.escape text
  | .capture stem _ constraint modifier =>
    captureFragment (Regex.escape stem) (pieceText constraint) modifier

/-! ## The whole expression -/

/-- How the expression of a pattern with segments ends. -/
def Coverage.ending : Coverage → List Char
  | .whole => ['/', '?', '$']
  | .leading => ['(', '?', ':', '/', '.', '*', ')', '?', '$']

/-- The rest of the expression of a pattern without segments. -/
def Coverage.root : Coverage → List Char
  | .whole => ['/', '$']
  | .leading => ['/', '.', '*', '$']

def expressionText (segments : List Segment) (coverage : Coverage) : List Char :=
  if segments.isEmpty then '^' :: coverage.root
  else '^' :: segments.flatMap Segment.fragment ++ coverage.ending

/-! ## Names -/

/-- The names of the captures, where `unnamed` captures without a name come before them. Those
without a name are numbered from zero. -/
def captureNamesFrom : (unnamed : Nat) → List Segment → List String
  | _, [] => []
  | unnamed, .capture _ (some name) _ _ :: segments =>
    String.ofList name :: captureNamesFrom unnamed segments
  | unnamed, .capture _ none _ _ :: segments =>
    toString unnamed :: captureNamesFrom (unnamed + 1) segments
  | unnamed, _ :: segments => captureNamesFrom unnamed segments

def captureNames (segments : List Segment) : List String :=
  captureNamesFrom 0 segments

end RouteChain
