import RouteChain.Text.Split
import RouteChain.Unicode.Class

/-!
# Segments of route patterns

A route pattern is a text of segments between slashes. A segment is a wildcard, a literal, or a
capture, which is written `stem:name(constraint)modifier` with a name and an optional constraint, or
`stem(constraint)modifier` without a name. A segment that fits neither form is a literal.

## Main definitions

* `Modifier`, `Segment` — the parts of a pattern.
* `segmentTexts` — the texts between the slashes.
* `Segment.classify` — what the text of a segment means.
-/

namespace RouteChain

/-- How many slash-separated pieces a capture takes. -/
inductive Modifier where
  | one
  | optional
  | oneOrMore
  | zeroOrMore
  deriving Repr, DecidableEq

/-- The meaning of a segment. A capture has the literal text before it, a name unless it is
numbered, and the constraint on what it takes, if it is not the default one. -/
inductive Segment where
  | wildcard
  | literal (text : List Char)
  | capture (stem : List Char) (name : Option (List Char)) (constraint : Option (List Char))
      (modifier : Modifier)
  deriving Repr, DecidableEq

/-! ## Splitting -/

/-- The texts of the segments of a pattern: what stands between its slashes, unless it is empty. -/
def segmentTexts (pattern : List Char) : List (List Char) :=
  (Text.splitOn '/' pattern).filter (fun text => !text.isEmpty)

/-! ## Reading a segment -/

def Modifier.ofSign? : Char → Option Modifier
  | '?' => some .optional
  | '+' => some .oneOrMore
  | '*' => some .zeroOrMore
  | _ => none

/-- The modifier that a text writes; no text means one piece. -/
def Modifier.ofText? : List Char → Option Modifier
  | [] => some .one
  | [sign] => Modifier.ofSign? sign
  | _ => none

namespace Segment

/-- Does a backslash stand right before each parenthesis? `escaped` tells that one stands before the
text. -/
def parensEscaped : (escaped : Bool) → List Char → Bool
  | _, [] => true
  | escaped, c :: cs =>
    (escaped || (c != '(' && c != ')')) && parensEscaped (c == '\\') cs

/-- May the text stand between the parentheses of a constraint? -/
def isConstraint (text : List Char) : Bool :=
  !text.isEmpty && parensEscaped false text

/-- The constraint and the modifier that a text after an opening parenthesis writes. -/
def constraint? (text : List Char) : Option (List Char × Modifier) :=
  match text.reverse with
  | ')' :: body => if isConstraint body.reverse then some (body.reverse, .one) else none
  | sign :: ')' :: body =>
    if isConstraint body.reverse then
      (Modifier.ofSign? sign).map (fun modifier => (body.reverse, modifier))
    else none
  | _ => none

/-- The capture that a text writes with its name, if it starts with a colon. -/
def named? : List Char → Option Segment
  | ':' :: text =>
    match text.span Unicode.isWord with
    | ([], _) => none
    | (name, '(' :: text) =>
      (constraint? text).map (fun (body, modifier) => .capture [] (some name) (some body) modifier)
    | (name, text) =>
      (Modifier.ofText? text).map (fun modifier => .capture [] (some name) none modifier)
  | _ => none

/-- The capture that a text writes without a name, if it starts with a parenthesis. -/
def unnamed? : List Char → Option Segment
  | '(' :: text =>
    (constraint? text).map (fun (body, modifier) => .capture [] none (some body) modifier)
  | _ => none

def withStem (c : Char) : Segment → Segment
  | .capture stem name constraint modifier => .capture (c :: stem) name constraint modifier
  | segment => segment

/-- What `read` makes of the text after the longest stem for which it makes anything. A line feed
ends every stem. -/
def afterStem (read : List Char → Option Segment) : List Char → Option Segment
  | [] => read []
  | c :: cs =>
    (if c = '\n' then none else (afterStem read cs).map (withStem c)).or (read (c :: cs))

def classify (text : List Char) : Segment :=
  if text = ['*'] then .wildcard
  else ((afterStem named? text).or (afterStem unnamed? text)).getD (.literal text)

end Segment

end RouteChain
