import RouteChain.Params
import RouteChain.Pattern.Expression

/-!
# Matching a path without an expression

What the segments of a pattern take from a path, segment by segment, and what their captures bind.
This is what the expression of a pattern is to find as long as no capture has a constraint.

Where there is a choice, all possibilities are listed in the order of preference: what takes more
comes before what takes less, and the choice of a segment weighs more than those of the segments
after it.

## Main definitions

* `takeRun`, `takeRuns`, `takeLine` — what captures and wildcards take.
* `Segment.takes` — what a segment takes from the start of a path, and what it binds.
* `Coverage.covers` — what may be left of a path in the end.
* `patternSegments` — the segments of a pattern.
* `takeSegments`, `bindings?` — what the segments of a pattern take, and what the pattern binds.
-/

namespace RouteChain

/-! ## Parts of segments -/

/-- What is left of a text that starts with the given one. -/
def takeText (start text : List Char) : List (List Char) :=
  if start.isPrefixOf text then [text.drop start.length] else []

/-- One run of characters up to the next slash or the end, and what is left. An empty run does not
count. -/
def takeRun (text : List Char) : List (List Char × List Char) :=
  let run := text.takeWhile (· != '/')
  if run.isEmpty then [] else [(run, text.dropWhile (· != '/'))]

/-- One or more such runs with slashes between them, as many as possible first. -/
def takeRuns (text : List Char) : List (List Char × List Char) :=
  let run := text.takeWhile (· != '/')
  let left := text.dropWhile (· != '/')
  if run.isEmpty then []
  else if left.isEmpty then [(run, left)]
  else (takeRuns left.tail).map (fun (runs, left) => (run ++ '/' :: runs, left)) ++ [(run, left)]
  termination_by text.length
  decreasing_by
    rename_i more
    have hle : left.length ≤ text.length := (List.dropWhile_suffix _).length_le
    have hpos : 0 < left.length := List.length_pos_iff.mpr (mt List.isEmpty_iff.mpr more)
    change left.tail.length < text.length
    rw [List.length_tail]
    omega

/-- Some of the text up to the next line feed, as much as possible first, and what is left. -/
def takeLine : List Char → List (List Char × List Char)
  | [] => [([], [])]
  | c :: cs =>
    if c = '\n' then [([], c :: cs)]
    else (takeLine cs).map (fun (taken, left) => (c :: taken, left)) ++ [([], c :: cs)]

/-! ## Segments -/

namespace Modifier

/-- What a capture takes for its value. -/
def takes : Modifier → List Char → List (List Char × List Char)
  | .one, text | .optional, text => takeRun text
  | .oneOrMore, text | .zeroOrMore, text => takeRuns text

def isOptional : Modifier → Bool
  | .one | .oneOrMore => false
  | .optional | .zeroOrMore => true

end Modifier

namespace Segment

/-- What a segment takes from the start of a text: the value of its capture, if it is one, which may
be absent, and what is left of the text. An absent capture leaves its stem behind, and nothing at
all if it has none. -/
def takes : Segment → List Char → List (List (Option (List Char)) × List Char)
  | .wildcard, text =>
    (takeText ['/'] text).flatMap (fun rest =>
      (takeLine rest).map (fun (_, left) => ([], left)))
  | .literal body, text =>
    (takeText ('/' :: body) text).map (fun left => ([], left))
  | .capture stem _ _ modifier, text =>
    let present := (takeText ('/' :: stem) text).flatMap (fun rest =>
      (modifier.takes rest).map (fun (value, left) => ([some value], left)))
    let absent := (if stem.isEmpty then [text] else takeText ('/' :: stem) text).map
      (fun left => ([none], left))
    if modifier.isOptional then present ++ absent else present

def isPlain : Segment → Bool
  | .capture _ _ (some _) _ => false
  | _ => true

end Segment

/-! ## Patterns -/

def patternSegments (pattern : String) : List Segment :=
  (segmentTexts pattern.toList).map Segment.classify

/-- May this be left of a path in the end? A slash may always be left, and what follows it in the
same line if the pattern has to cover only the start of the path. -/
def Coverage.covers : Coverage → List Char → Bool
  | _, [] => true
  | .whole, rest => rest = ['/']
  | .leading, c :: rest => c = '/' && rest.all (· ≠ '\n')

/-- What some segments take from the start of a text, one after another. -/
def takeSegments : List Segment → List Char → List (List (Option (List Char)) × List Char)
  | [], text => [([], text)]
  | segment :: segments, text =>
    (segment.takes text).flatMap (fun (values, rest) =>
      (takeSegments segments rest).map (fun (others, left) => (values ++ others, left)))

/-- The values that the captures of a pattern bind on a path, in order, if the path matches. A
pattern without segments does not match the empty path. -/
def captureValues? (segments : List Segment) (coverage : Coverage) (path : List Char) :
    Option (List (Option (List Char))) :=
  if segments.isEmpty && path.isEmpty then none
  else ((takeSegments segments path).find? (fun taken => coverage.covers taken.2)).map Prod.fst

/-- The parameters that a pattern binds on a path, if the path matches. -/
def bindings? (segments : List Segment) (coverage : Coverage) (path : String) : Option Params :=
  (captureValues? segments coverage path.toList).map (fun values =>
    .ofGroups ((captureNames segments).zip (values.map (·.map String.ofList))))

end RouteChain
