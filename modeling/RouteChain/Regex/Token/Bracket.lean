import RouteChain.Regex.Token.Escape

/-!
# Bracketed classes

The class that an opening bracket starts. Classes nest, operators between parts of a class bind
equally and to the left, and a missing operand is the empty set.

## Main definitions

* `Atom.ofBracket` — the class whose opening bracket stands before a text.
-/

namespace RouteChain.Regex

/-! ## Single items -/

def classAtom (verbose : Bool) : List Char → Except Error (Atom × List Char)
  | [] => .error .classUnclosed
  | '\\' :: rest => Atom.ofEscape verbose rest
  | c :: rest => .ok (.literal c false, rest)

/-- An atom as a class item. Assertions are none. -/
def ClassSet.ofAtom : Atom → Except Error ClassSet
  | .literal c _ => .ok (.range c c)
  | .short negated n => .ok (.short negated n)
  | .query negated q => .ok (.query negated q)
  | .dot | .anchor _ | .bracketed _ _ => .error .classItem

/-- The character after the blanks of verbose text and after the number sign of a comment, if there
is one: what decides whether a hyphen starts a range. -/
def peekPastBlank (verbose : Bool) (text : List Char) : Option Char :=
  if verbose then
    match (text.dropWhile Unicode.isSpace : List Char) with
    | '#' :: rest => ((rest.dropWhile Unicode.isSpace).head?).or text.head?
    | c :: _ => some c
    | [] => text.head?
  else text.head?

/-- Reads one item of a class, or a range of two. A hyphen before a closing bracket or before
another hyphen starts no range. -/
def classItem (verbose : Bool) (text : List Char) : Except Error (ClassSet × List Char) := do
  let (first, afterFirst) ← classAtom verbose text
  match skipBlank verbose afterFirst with
  | [] => .error .classUnclosed
  | '-' :: rest =>
    if peekPastBlank verbose rest = some ']' ∨ peekPastBlank verbose rest = some '-' then
      return (← ClassSet.ofAtom first, '-' :: rest)
    else
      match skipBlank verbose rest with
      | [] => .error .classUnclosed
      | text => do
        let (last, afterLast) ← classAtom verbose text
        match first, last with
        | .literal c _, .literal d _ =>
          if c ≤ d then return (.range c d, afterLast) else .error .classRange
        | _, _ => .error .classItem
  | rest => return (← ClassSet.ofAtom first, rest)

/-! ## Named ASCII classes -/

/-- Reads the name of an ASCII class whose opening bracket stands before the text. A text of any
other form is none. -/
def asciiClass? : List Char → Option (ClassSet × List Char)
  | ':' :: text =>
    let (negated, text) := match text with
      | '^' :: rest => (true, rest)
      | _ => (false, text)
    match text.span (· ≠ ':') with
    | (name, ':' :: ']' :: rest) =>
      (AsciiClass.ofName? (String.ofList name)).map (fun cls => (.ascii negated cls, rest))
    | _ => none
  | _ => none

/-! ## The body of a class -/

/-- What the text after an opening bracket begins with: negation, and the characters that are no
operators there, which are hyphens, or else one closing bracket. -/
def classStart (verbose : Bool) (text : List Char) :
    Except Error (Bool × List ClassSet × List Char) :=
  let (negated, text) := match skipBlank verbose text with
    | '^' :: rest => (true, skipBlank verbose rest)
    | text => (false, text)
  let (hyphens, text) := if verbose then collect true (· ≠ '-') text else text.span (· = '-')
  match hyphens, text with
  | _, [] => .error .classUnclosed
  | [], ']' :: rest => .ok (negated, [.range ']' ']'], rest)
  | _, text => .ok (negated, hyphens.map (fun _ => .range '-' '-'), text)

/-- The operator of two equal characters that the text starts with. -/
def setOperator? : List Char → Option (SetOperator × List Char)
  | '&' :: '&' :: rest => some (.intersection, rest)
  | '-' :: '-' :: rest => some (.difference, rest)
  | '~' :: '~' :: rest => some (.symmetricDifference, rest)
  | _ => none

/-- The parts read so far, joined with the operator that waits for its right side. -/
def joinPending (pending : Option (SetOperator × ClassSet)) (items : List ClassSet) : ClassSet :=
  let right := ClassSet.ofItems items.reverse
  match pending with
  | none => right
  | some (operator, left) => .operation operator left right

/-- Reads the parts of a class up to its closing bracket. `items` are the items since the last
operator, the latest first, and `pending` is that operator with all before it. Every round takes a
character, so as many rounds as there are characters are enough. -/
def classBody (verbose : Bool) : (rounds : Nat) → (pending : Option (SetOperator × ClassSet)) →
    (items : List ClassSet) → List Char → Except Error (ClassSet × List Char)
  | 0, _, _, _ => .error .classUnclosed
  | rounds + 1, pending, items, text =>
    match skipBlank verbose text with
    | [] => .error .classUnclosed
    | ']' :: rest => .ok (joinPending pending items, rest)
    | '[' :: rest =>
      match asciiClass? rest with
      | some (cls, rest) => classBody verbose rounds pending (cls :: items) rest
      | none => do
        let (negated, first, inner) ← classStart verbose rest
        let (body, rest) ← classBody verbose rounds none first.reverse inner
        classBody verbose rounds pending (.bracketed negated body :: items) rest
    | text =>
      match setOperator? text with
      | some (operator, rest) =>
        classBody verbose rounds (some (operator, joinPending pending items)) [] rest
      | none => do
        let (item, rest) ← classItem verbose text
        classBody verbose rounds pending (item :: items) rest

/-- Reads the class whose opening bracket stands before `text`. -/
def Atom.ofBracket (verbose : Bool) (text : List Char) : Except Error (Atom × List Char) := do
  let (negated, first, inner) ← classStart verbose text
  let (body, rest) ← classBody verbose text.length none first.reverse inner
  return (.bracketed negated body, rest)

end RouteChain.Regex
