import RouteChain.Regex.CharSet

/-!
# Regular expressions

A regular expression whose flags are resolved: what it matches depends on nothing but itself. The
constructors that build expressions keep them in a normal form: sequences are flat, single
characters merge into one set where they are options of a choice, and what all options of a choice
start with stands before the choice.

## Main definitions

* `Assertion` — the conditions on a place between two characters.
* `Expr` — regular expressions.
* `Expr.append`, `Expr.choice`, `Expr.repeated` — sequence, choice and repetition in normal form.
* `Expr.groupCount` — the number of capturing groups.
-/

namespace RouteChain.Regex

inductive Assertion where
  | textStart
  | textEnd
  | lineStart
  | lineEnd
  | lineStartCarriageReturn
  | lineEndCarriageReturn
  | wordBoundary (ascii : Bool)
  | noWordBoundary (ascii : Bool)
  | wordStart (ascii : Bool)
  | wordEnd (ascii : Bool)
  | wordStartHalf (ascii : Bool)
  | wordEndHalf (ascii : Bool)
  deriving Repr, DecidableEq

/-- Regular expressions. A repetition matches its body at least `min` times and at most `max` times,
if that is given. -/
inductive Expr where
  | empty
  | letter (set : CharSet)
  | assertion (assertion : Assertion)
  | cat (x y : Expr)
  | alt (x y : Expr)
  | repetition (min : Nat) (max : Option Nat) (greedy : Bool) (x : Expr)
  | group (index : Nat) (x : Expr)
  deriving Repr, DecidableEq

namespace Expr

/-! ## Sequences -/

/-- The parts of a sequence. An expression that is no sequence is its own only part, and the empty
expression has none. -/
def parts : Expr → List Expr
  | .empty => []
  | .cat x y => x.parts ++ y.parts
  | x => [x]

/-- The sequence of the given parts, none of which is empty or a sequence. -/
def ofParts : List Expr → Expr
  | [] => .empty
  | [x] => x
  | x :: xs => .cat x (ofParts xs)

def append : Expr → Expr → Expr
  | .empty, y => y
  | .cat x x', y => .cat x (x'.append y)
  | x, .empty => x
  | x, y => .cat x y

/-! ## Choices -/

def never : Expr := .letter .empty

/-- The options of a choice. An expression that is no choice is its own only option. -/
def options : Expr → List Expr
  | .alt x y => x.options ++ y.options
  | x => [x]

/-- The choice between the given options, the first of which is preferred. -/
def ofOptions : List Expr → Expr
  | [] => never
  | [x] => x
  | x :: xs => .alt x (ofOptions xs)

/-- The set, if the expression matches exactly the single characters of a set. -/
def set? : Expr → Option CharSet
  | .letter set => some set
  | _ => none

/-- Does the expression match exactly one character that is written as itself? -/
def isLiteral : Expr → Bool
  | .letter set => set.char?.isSome
  | _ => false

/-- The parts of a sequence with neighbouring literals put together. -/
def chunks : List Expr → List (List Expr)
  | [] => []
  | x :: xs =>
    match chunks xs with
    | (y :: ys) :: rest =>
      if x.isLiteral && y.isLiteral then (x :: y :: ys) :: rest else [x] :: (y :: ys) :: rest
    | rest => [x] :: rest

def commonStart : List (List Expr) → List (List Expr) → List (List Expr)
  | x :: xs, y :: ys => if x = y then x :: commonStart xs ys else []
  | _, _ => []

/-- What all options start with, if each of them has several chunks. -/
def sharedStart (options : List (List (List Expr))) : List (List Expr) :=
  match options with
  | [] => []
  | first :: others =>
    if options.all (fun chunks => 1 < chunks.length) then others.foldl commonStart first else []

/-- The choice between options in normal form. Taking out what they share makes the options shorter,
so the length of the first bounds the number of rounds. -/
def choiceFrom : (rounds : Nat) → List Expr → Expr
  | 0, xs => ofOptions xs
  | rounds + 1, xs =>
    match xs with
    | [x] => x
    | xs =>
      match xs.mapM set? with
      | some (set :: sets) => .letter (sets.foldl .union set)
      | _ =>
        let split := xs.map (fun x => chunks x.parts)
        let shared := sharedStart split
        if shared.isEmpty then ofOptions xs
        else
          let remainders := split.map (fun option => ofParts (option.drop shared.length).flatten)
          (ofParts shared.flatten).append
            (choiceFrom rounds (remainders.flatMap Expr.options))

/-- The choice between several expressions. One expression leaves no choice. -/
def choice : List Expr → Expr
  | [x] => x
  | xs =>
    let all := xs.flatMap options
    choiceFrom ((all.head?.map (fun x => x.parts.length)).getD 0 + 1) all

/-! ## Repetitions -/

/-- Does the expression match nothing but the empty text? -/
def onlyEmpty : Expr → Bool
  | .empty | .assertion _ => true
  | .letter _ => false
  | .cat x y | .alt x y => x.onlyEmpty && y.onlyEmpty
  | .repetition _ _ _ x | .group _ x => x.onlyEmpty

/-- Does every match take at least one character? -/
def consumes : Expr → Bool
  | .empty | .assertion _ => false
  | .letter _ => true
  | .cat x y => x.consumes || y.consumes
  | .alt x y => x.consumes && y.consumes
  | .repetition min _ _ x => 0 < min && x.consumes
  | .group _ x => x.consumes

/-- The repetition of an expression. What matches only the empty text is matched once at most, and
what is never or exactly once repeated is no repetition. -/
def repeated (min : Nat) (max : Option Nat) (greedy : Bool) (x : Expr) : Expr :=
  let (min, max) := if x.onlyEmpty then (Nat.min min 1, some ((max.getD 1).min 1)) else (min, max)
  if max = some 0 then .empty
  else if min = 1 ∧ max = some 1 then x
  else .repetition min max greedy x

/-! ## Groups -/

/-- The highest index of a capturing group; groups are numbered from one. -/
def groupCount : Expr → Nat
  | .empty | .letter _ | .assertion _ => 0
  | .cat x y | .alt x y => max x.groupCount y.groupCount
  | .repetition _ _ _ x => x.groupCount
  | .group index x => max index x.groupCount

end Expr

end RouteChain.Regex
