import RouteChain.Regex.Error
import RouteChain.Regex.Expr

/-!
# Matching code

An expression written out for matching: repetitions with bounds become copies, and every place where
a match may branch or take a character has a label of its own. Labels let a search see that it is at
a place where it was before.

## Main definitions

* `Code` — written-out expressions.
* `Code.ofExpr` — the code of an expression.
* `Expr.weight` — how much room the code takes, known before it is written out.
-/

namespace RouteChain.Regex

/-- Written-out expressions. `plus` repeats once or more; `star` repeats any number of times a body
that always takes a character. -/
inductive Code where
  | empty
  | letter (label : Nat) (set : CharSet)
  | assertion (assertion : Assertion)
  | cat (x y : Code)
  | alt (label : Nat) (x y : Code)
  | opt (label : Nat) (greedy : Bool) (x : Code)
  | plus (label : Nat) (greedy : Bool) (x : Code)
  | star (label : Nat) (greedy : Bool) (x : Code)
  | group (index : Nat) (x : Code)
  deriving Repr, DecidableEq

namespace Code

/-! ## Writing out -/

/-- Code that still has to be told the first label it may use, and tells the first one it leaves. -/
abbrev Builder := Nat → Code × Nat

def Builder.andThen (x y : Builder) : Builder := fun label =>
  let (x, label) := x label
  let (y, label) := y label
  (.cat x y, label)

def Builder.labelled (wrap : Nat → Code → Code) (x : Builder) : Builder := fun label =>
  let (x, next) := x (label + 1)
  (wrap label x, next)

def Builder.nothing : Builder := fun label => (.empty, label)

/-- A number of copies. Halving keeps the copies from nesting deeply. -/
def Builder.copies (x : Builder) : (halvings : Nat) → (count : Nat) → Builder
  | _, 0 => nothing
  | _, 1 => x
  | 0, _ + 2 => nothing
  | halvings + 1, count =>
    (x.copies halvings (count / 2)).andThen (x.copies halvings (count - count / 2))

/-- Up to a number of copies, each of them optional once those before it are there. -/
def Builder.optional (greedy : Bool) (x : Builder) : (count : Nat) → Builder
  | 0 => nothing
  | 1 => x.labelled (fun label => .opt label greedy)
  | count + 1 => (x.andThen (x.optional greedy count)).labelled (fun label => .opt label greedy)

/-- Any number of copies. If a copy may be empty, none at all is an option apart from repeating. -/
def Builder.many (consumes greedy : Bool) (x : Builder) : Builder :=
  if consumes then x.labelled (fun label => .star label greedy)
  else
    (x.labelled (fun label => .plus label greedy)).labelled (fun label => .opt label greedy)

def Builder.repeated (consumes : Bool) (min : Nat) (max : Option Nat) (greedy : Bool)
    (x : Builder) : Builder :=
  match min, max with
  | 0, none => x.many consumes greedy
  | 1, none => x.labelled (fun label => .plus label greedy)
  | min + 1, none =>
    (x.copies min.log2.succ min).andThen (x.labelled (fun label => .plus label greedy))
  | 0, some max => x.optional greedy max
  | min, some max =>
    if max ≤ min then x.copies min.log2.succ min
    else (x.copies min.log2.succ min).andThen (x.optional greedy (max - min))

def build : Expr → Builder
  | .empty => .nothing
  | .letter set => fun label => (.letter label set, label + 1)
  | .assertion a => fun label => (.assertion a, label)
  | .cat x y => (build x).andThen (build y)
  | .alt x y => fun label =>
    let (x, next) := build x (label + 1)
    let (y, next) := build y next
    (.alt label x y, next)
  | .repetition min max greedy x => (build x).repeated x.consumes min max greedy
  | .group index x => fun label =>
    let (x, next) := build x label
    (.group index x, next)

/-- The code of an expression, with labels from zero. -/
def ofExpr (x : Expr) : Code :=
  (build x 0).1

end Code

/-! ## Size

An engine refuses expressions whose code would take too much memory. The bound here is there for the
same purpose, but it counts the places of the code and not its bytes: a set of characters takes one
place, whatever it holds and with or without regard to case. So the two do not draw the line at the
same expression. Some tens of thousands of large sets pass here that an engine with a limit of ten
megabytes refuses, and to disregard case costs room there and none here. What is proved of
expressions near the bound holds of this bound. -/

/-- How much room the code of an expression takes. -/
def Expr.weight : Expr → Nat
  | .empty | .letter _ | .assertion _ => 1
  | .cat x y => x.weight + y.weight
  | .alt x y => x.weight + y.weight + 2
  | .repetition min max _ x => (Nat.max 1 (max.getD (min + 1))) * (x.weight + 1) + 1
  | .group _ x => x.weight + 2

/-- The most room that code may take. It stands for the limit of an engine, without being the same. -/
def Expr.maxWeight : Nat := 300000

end RouteChain.Regex
