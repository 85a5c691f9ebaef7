import RouteChain.Regex.Token

/-!
# Syntax trees of regular expressions

## Main definitions

* `Ast` — the tree of a regular expression as it is written.
* `Ast.depth` — how deep a tree nests.
-/

namespace RouteChain.Regex

inductive GroupKind where
  | capture (index : Nat)
  | flagged (changes : List FlagChange)
  deriving Repr, DecidableEq

/-- The tree of a regular expression as it is written. Sequences and choices of several parts nest
to the right. -/
inductive Ast where
  | empty
  | setFlags (changes : List FlagChange)
  | atom (atom : Atom)
  | repetition (bounds : Bounds) (body : Ast)
  | group (kind : GroupKind) (body : Ast)
  | sequence (first rest : Ast)
  | choice (first rest : Ast)
  deriving Repr, DecidableEq

namespace Ast

def ofSequence : List Ast → Ast
  | [] => .empty
  | [part] => part
  | part :: parts => .sequence part (ofSequence parts)

def ofChoice : List Ast → Ast
  | [] => .empty
  | [option] => option
  | option :: options => .choice option (ofChoice options)

/-! ## Nesting -/

/-- How deep a class nests. A union counts once, however many items it has; `inUnion` tells that it
was counted. -/
def classDepth : (inUnion : Bool) → ClassSet → Nat
  | _, .bracketed _ body => classDepth false body + 1
  | inUnion, .union item others =>
    max (classDepth false item) (classDepth true others) + (if inUnion then 0 else 1)
  | _, .operation _ left right => max (classDepth false left) (classDepth false right) + 1
  | _, .empty | _, .range _ _ | _, .ascii _ _ | _, .short _ _ | _, .query _ _ => 0

/-- The chain of sequences or of choices that a tree continues, if any. -/
inductive Spine where
  | none
  | sequence
  | choice
  deriving DecidableEq

/-- How deep a tree nests. A sequence or a choice counts once, however many parts it has; `spine`
tells which of them was counted. -/
def depthFrom : Spine → Ast → Nat
  | _, .empty | _, .setFlags _ => 0
  | _, .atom (.bracketed _ body) => classDepth false body + 1
  | _, .atom _ => 0
  | _, .repetition _ body => depthFrom .none body + 1
  | _, .group _ body => depthFrom .none body + 1
  | spine, .sequence first rest =>
    max (depthFrom .none first) (depthFrom .sequence rest) + (if spine = .sequence then 0 else 1)
  | spine, .choice first rest =>
    max (depthFrom .none first) (depthFrom .choice rest) + (if spine = .choice then 0 else 1)

def depth (tree : Ast) : Nat :=
  depthFrom .none tree

def maxDepth : Nat := 250

end Ast

end RouteChain.Regex
