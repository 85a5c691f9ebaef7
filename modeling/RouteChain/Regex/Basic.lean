import RouteChain.Regex.Ast.OfTokens
import RouteChain.Regex.Expr.OfAst
import RouteChain.Regex.Search
import RouteChain.Regex.Token.OfText

/-!
# Compiled regular expressions

## Main definitions

* `Regex` — a regular expression that was accepted, with its code.
* `Regex.parse` — accepts or refuses a text.
* `Regex.isMatch`, `Regex.captures?` — searching a text for it.
* `Regex.escape` — the regular expression that matches exactly a given text.
-/

namespace RouteChain

open Regex in
/-- A regular expression that was accepted: its text, its meaning, and the code that searches for it
anywhere in a text. -/
structure Regex where
  text : String
  expr : Expr
  code : Code
  deriving DecidableEq

namespace Regex

/-! ## Accepting a text -/

/-- The expression that a text writes, with or without regard to case. -/
def exprOf (ignoreCase : Bool) (text : List Char) : Except Error Expr := do
  let tree ← Ast.ofTokens (← Token.ofText text)
  Expr.ofAst { ignoreCase } tree

/-- The expression, with any text before it: as little as will do. -/
def anywhere (x : Expr) : Expr :=
  .cat (.repetition 0 none false (.letter .all)) x

/-- Accepts the text of a regular expression, unless its code would take too much room. -/
def parse (ignoreCase : Bool) (text : String) : Except Error Regex := do
  let x ← exprOf ignoreCase text.toList
  if Expr.maxWeight < x.weight then throw .tooLarge
  return ⟨text, x, .ofExpr (anywhere x)⟩

def groupCount (r : Regex) : Nat :=
  r.expr.groupCount

/-! ## Searching -/

def isMatch (r : Regex) (text : String) : Bool :=
  (r.code.find? text.toList).isSome

/-- Where a group last began, or last ended, according to marks of which the latest is first. -/
def lastMark (marks : List Mark) (index : Nat) (isEnd : Bool) : Option Nat :=
  (marks.find? (fun mark => mark.index = index ∧ mark.isEnd = isEnd)).map Mark.position

/-- The text that a group took, if it took part in the match. -/
def groupText? (text : List Char) (marks : List Mark) (index : Nat) : Option String :=
  match lastMark marks index false, lastMark marks index true with
  | some first, some last => some (String.ofList ((text.drop first).take (last - first)))
  | _, _ => none

/-- The texts that the groups took, in the order of the groups. -/
def captures? (r : Regex) (text : String) : Option (List (Option String)) :=
  (r.code.find? text.toList).map (fun marks =>
    (List.range r.groupCount).map (fun i => groupText? text.toList marks (i + 1)))

/-! ## Escaping -/

/-- The regular expression that matches exactly the given text: a backslash before each operator. -/
def escape (text : List Char) : List Char :=
  text.flatMap (fun c => if isMeta c then ['\\', c] else [c])

end Regex

end RouteChain
