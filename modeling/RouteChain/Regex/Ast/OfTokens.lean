import RouteChain.Regex.Ast
import RouteChain.Regex.Error

/-!
# Building syntax trees

The reader keeps, for the innermost open group and for each group around it, the options that are
complete and the parts of the option being read.

## Main definitions

* `Ast.Level` — what has been read of one group.
* `Ast.ofTokens` — the tree that tokens write.
-/

namespace RouteChain.Regex.Ast

/-- What has been read of a group: its complete options and the parts of the one being read, the
latest first. -/
structure Level where
  options : List Ast := []
  parts : List Ast := []

namespace Level

def push (level : Level) (part : Ast) : Level :=
  { level with parts := part :: level.parts }

def nextOption (level : Level) : Level :=
  { options := ofSequence level.parts.reverse :: level.options, parts := [] }

def tree (level : Level) : Ast :=
  ofChoice level.nextOption.options.reverse

/-- The level with its last part repeated. Flags cannot be repeated. -/
def repeated (level : Level) (bounds : Bounds) : Except Error Level :=
  match level.parts with
  | [] | .setFlags _ :: _ => .error .nothingToRepeat
  | part :: parts => .ok { level with parts := .repetition bounds part :: parts }

end Level

/-- The kind of the group that a head opens, where `captures` groups have captured before it, and
the number of capturing groups from there on. -/
def kindOfHead (captures : Nat) : GroupHead → GroupKind × Nat
  | .capturing _ => (.capture (captures + 1), captures + 1)
  | .flagged changes => (.flagged changes, captures)

/-- Reads tokens into the innermost level; `outer` are the open groups around it. -/
def build : (captures : Nat) → (outer : List (Level × GroupKind)) → Level → List Token →
    Except Error Ast
  | _, [], level, [] => .ok level.tree
  | _, _ :: _, _, [] => .error .groupUnclosed
  | captures, outer, level, .atom a :: tokens => build captures outer (level.push (.atom a)) tokens
  | captures, outer, level, .setFlags changes :: tokens =>
    build captures outer (level.push (.setFlags changes)) tokens
  | captures, outer, level, .bar :: tokens => build captures outer level.nextOption tokens
  | captures, outer, level, .repetition bounds :: tokens => do
    build captures outer (← level.repeated bounds) tokens
  | captures, outer, level, .openGroup head :: tokens =>
    let (kind, captures) := kindOfHead captures head
    build captures ((level, kind) :: outer) {} tokens
  | captures, (enclosing, kind) :: outer, level, .closeGroup :: tokens =>
    build captures outer (enclosing.push (.group kind level.tree)) tokens
  | _, [], _, .closeGroup :: _ => .error .groupUnopened

def groupNames (tokens : List Token) : List String :=
  tokens.filterMap (fun token =>
    match token with
    | .openGroup (.capturing name) => name
    | _ => none)

/-- The first text that occurs again later in the list. -/
def firstRepeated? : List String → Option String
  | [] => none
  | name :: names => if names.contains name then some name else firstRepeated? names

def ofTokens (tokens : List Token) : Except Error Ast := do
  if let some name := firstRepeated? (groupNames tokens) then
    throw (.groupNameRepeated name)
  let tree ← build 0 [] {} tokens
  if maxDepth < tree.depth then throw .tooDeep
  return tree

end RouteChain.Regex.Ast
