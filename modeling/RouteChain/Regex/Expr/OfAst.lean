import RouteChain.Regex.Ast
import RouteChain.Regex.Error
import RouteChain.Regex.Expr

/-!
# Resolving flags

Flags decide which set a character or class stands for, where lines begin and end, and which
repetitions are greedy. They hold until the group that sets them closes, across the options of a
choice too.

Without the flag `unicode` a set is bound to ASCII, and what cannot be bound to it is refused.

## Main definitions

* `ClassSet.toCharSet` — the set that stands between brackets.
* `Expr.ofAtom`, `Expr.ofAst` — the expressions that an atom and a tree write under given flags.
-/

namespace RouteChain.Regex

/-! ## Sets -/

/-- Fails unless the flags allow sets beyond ASCII. -/
def Flags.requireUnicode (flags : Flags) : Except Error Unit :=
  if flags.unicode then .ok () else .error .beyondAscii

/-- The set of one character, in all cases if the flags ignore case. -/
def Flags.charSet (flags : Flags) (c : Char) : CharSet :=
  if flags.ignoreCase then
    if flags.unicode then .foldedChar c else .asciiFoldedChar c
  else .char c

def Flags.fold (flags : Flags) (set : CharSet) : CharSet :=
  if flags.ignoreCase then
    match set.char? with
    | some c => flags.charSet c
    | none => if flags.unicode then .folded set else .asciiFolded set
  else set

def Flags.negate (flags : Flags) (negated : Bool) (set : CharSet) : Except Error CharSet :=
  if negated then do
    flags.requireUnicode
    return .compl set
  else .ok set

def ShortClass.set (unicode : Bool) : ShortClass → CharSet
  | .digit => .named (if unicode then .digit else .asciiDigit)
  | .space => .named (if unicode then .space else .asciiSpace)
  | .word => .named (if unicode then .word else .asciiWord)

def SetOperator.apply : SetOperator → CharSet → CharSet → CharSet
  | .intersection => .inter
  | .difference => .diff
  | .symmetricDifference => .symmDiff

def isAscii (c : Char) : Bool :=
  c.toNat < 128

def ClassSet.toCharSet (flags : Flags) : ClassSet → Except Error CharSet
  | .empty => .ok .empty
  | .range first last => do
    unless isAscii last do flags.requireUnicode
    return .range first last
  | .ascii negated name => flags.negate negated name.set
  | .short negated name => flags.negate negated (name.set flags.unicode)
  | .query negated q => do
    flags.requireUnicode
    flags.negate negated (flags.fold (.query q))
  | .bracketed negated body => do
    flags.negate negated (flags.fold (← body.toCharSet flags))
  | .union item others => do
    return .union (← item.toCharSet flags) (← others.toCharSet flags)
  | .operation operator left right => do
    let left ← left.toCharSet flags
    let right ← right.toCharSet flags
    return operator.apply (flags.fold left) (flags.fold right)

namespace Expr

/-! ## Atoms -/

def dotSet (flags : Flags) : CharSet :=
  if flags.dotMatchesNewline then .all
  else if flags.carriageReturn then .dotCarriageReturn
  else .dot

def assertionOf (flags : Flags) : Anchor → Assertion
  | .caret =>
    if flags.multiLine then (if flags.carriageReturn then .lineStartCarriageReturn else .lineStart)
    else .textStart
  | .dollar =>
    if flags.multiLine then (if flags.carriageReturn then .lineEndCarriageReturn else .lineEnd)
    else .textEnd
  | .textStart => .textStart
  | .textEnd => .textEnd
  | .wordBoundary => .wordBoundary !flags.unicode
  | .noWordBoundary => .noWordBoundary !flags.unicode
  | .wordStart => .wordStart !flags.unicode
  | .wordEnd => .wordEnd !flags.unicode
  | .wordStartHalf => .wordStartHalf !flags.unicode
  | .wordEndHalf => .wordEndHalf !flags.unicode

def ofAtom (flags : Flags) : Atom → Except Error Expr
  | .literal c byte => do
    if byte ∧ ¬ isAscii c then flags.requireUnicode
    return .letter (flags.charSet c)
  | .dot => do
    flags.requireUnicode
    return .letter (dotSet flags)
  | .anchor place => .ok (.assertion (assertionOf flags place))
  | .short negated name => do
    return .letter (← flags.negate negated (name.set flags.unicode))
  | .query negated q => do
    return .letter (← (ClassSet.query negated q).toCharSet flags)
  | .bracketed negated body => do
    return .letter (← (ClassSet.bracketed negated body).toCharSet flags)

/-! ## Trees -/

/-- The options that a tree writes and the flags in force after it. -/
def optionsOfAst : Flags → Ast → Except Error (List Expr × Flags)
  | flags, .empty => .ok ([.empty], flags)
  | flags, .setFlags changes => .ok ([.empty], flags.apply changes)
  | flags, .atom a => do return ([← ofAtom flags a], flags)
  | flags, .repetition bounds body => do
    let (options, after) ← optionsOfAst flags body
    let greedy := bounds.greedy != flags.swapGreed
    return ([repeated bounds.min bounds.max greedy (choice options)], after)
  | flags, .group (.capture index) body => do
    let (options, _) ← optionsOfAst flags body
    return ([.group index (choice options)], flags)
  | flags, .group (.flagged changes) body => do
    let (options, _) ← optionsOfAst (flags.apply changes) body
    return ([choice options], flags)
  | flags, .sequence first rest => do
    let (options, flags) ← optionsOfAst flags first
    let (others, flags) ← optionsOfAst flags rest
    return ([(choice options).append (choice others)], flags)
  | flags, .choice first rest => do
    let (options, flags) ← optionsOfAst flags first
    let (others, flags) ← optionsOfAst flags rest
    return (choice options :: others, flags)

def ofAst (flags : Flags) (tree : Ast) : Except Error Expr := do
  return choice (← optionsOfAst flags tree).1

end Expr

end RouteChain.Regex
