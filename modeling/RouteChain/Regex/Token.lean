import RouteChain.Regex.CharSet
import RouteChain.Regex.Flags

/-!
# Tokens of a regular expression

A token is one operator, one parenthesis or one thing that stands for characters. A bracketed class
is a single token with a tree of its own.

## Main definitions

* `Anchor` — the assertions on a place between characters, as they are written.
* `AsciiClass`, `ShortClass` — the classes with names such as `alpha`, and those such as `\d`.
* `ClassSet` — what stands between brackets.
* `Atom`, `Bounds`, `Token` — the tokens.
-/

namespace RouteChain.Regex

open Unicode (Query)

/-! ## Assertions and classes -/

inductive Anchor where
  | caret
  | dollar
  | textStart
  | textEnd
  | wordBoundary
  | noWordBoundary
  | wordStart
  | wordEnd
  | wordStartHalf
  | wordEndHalf
  deriving Repr, DecidableEq

/-- The classes written with one letter after a backslash. -/
inductive ShortClass where
  | digit
  | space
  | word
  deriving Repr, DecidableEq

/-- The ASCII classes written by name between colons. -/
inductive AsciiClass where
  | alnum
  | alpha
  | ascii
  | blank
  | cntrl
  | digit
  | graph
  | lower
  | print
  | punct
  | space
  | upper
  | word
  | xdigit
  deriving Repr, DecidableEq

def AsciiClass.ofName? : String → Option AsciiClass
  | "alnum" => some .alnum
  | "alpha" => some .alpha
  | "ascii" => some .ascii
  | "blank" => some .blank
  | "cntrl" => some .cntrl
  | "digit" => some .digit
  | "graph" => some .graph
  | "lower" => some .lower
  | "print" => some .print
  | "punct" => some .punct
  | "space" => some .space
  | "upper" => some .upper
  | "word" => some .word
  | "xdigit" => some .xdigit
  | _ => none

def AsciiClass.set : AsciiClass → CharSet
  | .alnum => .union (.range '0' '9') (.union (.range 'A' 'Z') (.range 'a' 'z'))
  | .alpha => .union (.range 'A' 'Z') (.range 'a' 'z')
  | .ascii => .range '\x00' '\x7f'
  | .blank => .union (.char '\t') (.char ' ')
  | .cntrl => .union (.range '\x00' '\x1f') (.char '\x7f')
  | .digit => .range '0' '9'
  | .graph => .range '!' '~'
  | .lower => .range 'a' 'z'
  | .print => .range ' ' '~'
  | .punct => .union (.union (.range '!' '/') (.range ':' '@'))
      (.union (.range '[' (Char.ofNat 96)) (.range '\x7b' '~'))
  | .space => .named .asciiSpace
  | .upper => .range 'A' 'Z'
  | .word => .named .asciiWord
  | .xdigit => .union (.range '0' '9') (.union (.range 'A' 'F') (.range 'a' 'f'))

/-! ## What stands between brackets -/

inductive SetOperator where
  | intersection
  | difference
  | symmetricDifference
  deriving Repr, DecidableEq

/-- What stands between the brackets of a class. -/
inductive ClassSet where
  | empty
  | range (first last : Char)
  | ascii (negated : Bool) (name : AsciiClass)
  | short (negated : Bool) (name : ShortClass)
  | query (negated : Bool) (query : Query)
  | bracketed (negated : Bool) (body : ClassSet)
  | union (item others : ClassSet)
  | operation (operator : SetOperator) (left right : ClassSet)
  deriving Repr, DecidableEq

def ClassSet.ofItems : List ClassSet → ClassSet
  | [] => .empty
  | [item] => item
  | item :: others => .union item (ofItems others)

/-! ## Tokens -/

/-- A thing that stands for one character, for none, or for a place between characters. -/
inductive Atom where
  /-- The character itself; `byte` tells that it was written as two hexadecimal digits. -/
  | literal (c : Char) (byte : Bool)
  | dot
  | anchor (anchor : Anchor)
  | short (negated : Bool) (name : ShortClass)
  | query (negated : Bool) (query : Query)
  | bracketed (negated : Bool) (body : ClassSet)
  deriving Repr, DecidableEq

/-- How often something is repeated: at least `min` times, at most `max` times if that is given, and
as often as possible, or as seldom, by `greedy`. -/
structure Bounds where
  min : Nat
  max : Option Nat
  greedy : Bool
  deriving Repr, DecidableEq

inductive GroupHead where
  | capturing (name : Option String)
  | flagged (changes : List FlagChange)
  deriving Repr, DecidableEq

inductive Token where
  | atom (atom : Atom)
  | repetition (bounds : Bounds)
  | bar
  | openGroup (head : GroupHead)
  | closeGroup
  | setFlags (changes : List FlagChange)
  deriving Repr, DecidableEq

end RouteChain.Regex
