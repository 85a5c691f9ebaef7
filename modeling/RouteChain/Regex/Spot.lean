import RouteChain.Regex.Expr

/-!
# Places in a text

A place between two characters of a text, and the assertions that hold there.

## Main definitions

* `Spot` — a place with the character before it and the text after it.
* `Spot.start` — the first place of a text.
* `Assertion.holds` — does an assertion hold at a place?
-/

namespace RouteChain.Regex

/-- A place in a text: how many characters stand before it, the last of them, and the text after
it. -/
structure Spot where
  position : Nat
  before : Option Char
  rest : List Char
  deriving Repr, DecidableEq

namespace Spot

def start (text : List Char) : Spot :=
  ⟨0, none, text⟩

def after (s : Spot) : Option Char :=
  s.rest.head?

def wordBefore (ascii : Bool) (s : Spot) : Bool :=
  s.before.any (if ascii then Unicode.isAsciiWord else Unicode.isWord)

def wordAfter (ascii : Bool) (s : Spot) : Bool :=
  s.after.any (if ascii then Unicode.isAsciiWord else Unicode.isWord)

end Spot

/-- Does the assertion hold at the place? A carriage return and the line feed after it end one
line. -/
def Assertion.holds : Assertion → Spot → Bool
  | .textStart, s => s.before.isNone
  | .textEnd, s => s.after.isNone
  | .lineStart, s => s.before.all (· = '\n')
  | .lineEnd, s => s.after.all (· = '\n')
  | .lineStartCarriageReturn, s =>
    s.before.all (fun c => c = '\n' ∨ (c = '\r' ∧ s.after ≠ some '\n'))
  | .lineEndCarriageReturn, s =>
    s.after.all (fun c => c = '\r' ∨ (c = '\n' ∧ s.before ≠ some '\r'))
  | .wordBoundary ascii, s => s.wordBefore ascii != s.wordAfter ascii
  | .noWordBoundary ascii, s => s.wordBefore ascii == s.wordAfter ascii
  | .wordStart ascii, s => !s.wordBefore ascii && s.wordAfter ascii
  | .wordEnd ascii, s => s.wordBefore ascii && !s.wordAfter ascii
  | .wordStartHalf ascii, s => !s.wordBefore ascii
  | .wordEndHalf ascii, s => !s.wordAfter ascii

end RouteChain.Regex
