import RouteChain.Unicode.Query
import RouteChain.Unicode.CaseFolding

/-!
# Sets of characters

The sets that a regular expression can write, as a tree of set operations.

## Main definitions

* `CharSet` — the sets, and `CharSet.contains`, membership.
* `CharSet.char`, `CharSet.dot`, `CharSet.all` — the sets that need no brackets.
* `CharSet.foldedChar` — one character in all its cases.
-/

namespace RouteChain.Regex

open Unicode

/-- The everyday classes, over all characters or within ASCII. -/
inductive NamedClass where
  | digit
  | space
  | word
  | asciiDigit
  | asciiSpace
  | asciiWord
  deriving Repr, DecidableEq

def NamedClass.contains : NamedClass → Char → Bool
  | .digit, c => isDigit c
  | .space, c => isSpace c
  | .word, c => isWord c
  | .asciiDigit, c => isAsciiDigit c
  | .asciiSpace, c => isAsciiSpace c
  | .asciiWord, c => isAsciiWord c

inductive CharSet where
  | empty
  | range (first last : Char)
  | named (name : NamedClass)
  | query (query : Query)
  | union (a b : CharSet)
  | inter (a b : CharSet)
  | diff (a b : CharSet)
  | symmDiff (a b : CharSet)
  | compl (a : CharSet)
  /-- All characters equal up to case to one in `a`. -/
  | folded (a : CharSet)
  /-- All characters in `a`, and the ASCII letters equal up to case to one in `a`. -/
  | asciiFolded (a : CharSet)
  deriving Repr, DecidableEq

namespace CharSet

/-! ## Membership -/

/-- The ASCII characters equal to `c` up to case, with `c` among them. -/
def asciiCases (c : Char) : List Char :=
  [c, c.toLower, c.toUpper]

def contains : CharSet → Char → Bool
  | .empty, _ => false
  | .range first last, c => first ≤ c && c ≤ last
  | .named n, c => n.contains c
  | .query q, c => q.holds c
  | .union a b, c => a.contains c || b.contains c
  | .inter a b, c => a.contains c && b.contains c
  | .diff a b, c => a.contains c && !b.contains c
  | .symmDiff a b, c => a.contains c != b.contains c
  | .compl a, c => !a.contains c
  | .folded a, c => (caseGroup c).any (fun d => a.contains d)
  | .asciiFolded a, c => (asciiCases c).any (fun d => a.contains d)

/-! ## Sets that need no brackets -/

def char (c : Char) : CharSet :=
  .range c c

/-- The character, if the set is written as one character. -/
def char? : CharSet → Option Char
  | .range first last => if first = last then some first else none
  | _ => none

def all : CharSet :=
  .compl .empty

/-- All characters but the line feed. -/
def dot : CharSet :=
  .compl (.char '\n')

/-- All characters but the carriage return and the line feed. -/
def dotCarriageReturn : CharSet :=
  .compl (.union (.char '\r') (.char '\n'))

/-- One character in all its cases; a character without cases stays by itself. -/
def foldedChar (c : Char) : CharSet :=
  if caseGroup c = [c] then .char c else .folded (.char c)

/-- One character in both its ASCII cases; a character that is no ASCII letter stays by itself. -/
def asciiFoldedChar (c : Char) : CharSet :=
  if c.isAlpha then .asciiFolded (.char c) else .char c

end CharSet

end RouteChain.Regex
