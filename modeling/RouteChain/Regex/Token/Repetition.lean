import RouteChain.Regex.Error
import RouteChain.Regex.Token
import RouteChain.Regex.Token.Blank

/-!
# Repetition bounds

The operators that repeat what stands before them, each greedy unless a question mark follows.

## Main definitions

* `Token.ofRepetition` — a repetition whose operator is one character.
* `Token.ofBraces` — a repetition whose opening brace stands before a text.
-/

namespace RouteChain.Regex

/-- Is the repetition greedy, and what follows it? -/
def readGreed : List Char → Bool × List Char
  | '?' :: rest => (false, rest)
  | rest => (true, rest)

/-- The repetition whose one-character operator stands before `text`. -/
def Token.ofRepetition (min : Nat) (max : Option Nat) (text : List Char) : Token × List Char :=
  let (greedy, rest) := readGreed text
  (.repetition ⟨min, max, greedy⟩, rest)

def maxBound : Nat := 0xffffffff

def readBound (verbose : Bool) (text : List Char) : Except Error (Nat × List Char) :=
  let (digits, rest) := collect verbose (fun c => !c.isDigit) (text.dropWhile Unicode.isSpace)
  let n := digits.foldl (fun n d => 10 * n + (d.toNat - '0'.toNat)) 0
  if digits.isEmpty ∨ maxBound < n then .error .repetitionBounds
  else .ok (n, rest.dropWhile Unicode.isSpace)

def closeBraces (verbose : Bool) (min : Nat) (max : Option Nat) :
    List Char → Except Error (Token × List Char)
  | '\x7d' :: rest =>
    if max.any (· < min) then .error .repetitionBounds
    else .ok (Token.ofRepetition min max (skipBlank verbose rest))
  | _ => .error .repetitionBounds

/-- Reads the repetition whose opening brace stands before `text`. -/
def Token.ofBraces (verbose : Bool) (text : List Char) : Except Error (Token × List Char) := do
  let (min, rest) ← readBound verbose (skipBlank verbose text)
  match rest with
  | ',' :: rest =>
    match skipBlank verbose rest with
    | '\x7d' :: rest => closeBraces verbose min none ('\x7d' :: rest)
    | rest => do
      let (max, rest) ← readBound verbose rest
      closeBraces verbose min (some max) rest
  | rest => closeBraces verbose min (some min) rest

end RouteChain.Regex
