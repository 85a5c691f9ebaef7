import RouteChain.Regex.Token.Bracket
import RouteChain.Regex.Token.Group
import RouteChain.Regex.Token.Repetition

/-!
# Splitting text into tokens

Whether blanks count depends on the groups around a place, so the state of the reader is whether the
present group is verbose, and what to return to when each of the open groups closes.

## Main definitions

* `Token.next` — the token a text starts with.
* `Token.ofText` — all tokens of a text.
-/

namespace RouteChain.Regex

namespace Token

/-- The token that a text without leading blanks starts with, and the text after it. -/
def next (verbose : Bool) : List Char → Except Error (Token × List Char)
  | [] => .error .escape
  | '(' :: rest => ofParenthesis verbose rest
  | ')' :: rest => .ok (.closeGroup, rest)
  | '|' :: rest => .ok (.bar, rest)
  | '?' :: rest => .ok (ofRepetition 0 (some 1) rest)
  | '*' :: rest => .ok (ofRepetition 0 none rest)
  | '+' :: rest => .ok (ofRepetition 1 none rest)
  | '\x7b' :: rest => ofBraces verbose rest
  | '[' :: rest => do
    let (a, rest) ← Atom.ofBracket verbose rest
    return (.atom a, rest)
  | '\\' :: rest => do
    let (a, rest) ← Atom.ofEscape verbose rest
    return (.atom a, rest)
  | '.' :: rest => .ok (.atom .dot, rest)
  | '^' :: rest => .ok (.atom (.anchor .caret), rest)
  | '$' :: rest => .ok (.atom (.anchor .dollar), rest)
  | c :: rest => .ok (.atom (.literal c false), rest)

/-- Verbosity after a token: of the present group, and of the groups around it. -/
def verbosityAfter (verbose : Bool) (outer : List Bool) : Token → Except Error (Bool × List Bool)
  | .openGroup (.capturing _) => .ok (verbose, verbose :: outer)
  | .openGroup (.flagged changes) => .ok (verboseAfter verbose changes, verbose :: outer)
  | .setFlags changes => .ok (verboseAfter verbose changes, outer)
  | .closeGroup =>
    match outer with
    | [] => .error .groupUnopened
    | before :: outer => .ok (before, outer)
  | _ => .ok (verbose, outer)

/-- All tokens of a text. A token takes at least one character, so as many rounds as there are
characters are enough. -/
def scan : (rounds : Nat) → (verbose : Bool) → (outer : List Bool) → List Char →
    Except Error (List Token)
  | 0, _, _, _ => .ok []
  | rounds + 1, verbose, outer, text =>
    match skipBlank verbose text with
    | [] => .ok []
    | text => do
      let (token, rest) ← next verbose text
      let (verbose, outer) ← verbosityAfter verbose outer token
      return token :: (← scan rounds verbose outer rest)

def ofText (text : List Char) : Except Error (List Token) :=
  scan text.length false [] text

end Token

end RouteChain.Regex
