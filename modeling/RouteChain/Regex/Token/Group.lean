import RouteChain.Regex.Error
import RouteChain.Regex.Token
import RouteChain.Regex.Token.Blank

/-!
# Group heads

What follows an opening parenthesis: a name, flags for the group, or flags for what remains of the
enclosing group.

## Main definitions

* `Token.ofParenthesis` — the token whose opening parenthesis stands before a text.
-/

namespace RouteChain.Regex

open Unicode (isLetter isNumeric)

/-! ## Names -/

/-- May `c` stand in the name of a group? The first character has to be a letter or a low line. -/
def isNameChar (first : Bool) (c : Char) : Bool :=
  c == '_' || isLetter c || (!first && (isNumeric c || c == '.' || c == '[' || c == ']'))

def groupName (text : List Char) : Except Error (String × List Char) :=
  match text.span (· ≠ '>') with
  | (first :: others, _ :: rest) =>
    if isNameChar true first && others.all (isNameChar false) then
      .ok (String.ofList (first :: others), rest)
    else .error .groupName
  | _ => .error .groupName

/-! ## Flags -/

/-- What ends a list of flags: a colon if a group follows, a parenthesis if not. -/
inductive FlagsEnd where
  | colon
  | parenthesis
  deriving Repr, DecidableEq

/-- Reads flags. `on` tells that no hyphen has turned the flags into removals yet, `dangling` that
the last character was that hyphen, and `changes` are the flags read so far. -/
def readFlags (on dangling : Bool) (changes : List FlagChange) :
    List Char → Except Error (List FlagChange × FlagsEnd × List Char)
  | [] => .error .groupUnclosed
  | ':' :: rest => if dangling then .error .groupFlags else .ok (changes, .colon, rest)
  | ')' :: rest => if dangling then .error .groupFlags else .ok (changes, .parenthesis, rest)
  | '-' :: rest => if on then readFlags false true changes rest else .error .groupFlags
  | c :: rest =>
    match Flag.ofChar? c with
    | none => .error .groupFlags
    | some flag =>
      if changes.any (fun change => change.1 = flag) then .error .groupFlags
      else readFlags on false (changes ++ [(flag, on)]) rest

/-! ## Heads -/

/-- Reads the token whose opening parenthesis stands before `text`. -/
def Token.ofParenthesis (verbose : Bool) (text : List Char) : Except Error (Token × List Char) :=
  match skipBlank verbose text with
  | '?' :: '=' :: _ | '?' :: '!' :: _ | '?' :: '<' :: '=' :: _ | '?' :: '<' :: '!' :: _ =>
    .error .lookAround
  | '?' :: 'P' :: '<' :: rest | '?' :: '<' :: rest => do
    let (name, rest) ← groupName rest
    return (.openGroup (.capturing (some name)), rest)
  | '?' :: rest => do
    match ← readFlags true false [] rest with
    | (changes, .colon, rest) => return (.openGroup (.flagged changes), rest)
    | ([], .parenthesis, _) => .error .nothingToRepeat
    | (changes, .parenthesis, rest) => return (.setFlags changes, rest)
  | rest => .ok (.openGroup (.capturing none), rest)

end RouteChain.Regex
