import RouteChain.Unicode.Class

/-!
# Blanks in verbose text

In a verbose stretch of a regular expression, white space and comments do not count. A comment runs
from a number sign to the end of the line.

## Main definitions

* `skipBlank` — the text after the blanks it starts with.
* `collect` — the characters up to a stop, without the blanks among them.
* `collectCount` — a given number of characters, without the blanks among them.
-/

namespace RouteChain.Regex

open Unicode (isSpace)

/-- The text after the blanks it starts with; `inComment` tells that a comment is open. -/
def dropBlank : (inComment : Bool) → List Char → List Char
  | _, [] => []
  | true, c :: cs => dropBlank (c ≠ '\n') cs
  | false, c :: cs =>
    if isSpace c then dropBlank false cs
    else if c = '#' then dropBlank true cs
    else c :: cs

/-- The text after the blanks it starts with, of which only verbose text has any. -/
def skipBlank (verbose : Bool) (text : List Char) : List Char :=
  if verbose then dropBlank false text else text

/-- The characters before the first one that passes `stop`, and the text from there on. Blanks of
verbose text are left out. -/
def collectFrom (verbose : Bool) (stop : Char → Bool) :
    (inComment : Bool) → List Char → List Char × List Char
  | _, [] => ([], [])
  | true, c :: cs => collectFrom verbose stop (c ≠ '\n') cs
  | false, c :: cs =>
    if verbose && isSpace c then collectFrom verbose stop false cs
    else if verbose && c == '#' then collectFrom verbose stop true cs
    else if stop c then ([], c :: cs)
    else
      let (taken, rest) := collectFrom verbose stop false cs
      (c :: taken, rest)

/-- The characters before the first one that passes `stop`, and the text from there on. -/
def collect (verbose : Bool) (stop : Char → Bool) (text : List Char) : List Char × List Char :=
  collectFrom verbose stop false text

/-- The next `count` characters, blanks of verbose text not counted, and the text after them. -/
def collectCount (verbose : Bool) : (count : Nat) → List Char → Option (List Char × List Char)
  | 0, text => some ([], text)
  | count + 1, text =>
    match skipBlank verbose text with
    | [] => none
    | c :: cs => (collectCount verbose count cs).map (fun (taken, rest) => (c :: taken, rest))

end RouteChain.Regex
