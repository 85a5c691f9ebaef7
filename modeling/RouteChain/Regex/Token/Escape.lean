import RouteChain.Regex.Error
import RouteChain.Regex.Token
import RouteChain.Regex.Token.Blank

/-!
# Escapes

What a backslash introduces: a character that would otherwise be an operator, a control character, a
character by number, a class, or an assertion.

## Main definitions

* `isMeta`, `mayBeEscaped` — the operators, and the characters a backslash leaves as they are.
* `Atom.ofEscape` — the atom that the text after a backslash starts with.
-/

namespace RouteChain.Regex

open Unicode (Query)

/-! ## Characters that stand for themselves -/

/-- The characters that a backslash turns from an operator into a character. -/
def metaCharacters : List Char :=
  ['\\', '.', '+', '*', '?', '(', ')', '|', '[', ']', '\x7b', '\x7d', '^', '$', '#', '&', '-', '~']

def isMeta (c : Char) : Bool :=
  metaCharacters.contains c

/-- Does a backslash leave `c` as it is? Letters and digits have meanings of their own, the angle
brackets are assertions, and nothing outside ASCII may be escaped. -/
def mayBeEscaped (c : Char) : Bool :=
  isMeta c || (c.toNat < 128 && !c.isAlphanum && c != '<' && c != '>')

/-! ## Characters by number -/

def hexValue? (c : Char) : Option Nat :=
  if '0' ≤ c ∧ c ≤ '9' then some (c.toNat - '0'.toNat)
  else if 'a' ≤ c ∧ c ≤ 'f' then some (c.toNat - 'a'.toNat + 10)
  else if 'A' ≤ c ∧ c ≤ 'F' then some (c.toNat - 'A'.toNat + 10)
  else none

def charOfHex (digits : List Char) : Except Error Char :=
  match digits.mapM hexValue? with
  | none => .error .hexadecimal
  | some [] => .error .hexadecimal
  | some values =>
    let n := values.foldl (fun n v => 16 * n + v) 0
    if n.isValidChar then .ok (Char.ofNat n) else .error .hexadecimal

/-- Reads a character by number: `count` digits, or any number of them in braces. -/
def hexEscape (verbose : Bool) (count : Nat) (text : List Char) :
    Except Error (Atom × List Char) :=
  match skipBlank verbose text with
  | '\x7b' :: inner =>
    match collect verbose (· == '\x7d') inner with
    | (digits, _ :: rest) => do
      return (.literal (← charOfHex digits) false, skipBlank verbose rest)
    | (_, []) => .error .escape
  | text =>
    match collectCount verbose count text with
    | some (digits, rest) => do
      return (.literal (← charOfHex digits) (count == 2), skipBlank verbose rest)
    | none => .error .escape

/-! ## Properties -/

/-- Splits `text` at the first place where `separator` stands. -/
def splitAtFirst (separator : List Char) : List Char → Option (List Char × List Char)
  | [] => none
  | c :: cs =>
    if separator.isPrefixOf (c :: cs) then some ([], (c :: cs).drop separator.length)
    else (splitAtFirst separator cs).map (fun (before, after) => (c :: before, after))

/-- What the text between the braces of a property asks for: a name, or a name and a value. -/
def queryOf (text : List Char) : Option Query :=
  match (splitAtFirst ['!', '='] text).or
      ((splitAtFirst [':'] text).or (splitAtFirst ['='] text)) with
  | some (name, value) => Query.valued? (String.ofList name) (String.ofList value)
  | none => Query.named? (String.ofList text)

/-- Reads a property: one letter, or a text in braces. -/
def propertyEscape (verbose negated : Bool) (text : List Char) :
    Except Error (Atom × List Char) :=
  match skipBlank verbose text with
  | [] => .error .escape
  | '\x7b' :: inner =>
    match collect verbose (· == '\x7d') inner with
    | (body, _ :: rest) =>
      match queryOf body with
      | some query => .ok (.query negated query, rest)
      | none => .error .unknownProperty
    | (_, []) => .error .escape
  | c :: rest =>
    if c = '\\' then .error .escape
    else
      match Query.named? (String.ofList [c]) with
      | some query => .ok (.query negated query, skipBlank verbose rest)
      | none => .error .unknownProperty

/-! ## Word boundaries -/

def isBoundaryNameChar (c : Char) : Bool :=
  c.isAlpha || c == '-'

def boundaryOfName? : String → Option Anchor
  | "start" => some .wordStart
  | "end" => some .wordEnd
  | "start-half" => some .wordStartHalf
  | "end-half" => some .wordEndHalf
  | _ => none

/-- Reads what follows a word boundary: a name in braces picks a side. Braces that do not start with
a character of a name are left alone, since they repeat the boundary. -/
def boundaryEscape (verbose : Bool) (text : List Char) : Except Error (Atom × List Char) :=
  match text with
  | '\x7b' :: inner =>
    match collect verbose (fun c => !isBoundaryNameChar c) inner with
    | ([], _) => .ok (.anchor .wordBoundary, text)
    | (name, '\x7d' :: rest) =>
      match boundaryOfName? (String.ofList name) with
      | some place => .ok (.anchor place, rest)
      | none => .error .boundaryName
    | _ => .error .boundaryName
  | _ => .ok (.anchor .wordBoundary, text)

/-! ## All escapes -/

def controlEscape? : Char → Option Char
  | 'a' => some '\x07'
  | 'f' => some '\x0c'
  | 't' => some '\t'
  | 'n' => some '\n'
  | 'r' => some '\r'
  | 'v' => some '\x0b'
  | _ => none

def anchorEscape? : Char → Option Anchor
  | 'A' => some .textStart
  | 'z' => some .textEnd
  | 'B' => some .noWordBoundary
  | '<' => some .wordStart
  | '>' => some .wordEnd
  | _ => none

def shortEscape? : Char → Option (Bool × ShortClass)
  | 'd' => some (false, .digit)
  | 'D' => some (true, .digit)
  | 's' => some (false, .space)
  | 'S' => some (true, .space)
  | 'w' => some (false, .word)
  | 'W' => some (true, .word)
  | _ => none

/-- Reads the escape whose backslash stands before `text`. -/
def Atom.ofEscape (verbose : Bool) (text : List Char) : Except Error (Atom × List Char) :=
  match text with
  | [] => .error .escape
  | 'x' :: rest => hexEscape verbose 2 rest
  | 'u' :: rest => hexEscape verbose 4 rest
  | 'U' :: rest => hexEscape verbose 8 rest
  | 'p' :: rest => propertyEscape verbose false rest
  | 'P' :: rest => propertyEscape verbose true rest
  | 'b' :: rest => boundaryEscape verbose rest
  | c :: rest =>
    if c.isDigit then .error .backReference
    else if mayBeEscaped c then .ok (.literal c false, rest)
    else
      match shortEscape? c, controlEscape? c, anchorEscape? c with
      | some (negated, name), _, _ => .ok (.short negated name, rest)
      | none, some control, _ => .ok (.literal control false, rest)
      | none, none, some place => .ok (.anchor place, rest)
      | none, none, none => .error .escape

end RouteChain.Regex
