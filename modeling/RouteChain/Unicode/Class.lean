import RouteChain.Unicode.Property

/-!
# Classes of characters

The everyday classes, each for all of Unicode and for ASCII alone. On an ASCII character the two
agree by definition, and no table is consulted.

## Main definitions

* `isWord`, `isDigit`, `isSpace` — the classes over all characters.
* `isAsciiWord`, `isAsciiDigit`, `isAsciiSpace` — the same classes within ASCII.
* `isLetter`, `isNumeric` — the alphabetic characters, and those with a numeric value.
* `isPrintable`, `isCombining` — the characters with a shape of their own, and those that join the
  character before them.
-/

namespace RouteChain.Unicode

/-! ## Within ASCII -/

def isAsciiDigit (c : Char) : Bool :=
  '0' ≤ c && c ≤ '9'

/-- Is `c` an ASCII letter, digit or the low line? -/
def isAsciiWord (c : Char) : Bool :=
  ('a' ≤ c && c ≤ 'z') || ('A' ≤ c && c ≤ 'Z') || isAsciiDigit c || c == '_'

/-- Is `c` the space or one of the five ASCII controls that count as space? -/
def isAsciiSpace (c : Char) : Bool :=
  c == ' ' || (9 ≤ c.toNat && c.toNat ≤ 13)

/-! ## Over all characters -/

def isDigit (c : Char) : Bool :=
  if c.toNat < 128 then isAsciiDigit c else Category.of c == .decimalNumber

/-- Is `c` part of a word: alphabetic, a mark, a decimal digit, a connector or a joiner? -/
def isWord (c : Char) : Bool :=
  if c.toNat < 128 then isAsciiWord c
  else
    isAlphabetic c || joinControlTable.contains c ||
      categoryIn [.nonspacingMark, .spacingMark, .enclosingMark, .decimalNumber,
        .connectorPunctuation] c

def isSpace (c : Char) : Bool :=
  if c.toNat < 128 then isAsciiSpace c else isWhiteSpace c

/-- Does `c` have a numeric value: is it a decimal digit, a letter number or another number? -/
def isNumeric (c : Char) : Bool :=
  if c.toNat < 128 then isAsciiDigit c
  else categoryIn [.decimalNumber, .letterNumber, .otherNumber] c

def isLetter (c : Char) : Bool :=
  if c.toNat < 128 then c.isAlpha else isAlphabetic c

/-- Does `c` have a shape of its own? Controls, unassigned characters, and all separators but the
space have none. -/
def isPrintable (c : Char) : Bool :=
  if c.toNat < 128 then 32 ≤ c.toNat && c.toNat < 127
  else !categoryIn [.control, .format, .privateUse, .unassigned, .lineSeparator,
    .paragraphSeparator, .spaceSeparator] c

/-- Does `c` combine with the character before it? No ASCII character does. -/
def isCombining (c : Char) : Bool :=
  if c.toNat < 128 then false else isGraphemeExtend c

end RouteChain.Unicode
