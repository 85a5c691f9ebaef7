/-!
# Why a regular expression is refused

## Main definitions

* `Error` — the causes for which the text of a regular expression is refused.
-/

namespace RouteChain.Regex

inductive Error where
  /-- A closing parenthesis without an opening one. -/
  | groupUnopened
  /-- A group that the text does not close. -/
  | groupUnclosed
  /-- A bracketed class that the text does not close. -/
  | classUnclosed
  /-- An assertion or a class of several characters used as one character of a class. -/
  | classItem
  /-- A range that ends before it begins. -/
  | classRange
  /-- A group name that is empty, has a character no name has, or does not end. -/
  | groupName
  /-- A group name given twice. -/
  | groupNameRepeated (name : String)
  /-- A flag that is unknown, given twice, or missing after a hyphen. -/
  | groupFlags
  /-- Look-ahead or look-behind. -/
  | lookAround
  /-- A repetition with nothing to repeat. -/
  | nothingToRepeat
  /-- Bounds of a repetition that are missing, unclosed, too large or decreasing. -/
  | repetitionBounds
  /-- A backslash with nothing, or with nothing meaningful, after it. -/
  | escape
  /-- A back-reference. -/
  | backReference
  /-- Hexadecimal digits that are missing or denote no character. -/
  | hexadecimal
  /-- The name of a word boundary that is unknown or unclosed. -/
  | boundaryName
  /-- A property of characters that is not known by that name. -/
  | unknownProperty
  /-- More levels of nesting than are accepted. -/
  | tooDeep
  /-- A set that would have to leave ASCII in a place that is bound to ASCII. -/
  | beyondAscii
  /-- An expression that would take too much room once its repetitions are written out. -/
  | tooLarge
  deriving Repr, DecidableEq

end RouteChain.Regex
