import RouteChain.Unicode.Class

/-!
# Quoted text

A text in double quotes, in which every character can be seen: quotes, backslashes and controls are
escaped, and so is any character without a shape of its own.

## Main definitions

* `quoteChar` — one character as it stands in quoted text.
* `quote` — a quoted text; `quoteOption` — one that may be missing.
* `hexDigits` — a number in lower-case hexadecimal digits.
-/

namespace RouteChain.Text

open Unicode (isPrintable isCombining)

def hexDigits (n : Nat) : List Char :=
  Nat.toDigits 16 n

def quoteChar (c : Char) : List Char :=
  if c = '"' ∨ c = '\\' then ['\\', c]
  else if c = '\n' then ['\\', 'n']
  else if c = '\r' then ['\\', 'r']
  else if c = '\t' then ['\\', 't']
  else if c = '\x00' then ['\\', '0']
  else if isPrintable c && !isCombining c then [c]
  else ['\\', 'u', '\x7b'] ++ hexDigits c.toNat ++ ['\x7d']

/-- A text in double quotes, with all in it made visible. -/
def quote (text : String) : String :=
  String.ofList ('"' :: text.toList.flatMap quoteChar ++ ['"'])

/-- A text that may be missing, quoted if it is there. -/
def quoteOption : Option String → String
  | some text => "Some(" ++ quote text ++ ")"
  | none => "None"

end RouteChain.Text
