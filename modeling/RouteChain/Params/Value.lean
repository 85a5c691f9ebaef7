import RouteChain.Params

/-!
# Typed parameter values

Parameters are texts; a reader may ask for a number, a truth value or a single character instead.

## Main definitions

* `ValueType`, `Value` — the types a parameter can be read as, and their values.
* `ValueError` — why a text is no value of a type.
* `Value.parse`, `Params.parse?` — reading a text, and reading a parameter.
-/

namespace RouteChain

inductive ValueType where
  | unsigned (bits : Nat)
  | signed (bits : Nat)
  | bool
  | char
  | text
  deriving Repr, DecidableEq

inductive Value where
  | int (value : Int)
  | bool (value : Bool)
  | char (value : Char)
  | text (value : String)
  deriving Repr, DecidableEq

inductive ValueError where
  | emptyInteger
  | invalidDigit
  | tooLarge
  | tooSmall
  | notBool
  | emptyChar
  | tooManyChars
  deriving Repr, DecidableEq

def ValueError.message : ValueError → String
  | .emptyInteger => "cannot parse integer from empty string"
  | .invalidDigit => "invalid digit found in string"
  | .tooLarge => "number too large to fit in target type"
  | .tooSmall => "number too small to fit in target type"
  | .notBool => "provided string was not `true` or `false`"
  | .emptyChar => "cannot parse char from empty string"
  | .tooManyChars => "too many characters in string"

namespace Value

def toText : Value → String
  | .int n => toString n
  | .bool b => toString b
  | .char c => c.toString
  | .text t => t

/-! ## Integers -/

/-- Reads digits after those that make up `n`. The first character that is no digit, or that takes
the number past `limit`, decides the error. -/
def readDigits (limit : Nat) (overflow : ValueError) : (n : Nat) → List Char → Except ValueError Nat
  | n, [] => .ok n
  | n, c :: cs =>
    if c.isDigit then
      let n := 10 * n + (c.toNat - '0'.toNat)
      if limit < n then .error overflow else readDigits limit overflow n cs
    else .error .invalidDigit

/-- Reads an integer from `-negative` to `positive`. A plus sign is allowed, a minus sign only if
there are negative values, and a sign alone is no number. -/
def readInt (negative positive : Nat) (isSigned : Bool) : List Char → Except ValueError Int
  | [] => .error .emptyInteger
  | ['+'] | ['-'] => .error .invalidDigit
  | '+' :: digits => (readDigits positive .tooLarge 0 digits).map Int.ofNat
  | '-' :: digits =>
    if isSigned then (readDigits negative .tooSmall 0 digits).map (fun n => -(Int.ofNat n))
    else .error .invalidDigit
  | digits => (readDigits positive .tooLarge 0 digits).map Int.ofNat

/-! ## All types -/

def parse (text : String) : ValueType → Except ValueError Value
  | .unsigned bits => (readInt 0 (1 <<< bits - 1) false text.toList).map .int
  | .signed bits =>
    (readInt (1 <<< (bits - 1)) (1 <<< (bits - 1) - 1) true text.toList).map .int
  | .bool =>
    if text = "true" then .ok (.bool true)
    else if text = "false" then .ok (.bool false)
    else .error .notBool
  | .char =>
    match text.toList with
    | [] => .error .emptyChar
    | [c] => .ok (.char c)
    | _ => .error .tooManyChars
  | .text => .ok (.text text)

end Value

def Params.parse? (params : Params) (name : String) (type : ValueType) :
    Option (Except ValueError Value) :=
  (params.get? name).map (fun text => Value.parse text type)

end RouteChain
