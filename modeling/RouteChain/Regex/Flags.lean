/-!
# Flags

Flags change how the rest of the enclosing group is read.

## Main definitions

* `Flag`, `FlagChange` — a flag, and turning it on or off.
* `Flags` — the flags in force, and `Flags.apply`, the effect of changes on them.
-/

namespace RouteChain.Regex

inductive Flag where
  | ignoreCase
  | multiLine
  | dotMatchesNewline
  | swapGreed
  | unicode
  | carriageReturn
  | verbose
  deriving Repr, DecidableEq

def Flag.ofChar? : Char → Option Flag
  | 'i' => some .ignoreCase
  | 'm' => some .multiLine
  | 's' => some .dotMatchesNewline
  | 'U' => some .swapGreed
  | 'u' => some .unicode
  | 'R' => some .carriageReturn
  | 'x' => some .verbose
  | _ => none

abbrev FlagChange := Flag × Bool

/-- The flags in force. Only `unicode` is on unless something turns it off. -/
structure Flags where
  ignoreCase : Bool := false
  multiLine : Bool := false
  dotMatchesNewline : Bool := false
  swapGreed : Bool := false
  unicode : Bool := true
  carriageReturn : Bool := false
  deriving Repr, DecidableEq

namespace Flags

/-- The flags after one change. Verbosity concerns the text alone and is not among them. -/
def change (flags : Flags) : FlagChange → Flags
  | (.ignoreCase, on) => { flags with ignoreCase := on }
  | (.multiLine, on) => { flags with multiLine := on }
  | (.dotMatchesNewline, on) => { flags with dotMatchesNewline := on }
  | (.swapGreed, on) => { flags with swapGreed := on }
  | (.unicode, on) => { flags with unicode := on }
  | (.carriageReturn, on) => { flags with carriageReturn := on }
  | (.verbose, _) => flags

def apply (flags : Flags) (changes : List FlagChange) : Flags :=
  changes.foldl change flags

end Flags

/-- Whether the changes leave verbosity on, given whether it was on before. -/
def verboseAfter (verbose : Bool) (changes : List FlagChange) : Bool :=
  ((changes.find? (fun change => change.1 = .verbose)).map Prod.snd).getD verbose

end RouteChain.Regex
