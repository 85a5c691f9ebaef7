import RouteChain.Text.Split

/-!
# Interval tables

A table of a character property lists disjoint intervals of code points in increasing order, each
with a value. Tables are written as text, one interval a word: `41-5A=Lu` gives the value `Lu` to
the code points U+0041 to U+005A, and `AA=Lo` gives `Lo` to U+00AA alone.

## Main definitions

* `Intervals` — the table, read from its text by `Intervals.ofText`.
* `Intervals.find?` — the value at a code point, by binary search.
-/

namespace RouteChain.Unicode

/-- The code points from `first` to `last`, both included, and the value they share. -/
structure Interval (α : Type) where
  first : Nat
  last : Nat
  value : α

/-- A finite map from code points, given by increasing disjoint intervals. -/
structure Intervals (α : Type) where
  entries : Array (Interval α)

/-! ## Reading -/

def hexDigitValue (c : Char) : Nat :=
  if c ≤ '9' then c.toNat - '0'.toNat else c.toNat - 'A'.toNat + 10

def readHex (digits : List Char) : Nat :=
  digits.foldl (fun n c => 16 * n + hexDigitValue c) 0

/-- Reads one interval; `value` turns the text after `=` into the value. -/
def Interval.ofWord {α : Type} (value : String → α) (word : String) : Interval α :=
  let cs := word.toList
  let bounds := cs.takeWhile (· ≠ '=')
  let first := bounds.takeWhile (· ≠ '-')
  let last := (bounds.dropWhile (· ≠ '-')).drop 1
  { first := readHex first
    last := readHex (if last.isEmpty then first else last)
    value := value (String.ofList ((cs.dropWhile (· ≠ '=')).drop 1)) }

/-- Reads a table from lines of words. -/
def Intervals.ofText {α : Type} (value : String → α) (lines : List String) : Intervals α where
  entries := (lines.flatMap (fun line => (Text.words ' ' line).map (Interval.ofWord value))).toArray

/-! ## Lookup -/

/-- The value at `n` among the entries from index `lo` up to, not including, `hi`. The search halves
that range, so as many rounds as there are entries are enough. -/
def Intervals.search {α : Type} (t : Intervals α) (n : Nat) : Nat → Nat → Nat → Option α
  | 0, _, _ => none
  | rounds + 1, lo, hi =>
    if lo < hi then
      let mid := (lo + hi) / 2
      match t.entries[mid]? with
      | none => none
      | some e =>
        if n < e.first then t.search n rounds lo mid
        else if e.last < n then t.search n rounds (mid + 1) hi
        else some e.value
    else none

def Intervals.find? {α : Type} (t : Intervals α) (c : Char) : Option α :=
  t.search c.toNat t.entries.size 0 t.entries.size

/-- A table without values is a set of characters. -/
abbrev CharTable := Intervals Unit

def CharTable.ofText (lines : List String) : CharTable :=
  Intervals.ofText (fun _ => ()) lines

def CharTable.contains (t : CharTable) (c : Char) : Bool :=
  (t.find? c).isSome

end RouteChain.Unicode
