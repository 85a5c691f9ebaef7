/-!
# Splitting text

## Main definitions

* `splitOn` — the pieces of a text between separators.
* `words` — the same for strings.
-/

namespace RouteChain.Text

/-- The pieces of a text between separators, empty ones included. -/
def splitOn (separator : Char) : List Char → List (List Char)
  | [] => [[]]
  | c :: cs =>
    if c = separator then [] :: splitOn separator cs
    else
      match splitOn separator cs with
      | [] => [[c]]
      | piece :: pieces => (c :: piece) :: pieces

/-- There is at least one piece. -/
theorem splitOn_ne_nil (separator : Char) (text : List Char) : splitOn separator text ≠ [] := by
  cases text with
  | nil => simp [splitOn]
  | cons c cs =>
    by_cases h : c = separator
    · simp [splitOn, h]
    · cases hs : splitOn separator cs <;> simp [splitOn, h, hs]

def words (separator : Char) (text : String) : List String :=
  (splitOn separator text.toList).map String.ofList

end RouteChain.Text
