import RouteChain.Text.Quoted

/-!
# Path parameters

The parameters that a path binds, in the order in which their names were first bound.

## Main definitions

* `Params` — names and their values; `Params.bind` binds a name or changes its value in place.
* `Params.get?`, `Params.contains` — looking up a name.
* `Params.get?_bind_self`, `Params.get?_bind_of_ne` — what binding a name does to looking one up.
* `Params.describe` — the bindings as text.
-/

namespace RouteChain

/-- Names and their values. No name occurs twice in what `bind` builds. -/
structure Params where
  entries : List (String × String) := []
  deriving Repr, DecidableEq

namespace Params

def empty : Params := {}

def bindIn (name value : String) : List (String × String) → List (String × String)
  | [] => [(name, value)]
  | (n, v) :: rest => if n = name then (n, value) :: rest else (n, v) :: bindIn name value rest

/-- Binds a name. A name that is bound keeps its place and gets the new value. -/
def bind (params : Params) (name value : String) : Params :=
  ⟨bindIn name value params.entries⟩

/-- Binds the names whose values are there, in order. -/
def ofGroups (groups : List (String × Option String)) : Params :=
  groups.foldl (fun params (name, value) =>
    match value with
    | some value => params.bind name value
    | none => params) empty

def get? (params : Params) (name : String) : Option String :=
  (params.entries.find? (fun entry => entry.1 = name)).map Prod.snd

/-- A name that was just bound has the new value. -/
theorem get?_bind_self (params : Params) (name value : String) :
    (params.bind name value).get? name = some value := by
  simp only [get?, bind]
  induction params.entries with
  | nil => simp [bindIn]
  | cons entry rest ih =>
    by_cases h : entry.1 = name
    · simp [bindIn, h]
    · simpa [bindIn, h] using ih

/-- Binding a name leaves the others alone. -/
theorem get?_bind_of_ne (params : Params) {name other : String} (value : String)
    (h : other ≠ name) : (params.bind name value).get? other = params.get? other := by
  simp only [get?, bind]
  induction params.entries with
  | nil => simp [bindIn, Ne.symm h]
  | cons entry rest ih =>
    by_cases hn : entry.1 = name
    · simp [bindIn, hn, Ne.symm h]
    · by_cases ho : entry.1 = other
      · simp [bindIn, ho, h]
      · simpa [bindIn, hn, ho] using ih

def contains (params : Params) (name : String) : Bool :=
  params.entries.any (fun entry => entry.1 = name)

def size (params : Params) : Nat :=
  params.entries.length

def isEmpty (params : Params) : Bool :=
  params.entries.isEmpty

def describe (params : Params) : String :=
  "\x7b" ++ ", ".intercalate (params.entries.map (fun (name, value) =>
    Text.quote name ++ ": " ++ Text.quote value)) ++ "\x7d"

end Params

end RouteChain
