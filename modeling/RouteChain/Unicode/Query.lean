import RouteChain.Unicode.Class
import RouteChain.Unicode.Script

/-!
# Properties asked for by name

A set of characters may be asked for by the name of a property, as in `Greek`, `Lu` or
`scx=Cyrillic`. Names are compared loosely: case, spaces, hyphens, low lines and a leading `is` do
not count.

## Main definitions

* `Query` — a property that a name can ask for, and `Query.holds`.
* `looseName` — the form in which names are compared.
* `Query.named?`, `Query.valued?` — what a bare name, or a name with a value, asks for.
-/

namespace RouteChain.Unicode

/-! ## Loose names -/

/-- A name without what does not count when names are compared. A leading `is` stays before a lone
`c`, since `isc` names a property of its own. -/
def looseName (name : String) : String :=
  let lower := name.toList.map Char.toLower
  let strip := fun cs : List Char => cs.filter (fun c => c ∉ [' ', '_', '-'] && c.toNat < 128)
  match lower with
  | 'i' :: 's' :: rest => if strip rest = ['c'] then "isc" else String.ofList (strip rest)
  | _ => String.ofList (strip lower)

/-- Do two names agree up to what does not count? -/
def sameName (a b : String) : Bool :=
  looseName a == looseName b

/-! ## Queries -/

/-- A property of characters that can be asked for by name. -/
inductive Query where
  | all
  | assigned
  | ascii
  | categories (members : List Category)
  | script (script : Script)
  | usedIn (script : Script)
  | property (property : BinaryProperty)
  deriving Repr, DecidableEq

namespace Query

def holds : Query → Char → Bool
  | .all, _ => true
  | .assigned, c => Category.of c != .unassigned
  | .ascii, c => c.toNat < 128
  | .categories members, c => categoryIn members c
  | .script s, c => Script.of? c == some s
  | .usedIn s, c => (Script.usedIn c).contains s
  | .property p, c => p.holds c

/-- The names of the letters with case, the one group of categories without a first letter of its
own. -/
def casedLetterNames : List String := ["LC", "Cased_Letter"]

/-- The categories, or the group of them, with the given name. -/
def category? (name : String) : Option Query :=
  let hit := fun names : List String => names.any (sameName name)
  if sameName name "Any" then some .all
  else if sameName name "Assigned" then some .assigned
  else if sameName name "ASCII" then some .ascii
  else if hit casedLetterNames then
    some (.categories [.uppercaseLetter, .lowercaseLetter, .titlecaseLetter])
  else
    match Category.groups.find? (fun group => hit group.1) with
    | some group => some (.categories (Category.startingWith group.2))
    | none => (Category.names.find? (fun entry => hit entry.2)).map
        (fun entry => .categories [entry.1])

def script? (name : String) : Option Query :=
  (Script.named? (sameName name)).map .script

def property? (name : String) : Option Query :=
  (BinaryProperty.names.find? (fun entry => entry.2.any (sameName name))).map
    (fun entry => .property entry.1)

/-- The names that denote a group of categories although a property shares their abbreviation. -/
def categoryFirst : List String := ["cf", "sc", "lc"]

/-- What a bare name asks for: a property, else a category, else a script. -/
def named? (name : String) : Option Query :=
  (if categoryFirst.contains (looseName name) then none else property? name).or
    ((category? name).or (script? name))

/-- What a name with a value asks for. -/
def valued? (name value : String) : Option Query :=
  if ["gc", "General_Category"].any (sameName name) then category? value
  else if ["sc", "Script"].any (sameName name) then script? value
  else if ["scx", "Script_Extensions"].any (sameName name) then
    (Script.named? (sameName value)).map .usedIn
  else none

end Query

end RouteChain.Unicode
