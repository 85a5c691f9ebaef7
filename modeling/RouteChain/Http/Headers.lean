/-!
# Header fields

The header fields of a message, sorted by name. A name may have several values, which keep the order
in which they were added.

## Main definitions

* `Bytes` — the bytes of a body or of a header value.
* `Headers` — header fields; `Headers.add` adds a value and `Headers.set` replaces all values.
* `fieldName` — the form in which names are compared.
-/

namespace RouteChain

abbrev Bytes := List UInt8

def Bytes.ofText (text : String) : Bytes :=
  text.toUTF8.toList

def Bytes.text? (bytes : Bytes) : Option String :=
  String.fromUTF8? ⟨bytes.toArray⟩

/-- A header name in lower case, as names are compared. -/
def fieldName (name : String) : String :=
  String.ofList (name.toList.map Char.toLower)

/-- The header fields of a message, sorted by name. -/
structure Headers where
  fields : List (String × Bytes) := []
  deriving Repr, DecidableEq

namespace Headers

/-- Adds a field after those whose names do not come later. -/
def insertField (name : String) (value : Bytes) : List (String × Bytes) → List (String × Bytes)
  | [] => [(name, value)]
  | (n, v) :: rest =>
    if name < n then (name, value) :: (n, v) :: rest else (n, v) :: insertField name value rest

def add (headers : Headers) (name : String) (value : Bytes) : Headers :=
  ⟨insertField (fieldName name) value headers.fields⟩

def remove (headers : Headers) (name : String) : Headers :=
  ⟨headers.fields.filter (fun field => field.1 ≠ fieldName name)⟩

/-- Replaces all values of a name by one. -/
def set (headers : Headers) (name : String) (value : Bytes) : Headers :=
  (headers.remove name).add name value

def contains (headers : Headers) (name : String) : Bool :=
  headers.fields.any (fun field => field.1 = fieldName name)

/-- The fields given in order, names with equal names together. -/
def ofList (fields : List (String × Bytes)) : Headers :=
  fields.foldl (fun headers (name, value) => headers.add name value) {}

end Headers

/-- The text of a header value, if every byte is a visible ASCII character or a tab. -/
def fieldText? (value : Bytes) : Option String :=
  if value.all (fun b => (32 ≤ b && b < 127) || b == 9) then
    some (String.ofList (value.map (fun b => Char.ofNat b.toNat)))
  else none

def contentLength : String := "content-length"

def contentType : String := "content-type"

end RouteChain
