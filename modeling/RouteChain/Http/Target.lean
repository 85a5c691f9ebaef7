/-!
# Request targets

The target of a request in one of its forms: a path with a query, a whole address, an asterisk, or a
host alone.

## Main definitions

* `targetPath` — the path of a target, as it is written there.
-/

namespace RouteChain

def beforeQuery (text : List Char) : List Char :=
  text.takeWhile (fun c => c ≠ '?' ∧ c ≠ '#')

/-- The text after the first `://`, if there is one before any slash, query or fragment. -/
def afterScheme? : List Char → Option (List Char)
  | ':' :: '/' :: '/' :: rest => some rest
  | [] => none
  | c :: rest => if c = '/' ∨ c = '?' ∨ c = '#' then none else afterScheme? rest

/-- The path of a target. A whole address without a path has the root, and a host alone has the
empty path. -/
def targetPath (target : String) : String :=
  let text := target.toList
  match text with
  | '/' :: _ => String.ofList (beforeQuery text)
  | ['*'] => "*"
  | _ =>
    match afterScheme? text with
    | none => ""
    | some rest =>
      let path := (beforeQuery rest).dropWhile (· ≠ '/')
      if path.isEmpty then "/" else String.ofList path

end RouteChain
