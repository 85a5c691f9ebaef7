/-!
# Methods

## Main definitions

* `Method` — the method of a request; case counts.
* `Methods` — the methods that an entry serves.
-/

namespace RouteChain

/-- The method of a request. Case counts. -/
structure Method where
  name : String
  deriving Repr, DecidableEq

namespace Method

def get : Method := ⟨"GET"⟩
def post : Method := ⟨"POST"⟩
def put : Method := ⟨"PUT"⟩
def delete : Method := ⟨"DELETE"⟩
def patch : Method := ⟨"PATCH"⟩
def head : Method := ⟨"HEAD"⟩
def options : Method := ⟨"OPTIONS"⟩
def connect : Method := ⟨"CONNECT"⟩
def trace : Method := ⟨"TRACE"⟩

end Method

/-- The methods that an entry serves: all of them, or one. -/
inductive Methods where
  | any
  | only (method : Method)
  deriving Repr, DecidableEq

namespace Methods

def allows : Methods → Method → Bool
  | .any, _ => true
  | .only m, method => m = method

def label : Methods → String
  | .any => "ALL"
  | .only m => m.name

def describe : Methods → String
  | .any => "Any"
  | .only m => "Only(" ++ m.name ++ ")"

end Methods

end RouteChain
