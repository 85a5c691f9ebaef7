import RouteChain.Router.Entry

/-!
# Routers

A router is where actions are registered. It keeps its entries in the order of registration, which
is the only precedence that there is.

## Main definitions

* `Router` — entries, and the fallback for requests that none of them matches.
* `Router.register`, `Router.registerStrict` — adding an entry with a pattern; `Router.add` adds one
  that is ready.
* `patternBelow`, `Router.mount` — adding all entries of another router below a path.
* `Row`, `Router.ofTable` — the router of a table of registrations.
-/

namespace RouteChain

/-- The registered entries, the way patterns are compiled, and the responder for requests that no
entry matches. The events that registrations raised are kept in order. -/
structure Router (ρ : Type) where
  compiler : PatternCompiler := {}
  entries : List (RouteEntry ρ) := []
  fallback : Option (Fallback ρ) := none
  events : List Event := []

/-- The pattern of an entry below a path. The two are joined by one slash. -/
def patternBelow (place pattern : String) : String :=
  String.ofList ((place.toList.reverse.dropWhile (· = '/')).reverse ++
    '/' :: pattern.toList.dropWhile (· = '/'))

namespace Router

variable {ρ : Type}

/-! ## Adding entries -/

/-- Adds an entry behind all others. -/
def add (router : Router ρ) (entry : RouteEntry ρ) : Router ρ :=
  { router with
    entries := router.entries ++ [entry]
    events := router.events ++ [.registered entry.methods entry.pattern.source entry.role] }

/-- Adds an entry with a pattern. An entry whose pattern fails to compile is added as well, but
matches nothing. -/
def register (router : Router ρ) (methods : Methods) (pattern : String) (coverage : Coverage)
    (role : Role) (action : Behaviour ρ) : Router ρ :=
  let (pattern, warnings) := RoutePattern.lenient router.compiler (some pattern) coverage
  { router with events := router.events ++ warnings }.add ⟨methods, pattern, role, action⟩

/-- Adds an entry with a pattern, unless the pattern fails to compile. -/
def registerStrict (router : Router ρ) (methods : Methods) (pattern : String) (coverage : Coverage)
    (role : Role) (action : Behaviour ρ) : Except PatternError (Router ρ) :=
  (RoutePattern.strict router.compiler (some pattern) coverage).map (fun pattern =>
    router.add ⟨methods, pattern, role, action⟩)

/-! ## Handlers and middleware -/

/-- Adds a handler for the paths that fit the pattern. -/
def route (router : Router ρ) (methods : Methods) (pattern : String) (action : Behaviour ρ) :
    Router ρ :=
  router.register methods pattern .whole .handler action

def routeStrict (router : Router ρ) (methods : Methods) (pattern : String)
    (action : Behaviour ρ) : Except PatternError (Router ρ) :=
  router.registerStrict methods pattern .whole .handler action

def routeAll (router : Router ρ) (methods : Methods) (action : Behaviour ρ) : Router ρ :=
  router.add ⟨methods, .any, .handler, action⟩

/-- Adds a middleware for the paths that start with the segments of the pattern. -/
def use (router : Router ρ) (pattern : String) (action : Behaviour ρ) : Router ρ :=
  router.register .any pattern .leading .middleware action

def useStrict (router : Router ρ) (pattern : String) (action : Behaviour ρ) :
    Except PatternError (Router ρ) :=
  router.registerStrict .any pattern .leading .middleware action

def useAll (router : Router ρ) (action : Behaviour ρ) : Router ρ :=
  router.add ⟨.any, .any, .middleware, action⟩

def setFallback (router : Router ρ) (fallback : Fallback ρ) : Router ρ :=
  { router with fallback := some fallback }

/-! ## Mounting -/

/-- Adds an entry of another router below a path. An entry without a pattern is then for the paths
that start with the segments of that path. -/
def mountEntry (place : String) (router : Router ρ) (entry : RouteEntry ρ) : Router ρ :=
  match entry.pattern.source with
  | some source =>
    router.register entry.methods (patternBelow place source) entry.pattern.coverage entry.role
      entry.action
  | none => router.register entry.methods place .leading entry.role entry.action

/-- Adds all entries of another router below a path, in their order. Their patterns are compiled as
this router compiles patterns, and the fallback of the other router is ignored. -/
def mount (router : Router ρ) (place : String) (inner : Router ρ) : Router ρ :=
  let warnings := if inner.fallback.isSome then [.fallbackIgnored place] else []
  inner.entries.foldl (mountEntry place)
    { router with events := router.events ++ inner.events ++ warnings }

/-- Builds a router and adds all its entries below a path. -/
def nest (router : Router ρ) (place : String) (build : Router ρ → Router ρ) : Router ρ :=
  router.mount place (build {})

/-! ## As text -/

def describeEntries (entries : List (RouteEntry ρ)) : String :=
  "[" ++ ", ".intercalate (entries.map RouteEntry.describe) ++ "]"

def describe (router : Router ρ) : String :=
  "Router \x7b compiler: " ++ router.compiler.describe ++
    ", entries: " ++ describeEntries router.entries ++
    ", fallback: " ++ toString router.fallback.isSome ++ " \x7d"

end Router

/-! ## Tables -/

inductive Row (ρ : Type) where
  | use (place : String) (action : Behaviour ρ)
  | route (methods : Methods) (pattern : String) (action : Behaviour ρ)
  | mount (place : String) (rows : List (Row ρ))

namespace Router

variable {ρ : Type}

mutual

def addRow (router : Router ρ) : Row ρ → Router ρ
  | .use place action => router.use place action
  | .route methods pattern action => router.route methods pattern action
  | .mount place rows => router.mount place (addRows {} rows)

def addRows (router : Router ρ) : List (Row ρ) → Router ρ
  | [] => router
  | row :: rows => addRows (addRow router row) rows

end

def ofTable (rows : List (Row ρ)) : Router ρ :=
  addRows {} rows

end Router

end RouteChain
