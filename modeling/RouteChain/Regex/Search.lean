import RouteChain.Regex.Code
import RouteChain.Regex.Spot

/-!
# Searching a text

The search goes through the text once. At each place it keeps, in the order of preference, the ways
in which a match may go on from there. A branch that was entered at a place before, on a way that is
preferred, is not entered there again: it would go on in the same way. So the work at a place is
bounded by the size of the code, and the first way that reaches the end of the code is the match.

## Main definitions

* `Mark`, `Frame`, `Thread` — where groups begin and end, what is left of the code, and a way to go
  on.
* `Frontier` — the ways to go on from one place.
* `Code.enter`, `Frame.resume` — following code, and what is left of it, to the letters it may take.
* `Code.find?` — the marks of the preferred match.
-/

namespace RouteChain.Regex

/-! ## Ways to go on -/

/-- The beginning or the end of a group at a position. -/
structure Mark where
  index : Nat
  isEnd : Bool
  position : Nat
  deriving Repr, DecidableEq

/-- One part of what is left of the code: a piece to match, a group to end, or a repetition that has
just finished a round. -/
inductive Frame where
  | next (x : Code)
  | close (index : Nat)
  | again (label : Nat) (greedy : Bool) (x : Code)
  deriving Repr, DecidableEq

/-- A way to go on: what is left of the code, and the marks set so far, the latest first. -/
structure Thread where
  frames : List Frame
  marks : List Mark
  deriving Repr, DecidableEq

/-- The ways to go on from a place. `entered` has a bit for each label entered there, `threads` are
the ways that take the next character, the least preferred first, and `matched` is the way that ends
there. No way is less preferred than the one that ends. -/
structure Frontier where
  entered : Nat := 0
  threads : List Thread := []
  matched : Option (List Mark) := none
  deriving Repr, DecidableEq

namespace Frontier

/-- Enters a branch with two ways, of which the first is tried first if `greedy`. Nothing changes if
the branch was entered before or a preferred way has ended. -/
def fork (f : Frontier) (label : Nat) (greedy : Bool) (more stop : Frontier → Frontier) :
    Frontier :=
  if f.matched.isSome || f.entered.testBit label then f
  else
    let f := { f with entered := f.entered ||| (1 <<< label) }
    if greedy then stop (more f) else more (stop f)

/-- Notes a way that takes the next character. -/
def push (f : Frontier) (label : Nat) (thread : Thread) : Frontier :=
  f.fork label true id (fun f => { f with threads := thread :: f.threads })

/-- Notes that a way ends, unless a preferred one has. -/
def accept (f : Frontier) (marks : List Mark) : Frontier :=
  { f with matched := f.matched.or (some marks) }

end Frontier

/-! ## Following code -/

/-- Follows code from a place. `frames` is what is left after it, and `done` goes on with that from
the same place when the code has matched nothing at all. -/
def Code.enter (s : Spot) : Code → List Frame → (List Mark → Frontier → Frontier) →
    List Mark → Frontier → Frontier
  | .empty, _, done, marks, f => done marks f
  | .letter label set, frames, _, marks, f =>
    if s.after.any set.contains then f.push label ⟨frames, marks⟩ else f
  | .assertion a, _, done, marks, f => if a.holds s then done marks f else f
  | .cat x y, frames, done, marks, f =>
    x.enter s (.next y :: frames) (y.enter s frames done) marks f
  | .alt label x y, frames, done, marks, f =>
    f.fork label true (x.enter s frames done marks) (y.enter s frames done marks)
  | .opt label greedy x, frames, done, marks, f =>
    f.fork label greedy (x.enter s frames done marks) (done marks)
  | .plus label greedy x, frames, done, marks, f =>
    x.enter s (.again label greedy x :: frames)
      (fun marks f => f.fork label true id (done marks)) marks f
  | .star label greedy x, frames, done, marks, f =>
    f.fork label greedy
      (x.enter s (.again label greedy x :: frames) (fun _ f => f) marks) (done marks)
  | .group index x, frames, done, marks, f =>
    x.enter s (.close index :: frames)
      (fun marks f => done (⟨index, true, s.position⟩ :: marks) f)
      (⟨index, false, s.position⟩ :: marks) f

/-- Goes on from a place with what is left of the code. A repetition goes round again only if the
new round takes a character. -/
def Frame.resume (s : Spot) : List Frame → List Mark → Frontier → Frontier
  | [], marks, f => f.accept marks
  | .next x :: frames, marks, f => x.enter s frames (resume s frames) marks f
  | .close index :: frames, marks, f => resume s frames (⟨index, true, s.position⟩ :: marks) f
  | .again label greedy x :: frames, marks, f =>
    f.fork label greedy
      (x.enter s (.again label greedy x :: frames) (fun _ f => f) marks) (resume s frames marks)

/-! ## The search -/

/-- The ways to go on from a place that threads have reached. -/
def Frontier.ofThreads (s : Spot) (threads : List Thread) : Frontier :=
  threads.foldr (fun thread f => Frame.resume s thread.frames thread.marks f) {}

/-- Goes through the text from a place on. `best` is the preferred match so far: a later one comes
from a way that was preferred to it. -/
def Frontier.run (best : Option (List Mark)) (f : Frontier) (position : Nat) :
    List Char → Option (List Mark)
  | [] => f.matched.or best
  | c :: rest =>
    if f.threads.isEmpty then f.matched.or best
    else
      let next := ofThreads ⟨position + 1, some c, rest⟩ f.threads
      run (f.matched.or best) next (position + 1) rest

/-- The marks of the preferred match of the code that begins with the text, the latest first. -/
def Code.find? (code : Code) (text : List Char) : Option (List Mark) :=
  Frontier.run none (.ofThreads (.start text) [⟨[.next code], []⟩]) 0 text

end RouteChain.Regex
