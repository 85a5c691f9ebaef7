import RouteChain.Proofs.Regex.Forward

/-!
# Code in another place

What the search finds depends neither on the labels of the code nor on how far from the beginning of
the text it goes on, unless the code looks at what stands before it. So an expression behind some
letters is found behind those letters as it is found by itself.

## Main definitions

* `Code.moved`, `Mark.moved` — code with higher labels, and marks at later positions.
* `Frontier.Moved` — a frontier that is another one in another place.
* `Code.onward`, `Expr.onward` — what does not look back before it has taken a character.
* `Code.findFrom?` — the marks of the preferred match that begins at a place.

The main result is `Code.find?_letters`.
-/

namespace RouteChain.Regex

/-! ## Moved code -/

namespace Code

/-- The code with labels that are higher by `n`. -/
def moved (n : Nat) : Code → Code
  | .empty => .empty
  | .letter label set => .letter (label + n) set
  | .assertion a => .assertion a
  | .cat x y => .cat (x.moved n) (y.moved n)
  | .alt label x y => .alt (label + n) (x.moved n) (y.moved n)
  | .opt label greedy x => .opt (label + n) greedy (x.moved n)
  | .plus label greedy x => .plus (label + n) greedy (x.moved n)
  | .star label greedy x => .star (label + n) greedy (x.moved n)
  | .group index x => .group index (x.moved n)

@[simp] theorem moved_zero (x : Code) : x.moved 0 = x := by
  induction x <;> simp_all [moved]

end Code

namespace Code.Builder

/-- The builder writes the same code whatever label it is told, but for the labels. -/
def Uniform (x : Builder) : Prop :=
  ∀ label n, x (label + n) = ((x label).1.moved n, (x label).2 + n)

variable {x y : Builder}

theorem uniform_nothing : Uniform nothing := fun _ _ => rfl

theorem Uniform.andThen (hx : Uniform x) (hy : Uniform y) : Uniform (x.andThen y) := by
  intro label n
  simp only [Builder.andThen, hx label n, hy _ n, moved]

theorem Uniform.labelled {wrap : Nat → Code → Code} (h : Uniform x)
    (hwrap : ∀ label n code, (wrap label code).moved n = wrap (label + n) (code.moved n)) :
    Uniform (x.labelled wrap) := by
  intro label n
  have hnext : label + n + 1 = label + 1 + n := Nat.add_right_comm label n 1
  simp only [Builder.labelled, hnext, h (label + 1) n, hwrap]

theorem Uniform.opt (h : Uniform x) (greedy : Bool) :
    Uniform (x.labelled fun label => .opt label greedy) :=
  h.labelled fun _ _ _ => rfl

theorem Uniform.plus (h : Uniform x) (greedy : Bool) :
    Uniform (x.labelled fun label => .plus label greedy) :=
  h.labelled fun _ _ _ => rfl

theorem Uniform.copies (h : Uniform x) (halvings count : Nat) :
    Uniform (x.copies halvings count) := by
  induction halvings generalizing count with
  | zero =>
    rcases count with _ | _ | count
    · exact uniform_nothing
    · exact h
    · exact uniform_nothing
  | succ halvings ih =>
    rcases count with _ | _ | count
    · exact uniform_nothing
    · exact h
    · exact (ih _).andThen (ih _)

theorem Uniform.optional (h : Uniform x) (greedy : Bool) (count : Nat) :
    Uniform (x.optional greedy count) := by
  induction count with
  | zero => exact uniform_nothing
  | succ count ih =>
    cases count with
    | zero => exact h.opt greedy
    | succ count => exact (h.andThen ih).opt greedy

theorem Uniform.many (h : Uniform x) (consumes greedy : Bool) :
    Uniform (x.many consumes greedy) := by
  unfold Builder.many
  split
  · exact h.labelled fun _ _ _ => rfl
  · exact (h.plus greedy).opt greedy

theorem Uniform.repeated (h : Uniform x) (consumes : Bool) (min : Nat) (max : Option Nat)
    (greedy : Bool) : Uniform (x.repeated consumes min max greedy) := by
  unfold Builder.repeated
  split
  · exact h.many consumes greedy
  · exact h.plus greedy
  · exact (h.copies _ _).andThen (h.plus greedy)
  · exact h.optional greedy _
  · split
    · exact h.copies _ _
    · exact (h.copies _ _).andThen (h.optional greedy _)

end Code.Builder

namespace Code

theorem uniform_build (x : Expr) : Builder.Uniform (build x) := by
  induction x with
  | empty | assertion => exact fun _ _ => rfl
  | letter set =>
    intro label n
    exact congrArg (Code.letter (label + n) set, ·) (Nat.add_right_comm label n 1)
  | cat x y ihx ihy => exact ihx.andThen ihy
  | alt x y ihx ihy =>
    intro label n
    have hnext : label + n + 1 = label + 1 + n := Nat.add_right_comm label n 1
    simp only [build, hnext, ihx (label + 1) n, ihy _ n, moved]
  | repetition min max greedy x ih => exact ih.repeated x.consumes min max greedy
  | group index x ih =>
    intro label n
    simp only [build, ih label n, moved]

end Code

/-! ## The search in another place -/

def Mark.moved (k : Nat) (mark : Mark) : Mark :=
  { mark with position := mark.position + k }

@[simp] theorem Mark.moved_zero : Mark.moved 0 = id := rfl

def Frame.moved (n : Nat) : Frame → Frame
  | .next x => .next (x.moved n)
  | .close index => .close index
  | .again label greedy x => .again (label + n) greedy (x.moved n)

@[simp] theorem Frame.moved_zero : Frame.moved 0 = id := by
  funext frame
  cases frame <;> simp [moved]

def Thread.moved (n k : Nat) (thread : Thread) : Thread :=
  ⟨thread.frames.map (Frame.moved n), thread.marks.map (Mark.moved k)⟩

@[simp] theorem Thread.moved_zero : Thread.moved 0 0 = id := by
  funext thread
  simp [moved]

/-- A frontier is another one in another place, with labels that are higher by `n`, positions that
are later by `k`, and whatever has been entered below the label `low`. -/
structure Frontier.Moved (n k low : Nat) (f g : Frontier) : Prop where
  threads : g.threads = f.threads.map (Thread.moved n k)
  matched : g.matched = f.matched.map (List.map (Mark.moved k))
  entered : ∀ label, low ≤ label → g.entered.testBit (label + n) = f.entered.testBit label

/-- A place with the same text after it that is later by `k`. -/
structure Spot.Moved (k : Nat) (s t : Spot) : Prop where
  position : t.position = s.position + k
  rest : t.rest = s.rest

section

variable {n k low : Nat} {s t : Spot}

namespace Frontier.Moved

variable {f g : Frontier}

theorem fork (h : Moved n k low f g) {label : Nat} (hlabel : low ≤ label) (greedy : Bool)
    {more stop more' stop' : Frontier → Frontier}
    (hmore : ∀ {f g}, Moved n k low f g → Moved n k low (more f) (more' g))
    (hstop : ∀ {f g}, Moved n k low f g → Moved n k low (stop f) (stop' g)) :
    Moved n k low (f.fork label greedy more stop) (g.fork (label + n) greedy more' stop') := by
  have hmatched : g.matched.isSome = f.matched.isSome := by simp [h.matched]
  have hentered : Moved n k low { f with entered := f.entered ||| 1 <<< label }
      { g with entered := g.entered ||| 1 <<< (label + n) } := by
    refine ⟨h.threads, h.matched, fun other hother => ?_⟩
    simp [Nat.one_shiftLeft, Nat.testBit_two_pow, h.entered other hother]
  simp only [Frontier.fork, hmatched, h.entered label hlabel]
  split
  · exact h
  · cases greedy
    · exact hmore (hstop hentered)
    · exact hstop (hmore hentered)

theorem push (h : Moved n k low f g) {label : Nat} (hlabel : low ≤ label) (thread : Thread) :
    Moved n k low (f.push label thread) (g.push (label + n) (thread.moved n k)) :=
  h.fork hlabel true id fun h => ⟨by simp [h.threads], h.matched, h.entered⟩

theorem accept (h : Moved n k low f g) (marks : List Mark) :
    Moved n k low (f.accept marks) (g.accept (marks.map (Mark.moved k))) :=
  ⟨h.threads, by simp [Frontier.accept, h.matched], h.entered⟩

end Frontier.Moved

end

/-! ## Looking back -/

/-- Does the assertion look at what stands before the place? -/
def Assertion.looksBack : Assertion → Bool
  | .textEnd | .lineEnd | .wordEndHalf _ => false
  | _ => true

namespace Code

def isLetter : Code → Bool
  | .letter _ _ => true
  | _ => false

/-- Does the code look at nothing that stands before the place until it has taken a character? This
is not asked of every form of code. -/
def onward : Code → Bool
  | .empty | .letter _ _ => true
  | .assertion a => !a.looksBack
  | .cat x y => x.onward && (x.isLetter || y.onward)
  | .opt _ _ x => x.onward
  | _ => false

end Code

section

variable {n k low : Nat} {s t : Spot}

/-- What stands before the place is the same, or the code does not look at it. -/
def Spot.SeenAlike (s t : Spot) (x : Code) : Prop :=
  t.before = s.before ∨ x.onward = true

theorem Assertion.holds_of_moved (hmoved : s.Moved k t) {a : Assertion}
    (hseen : s.SeenAlike t (.assertion a)) : a.holds t = a.holds s := by
  have hafter : t.after = s.after := congrArg List.head? hmoved.rest
  rcases hseen with hbefore | honward
  · cases a <;> simp only [holds, Spot.wordBefore, Spot.wordAfter, hbefore, hafter]
  · cases a <;> simp_all [Code.onward, looksBack, holds, Spot.wordAfter]

/-- Moved code is followed to the same places. -/
theorem Code.moved_enter (hmoved : s.Moved k t) (x : Code) (hseen : s.SeenAlike t x)
    (hlabels : ∀ label ∈ x.labels, low ≤ label) {frames : List Frame}
    {done done' : List Mark → Frontier → Frontier}
    (hdone : x.isLetter = false → ∀ marks f g, Frontier.Moved n k low f g →
      Frontier.Moved n k low (done marks f) (done' (marks.map (Mark.moved k)) g))
    {marks : List Mark} {f g : Frontier} (h : Frontier.Moved n k low f g) :
    Frontier.Moved n k low (x.enter s frames done marks f)
      ((x.moved n).enter t (frames.map (Frame.moved n)) done' (marks.map (Mark.moved k)) g) := by
  induction x generalizing frames done done' marks f g with
  | empty => exact hdone rfl marks f g h
  | letter label set =>
    have hafter : t.after = s.after := congrArg List.head? hmoved.rest
    simp only [enter, moved, hafter]
    split
    · exact h.push (hlabels label List.mem_cons_self) ⟨frames, marks⟩
    · exact h
  | assertion a =>
    simp only [enter, moved, Assertion.holds_of_moved hmoved hseen]
    split
    · exact hdone rfl marks f g h
    · exact h
  | cat x y ihx ihy =>
    have hseenx : s.SeenAlike t x := hseen.imp_right fun h => (Bool.and_eq_true_iff.mp h).1
    refine ihx hseenx (fun label mem => hlabels label (List.mem_append_left _ mem))
      (fun hletter marks f g h => ?_) h
    have hseeny : s.SeenAlike t y := hseen.imp_right fun h => by
      simpa [hletter] using (Bool.and_eq_true_iff.mp h).2
    exact ihy hseeny (fun label mem => hlabels label (List.mem_append_right _ mem))
      (fun _ => hdone rfl) h
  | alt label x y ihx ihy =>
    have hbefore : t.before = s.before := hseen.resolve_right (by simp [onward])
    refine h.fork (hlabels label List.mem_cons_self) true (fun h => ?_) fun h => ?_
    · exact ihx (.inl hbefore) (fun label mem => hlabels label (by simp [labels, mem]))
        (fun _ => hdone rfl) h
    · exact ihy (.inl hbefore) (fun label mem => hlabels label (by simp [labels, mem]))
        (fun _ => hdone rfl) h
  | opt label greedy x ih =>
    exact h.fork (hlabels label List.mem_cons_self) greedy
      (ih hseen (fun label mem => hlabels label (List.mem_cons_of_mem _ mem)) fun _ => hdone rfl)
      (hdone rfl _ _ _)
  | plus label greedy x ih =>
    have hbefore : t.before = s.before := hseen.resolve_right (by simp [onward])
    exact ih (.inl hbefore) (fun label mem => hlabels label (List.mem_cons_of_mem _ mem))
      (fun _ marks f g h => h.fork (hlabels label List.mem_cons_self) true (fun h => h)
        (hdone rfl marks _ _)) h
  | star label greedy x ih =>
    have hbefore : t.before = s.before := hseen.resolve_right (by simp [onward])
    exact h.fork (hlabels label List.mem_cons_self) greedy
      (ih (.inl hbefore) (fun label mem => hlabels label (List.mem_cons_of_mem _ mem))
        fun _ _ _ _ h => h) (hdone rfl _ _ _)
  | group index x ih =>
    have hbefore : t.before = s.before := hseen.resolve_right (by simp [onward])
    have hposition (isEnd : Bool) : (⟨index, isEnd, t.position⟩ : Mark) =
        Mark.moved k ⟨index, isEnd, s.position⟩ := by
      rw [Mark.moved, hmoved.position]
    simp only [enter, moved, hposition]
    exact ih (.inl hbefore) hlabels
      (fun _ marks f g h => hdone rfl (⟨index, true, s.position⟩ :: marks) f g h) h

/-- What is left of moved code is followed to the same places. -/
theorem Frame.moved_resume (hmoved : s.Moved k t) (hbefore : t.before = s.before)
    (frames : List Frame) {marks : List Mark} {f g : Frontier} (h : Frontier.Moved n k 0 f g) :
    Frontier.Moved n k 0 (resume s frames marks f)
      (resume t (frames.map (Frame.moved n)) (marks.map (Mark.moved k)) g) := by
  induction frames generalizing marks f g with
  | nil => exact h.accept marks
  | cons frame frames ih =>
    cases frame with
    | next x =>
      exact Code.moved_enter hmoved x (.inl hbefore) (fun _ _ => Nat.zero_le _)
        (fun _ _ _ _ h => ih h) h
    | close index =>
      have hposition : (⟨index, true, t.position⟩ : Mark) =
          Mark.moved k ⟨index, true, s.position⟩ := by
        rw [Mark.moved, hmoved.position]
      simp only [List.map_cons, moved, resume, hposition]
      exact ih h
    | again label greedy x =>
      exact h.fork (Nat.zero_le _) greedy
        (Code.moved_enter hmoved x (.inl hbefore) (fun _ _ => Nat.zero_le _)
          fun _ _ _ _ h => h) ih

namespace Frontier

theorem moved_empty : Moved n k 0 {} {} :=
  ⟨rfl, rfl, by simp⟩

theorem moved_ofThreads (hmoved : s.Moved k t) (hbefore : t.before = s.before)
    (threads : List Thread) :
    Moved n k 0 (ofThreads s threads) (ofThreads t (threads.map (Thread.moved n k))) := by
  induction threads with
  | nil => exact moved_empty
  | cons thread threads ih => exact Frame.moved_resume hmoved hbefore thread.frames ih

theorem Moved.or {f g : Frontier} (h : Moved n k low f g) (best : Option (List Mark)) :
    g.matched.or (best.map (List.map (Mark.moved k))) =
      (f.matched.or best).map (List.map (Mark.moved k)) := by
  rw [h.matched, Option.map_or]

/-- The search goes on in another place and finds the same. -/
theorem Moved.run {f g : Frontier} (h : Moved n k 0 f g) (best : Option (List Mark))
    (position : Nat) (text : List Char) :
    Frontier.run (best.map (List.map (Mark.moved k))) g (position + k) text =
      (Frontier.run best f position text).map (List.map (Mark.moved k)) := by
  induction text generalizing f g best position with
  | nil => exact h.or best
  | cons c rest ih =>
    have hposition : position + k + 1 = position + 1 + k := Nat.add_right_comm position k 1
    simp only [Frontier.run, h.or best, h.threads, List.isEmpty_map, hposition]
    split
    · rfl
    · exact ih (moved_ofThreads (s := ⟨position + 1, some c, rest⟩)
        (t := ⟨position + 1 + k, some c, rest⟩) ⟨rfl, rfl⟩ rfl f.threads) _ _

end Frontier

/-! ## Matches from a place -/

/-- The marks of the preferred match of the code that begins at a place, the latest first. -/
def Code.findFrom? (code : Code) (s : Spot) : Option (List Mark) :=
  Frontier.run none (.ofThreads s [⟨[.next code], []⟩]) s.position s.rest

theorem Code.find?_eq_findFrom? (code : Code) (text : List Char) :
    code.find? text = code.findFrom? (.start text) := rfl

/-- Code that does not look back finds the same in another place. -/
theorem Code.findFrom?_moved (hmoved : s.Moved k t) {code : Code} (h : code.onward = true) :
    (code.moved n).findFrom? t = (code.findFrom? s).map (List.map (Mark.moved k)) := by
  have hfirst : Frontier.Moved n k 0 (.ofThreads s [⟨[.next code], []⟩])
      (.ofThreads t [⟨[.next (code.moved n)], []⟩]) :=
    Code.moved_enter hmoved code (.inr h) (fun _ _ => Nat.zero_le _)
      (fun _ marks _ _ h => h.accept marks) Frontier.moved_empty
  rw [findFrom?, findFrom?, hmoved.position, hmoved.rest]
  exact hfirst.run none s.position s.rest

/-- A letter is found where it stands, and what comes behind it is looked for there. -/
theorem Code.findFrom?_letter {set : CharSet} {c : Char} {rest : List Char} {s : Spot}
    (hrest : s.rest = c :: rest) (h : set.contains c = true) (label : Nat) (x : Code) :
    (Code.cat (.letter label set) x).findFrom? s = x.findFrom? (s.skip [c]) := by
  have hafter : s.after.any set.contains = true := by simp [Spot.after, hrest, h]
  have hskip : s.skip [c] = ⟨s.position + 1, some c, rest⟩ := by simp [Spot.skip, hrest]
  have hfirst : Frontier.ofThreads s [⟨[.next (.cat (.letter label set) x)], []⟩] =
      { entered := 1 <<< label, threads := [⟨[.next x], []⟩] } := by
    simp [Frontier.ofThreads, Frame.resume, Code.enter, hafter, Frontier.push, Frontier.fork]
  rw [findFrom?, hfirst, hrest, Frontier.run, hskip]
  rfl

end

/-! ## The beginning of the text -/

/-- The way on which the search passes a character before it looks for code that begins where the
text does. -/
def passing (x : Code) : Thread :=
  ⟨[.again 0 false (.letter 1 .all), .next (.cat (.assertion .textStart) x)], []⟩

/-- A frontier on which the search may also pass characters before it looks for the code. -/
structure Frontier.Passes (x : Code) (f g : Frontier) : Prop where
  threads : g.threads = f.threads ∨ g.threads = passing x :: f.threads
  matched : g.matched = f.matched

/-- The search may pass the next character. -/
theorem Frontier.Passes.pass {y : Code} {f g : Frontier} (h : f.Passes y g)
    (hf : g.threads = f.threads) (s : Spot) (done : List Mark → Frontier → Frontier) :
    f.Passes y ((Code.letter 1 .all).enter s (passing y).frames done [] g) := by
  simp only [Code.enter, Frontier.push, Frontier.fork, id]
  split
  · split
    · exact h
    · exact ⟨.inr (congrArg (passing y :: ·) hf), h.matched⟩
  · exact h

/-- Behind a character the code is not found, and the search may pass one more. -/
theorem passes_resume (y : Code) {s : Spot} (hbefore : s.before.isSome) (f : Frontier) :
    f.Passes y (Frame.resume s (passing y).frames [] f) := by
  obtain ⟨c, hc⟩ := Option.isSome_iff_exists.mp hbefore
  have hnone : Assertion.textStart.holds s = false := by simp [Assertion.holds, hc]
  have hmissed (f : Frontier) :
      Frame.resume s [.next (.cat (.assertion .textStart) y)] [] f = f := by
    simp [Frame.resume, Code.enter, hnone]
  rw [passing, Frame.resume, Frontier.fork]
  split
  · exact ⟨.inl rfl, rfl⟩
  · rw [if_neg Bool.false_ne_true, hmissed]
    exact Frontier.Passes.pass (f := f) (g := { f with entered := f.entered ||| 1 <<< 0 })
      ⟨.inl rfl, rfl⟩ rfl s _

theorem Frontier.run_empty (best : Option (List Mark)) (position : Nat) (text : List Char) :
    Frontier.run best {} position text = best := by
  cases text <;> rfl

/-- The search finds the same if it may also pass characters. -/
theorem Frontier.Passes.run {y : Code} {f g : Frontier} (h : f.Passes y g)
    (best : Option (List Mark)) (position : Nat) (text : List Char) :
    Frontier.run best g position text = Frontier.run best f position text := by
  induction text generalizing f g best position with
  | nil => simp only [Frontier.run, h.matched]
  | cons c rest ih =>
    rcases h.threads with hthreads | hthreads
    · simp only [Frontier.run, h.matched, hthreads]
    · have hnext := ih (passes_resume y (s := ⟨position + 1, some c, rest⟩) rfl
        (ofThreads ⟨position + 1, some c, rest⟩ f.threads)) (f.matched.or best) (position + 1)
      simp only [Frontier.run, h.matched, hthreads, List.isEmpty_cons, Bool.false_eq_true, if_false]
      refine hnext.trans ?_
      split
      · rename_i hempty
        rw [List.isEmpty_iff.mp hempty]
        exact Frontier.run_empty _ _ _
      · rfl

/-- What begins where the text does is looked for there only. -/
theorem Code.find?_textStart (x : Expr) (text : List Char) :
    (ofExpr (anywhere (.cat (.assertion .textStart) x))).find? text = (build x 2).1.find? text := by
  have hcode : ofExpr (anywhere (.cat (.assertion .textStart) x)) =
      .cat (.star 0 false (.letter 1 .all)) (.cat (.assertion .textStart) (build x 2).1) := rfl
  have hlabels : ∀ label ∈ (build x 2).1.labels, 2 ≤ label := fun label mem =>
    ((writes_build x).between 2 label mem).1
  generalize (build x 2).1 = y at hcode hlabels
  -- The loop around the code has entered a label of its own, which the code does not ask for.
  have hentered : Frontier.Moved 0 0 2 {} { entered := 1 } := by
    refine ⟨rfl, rfl, fun label hlabel => ?_⟩
    have hone : Nat.testBit 1 label = false := by
      rw [← Nat.pow_zero 2, Nat.testBit_two_pow]
      exact decide_eq_false (by omega)
    simpa using hone
  have hfirst : Frontier.Moved 0 0 2
      (y.enter (.start text) [] (fun marks f => f.accept marks) [] {})
      ((y.moved 0).enter (.start text) [] (fun marks f => f.accept marks) [] { entered := 1 }) :=
    Code.moved_enter ⟨rfl, rfl⟩ y (.inl rfl) hlabels (fun _ marks _ _ h => h.accept marks) hentered
  rw [moved_zero] at hfirst
  have hpasses : Frontier.Passes y
      (y.enter (.start text) [] (fun marks f => f.accept marks) [] {})
      (y.enter (.start text) [] (fun marks f => f.accept marks) [] { entered := 1 }) :=
    ⟨.inl (by simpa using hfirst.threads), by simpa using hfirst.matched⟩
  have hloop : Frontier.ofThreads (.start text)
      [⟨[.next (.cat (.star 0 false (.letter 1 .all)) (.cat (.assertion .textStart) y))], []⟩] =
      (Code.letter 1 .all).enter (.start text) (passing y).frames (fun _ f => f) []
        (y.enter (.start text) [] (fun marks f => f.accept marks) [] { entered := 1 }) := by
    have hstart : Assertion.textStart.holds (.start text) = true := rfl
    simp only [Frontier.ofThreads, List.foldr_cons, List.foldr_nil, Frame.resume, Code.enter,
      hstart, Frontier.fork, passing]
    rfl
  rw [hcode, find?, hloop]
  exact (hpasses.pass (by simpa using hfirst.threads) (.start text) _).run none 0 text

/-! ## Letters before an expression -/

/-- Does the expression look at nothing that stands before the place until it has taken a character?
This is not asked of every form of expression. -/
def Expr.onward : Expr → Bool
  | .empty | .letter _ => true
  | .assertion a => !a.looksBack
  | .cat (.letter _) _ => true
  | .cat x y => x.onward && y.onward
  | .repetition 0 (some 1) _ x => x.onward
  | _ => false

theorem Code.onward_build {x : Expr} (h : x.onward = true) (label : Nat) :
    (build x label).1.onward = true := by
  induction x generalizing label with
  | empty | letter => rfl
  | assertion a => exact h
  | cat x y ihx ihy =>
    have hparts (h : (x.onward && y.onward) = true) : (build (.cat x y) label).1.onward = true := by
      obtain ⟨hx, hy⟩ := Bool.and_eq_true_iff.mp h
      simp [build, Builder.andThen, Code.onward, ihx hx, ihy hy]
    cases x with
    | letter => rfl
    | _ => exact hparts h
  | repetition min max greedy x ih =>
    obtain ⟨rfl, rfl, hx⟩ : min = 0 ∧ max = some 1 ∧ x.onward = true := by
      unfold Expr.onward at h
      grind
    exact ih hx _
  | alt | group => cases h

/-- Some letters, one for each character, and an expression behind them. -/
def Expr.behind (set : Char → CharSet) (text : List Char) (x : Expr) : Expr :=
  text.foldr (fun c x => .cat (.letter (set c)) x) x

section

variable {set : Char → CharSet} (hset : ∀ c, (set c).contains c = true)

include hset

theorem Code.findFrom?_behind (x : Expr) {text rest : List Char} {s : Spot}
    (hrest : s.rest = text ++ rest) (label : Nat) :
    (build (x.behind set text) label).1.findFrom? s =
      (build x (label + text.length)).1.findFrom? (s.skip text) := by
  induction text generalizing s label with
  | nil => rfl
  | cons c text ih =>
    have hskip : (s.skip [c]).rest = text ++ rest := Spot.rest_skip hrest
    have hlabel : label + (c :: text).length = label + 1 + text.length := by
      rw [List.length_cons]
      omega
    rw [hlabel]
    exact (Code.findFrom?_letter hrest (hset c) label _).trans (ih hskip (label + 1))

/-- An expression that does not look back is found behind some letters as it is found by itself. -/
theorem Code.find?_letters {x : Expr} (h : x.onward = true) (letters text : List Char) :
    (ofExpr (anywhere (.cat (.assertion .textStart) (x.behind set letters)))).find?
        (letters ++ text) =
      ((ofExpr (anywhere (.cat (.assertion .textStart) x))).find? text).map
        (List.map (Mark.moved letters.length)) := by
  have hrest : (Spot.start (letters ++ text)).rest = letters ++ text := rfl
  have hmoved : Spot.Moved letters.length (.start text)
      ((Spot.start (letters ++ text)).skip letters) := by
    refine ⟨?_, Spot.rest_skip hrest⟩
    rw [Spot.position_skip]
    rfl
  rw [find?_textStart, find?_textStart, find?_eq_findFrom?, find?_eq_findFrom?,
    findFrom?_behind hset x hrest, Code.uniform_build x 2 letters.length]
  exact findFrom?_moved hmoved (onward_build h 2)

end

end RouteChain.Regex
