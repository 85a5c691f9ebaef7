import RouteChain.Proofs.Regex.Forward

/-!
# What the search finds is a match

Whatever code it searches for, the search finds marks that some way to match the code sets. Which of
several ways that is, and that there is none where nothing is found, is only known of code whose
repetitions take a character in every round.

## Main definitions

* `Frame.LeadsTo` — what is left of code leads to some ways only.
* `Frontier.Grounded` — what a frontier has found and may still find are some ways only.

The main results are `Code.mem_ways_of_find?` and `Code.mem_sequenceWays_of_find?`.
-/

namespace RouteChain.Regex

open Way

/-! ## Frontiers -/

/-- From a place, with marks set before, what is left of code leads to the given ways only. -/
def Frame.LeadsTo (goal : List Way) (frames : List Frame) (marks : List Mark) (s : Spot) : Prop :=
  ∀ way ∈ Frame.ways frames s, (way.1 ++ marks, way.2) ∈ goal

/-- A frontier has found one of the given ways, if anything, and its threads lead to no others. -/
structure Frontier.Grounded (goal : List Way) (s : Spot) (f : Frontier) : Prop where
  matched : ∀ marks, f.matched = some marks → ∃ last, (marks, last) ∈ goal
  threads : ∀ thread ∈ f.threads, ∀ c rest, s.rest = c :: rest →
    Frame.LeadsTo goal thread.frames thread.marks ⟨s.position + 1, some c, rest⟩

section

variable {goal : List Way} {s : Spot}

namespace Frontier.Grounded

theorem empty : Grounded goal s {} where
  matched _ h := by cases h
  threads _ mem := by cases mem

/-- A branch keeps what both of its ways keep. -/
theorem fork {f : Frontier} (h : f.Grounded goal s) {label : Nat} {greedy : Bool}
    {more stop : Frontier → Frontier} (hmore : ∀ f, Grounded goal s f → (more f).Grounded goal s)
    (hstop : ∀ f, Grounded goal s f → (stop f).Grounded goal s) :
    (f.fork label greedy more stop).Grounded goal s := by
  have hentered : Grounded goal s { f with entered := f.entered ||| 1 <<< label } :=
    ⟨h.matched, h.threads⟩
  unfold Frontier.fork
  split
  · exact h
  · cases greedy
    · exact hmore _ (hstop _ hentered)
    · exact hstop _ (hmore _ hentered)

theorem accept {f : Frontier} (h : f.Grounded goal s) {marks : List Mark}
    (hmarks : (marks, s) ∈ goal) : (f.accept marks).Grounded goal s where
  matched other hother := by
    rcases Option.or_eq_some_iff.mp hother with hother | ⟨-, hother⟩
    · exact h.matched other hother
    · obtain rfl := Option.some.inj hother
      exact ⟨s, hmarks⟩
  threads := h.threads

theorem push {f : Frontier} (h : f.Grounded goal s) (label : Nat) {thread : Thread}
    (hthread : ∀ c rest, s.rest = c :: rest →
      Frame.LeadsTo goal thread.frames thread.marks ⟨s.position + 1, some c, rest⟩) :
    (f.push label thread).Grounded goal s := by
  refine h.fork (fun _ => id) fun f h => ⟨h.matched, fun other mem => ?_⟩
  rcases List.mem_cons.mp mem with rfl | mem
  · exact hthread
  · exact h.threads other mem

theorem mem_of_or {f : Frontier} (h : f.Grounded goal s) {best : Option (List Mark)}
    (hbest : ∀ marks, best = some marks → ∃ last, (marks, last) ∈ goal) {marks : List Mark}
    (hor : f.matched.or best = some marks) : ∃ last, (marks, last) ∈ goal := by
  rcases Option.or_eq_some_iff.mp hor with hmatched | ⟨-, hbefore⟩
  · exact h.matched marks hmatched
  · exact hbest marks hbefore

end Frontier.Grounded

/-! ## Following code -/

open Frontier (Grounded)

/-- Following code keeps a frontier grounded if what is left behind the code does: `frames` wherever
the code takes a character, and `done` where it takes none. -/
theorem Code.grounded_enter (x : Code) {frames : List Frame}
    {done : List Mark → Frontier → Frontier} {marks : List Mark} {f : Frontier}
    (h : f.Grounded goal s)
    (hframes : ∀ way ∈ x.ways s, way.2.rest.length < s.rest.length →
      Frame.LeadsTo goal frames (way.1 ++ marks) way.2)
    (hdone : ∀ inner, (inner, s) ∈ x.ways s →
      ∀ f, Grounded goal s f → (done (inner ++ marks) f).Grounded goal s) :
    (x.enter s frames done marks f).Grounded goal s := by
  induction x generalizing frames done marks f with
  | empty => exact hdone [] (List.mem_singleton.mpr rfl) f h
  | letter label set =>
    simp only [Code.enter]
    split
    · rename_i hafter
      refine h.push label fun c rest hrest => ?_
      have hset : set.contains c = true := by simpa [Spot.after, hrest] using hafter
      have hmem : ([], ⟨s.position + 1, some c, rest⟩) ∈ (Code.letter label set).ways s := by
        simp [Code.ways, CharSet.ways, hrest, hset, stay]
      exact hframes _ hmem (by simp [hrest])
    · exact h
  | assertion a =>
    simp only [Code.enter]
    split
    · rename_i holds
      refine hdone [] ?_ f h
      simp [Code.ways, Assertion.ways, holds, stay]
    · exact h
  | cat x y ihx ihy =>
    have hboth {first last : Way} (hfirst : first ∈ x.ways s) (hlast : last ∈ y.ways first.2) :
        (last.1 ++ first.1, last.2) ∈ (Code.cat x y).ways s :=
      mem_andThen.mpr ⟨first, hfirst, last, hlast, rfl⟩
    refine ihx h (fun first hfirst hshorter last hlast => ?_) fun inner hinner f h => ?_
    · obtain ⟨second, hsecond, last, hbehind, rfl⟩ := mem_andThen.mp hlast
      have hle := y.proceeds_ways _ second hsecond
      have := hframes _ (hboth hfirst hsecond) (Nat.lt_of_le_of_lt hle hshorter) last
        hbehind
      simpa using this
    · refine ihy h (fun second hsecond hshorter => ?_) fun other hother f h => ?_
      · simpa using hframes _ (hboth hinner hsecond) hshorter
      · simpa using hdone _ (hboth hinner hother) f h
  | alt label x y ihx ihy =>
    refine h.fork (fun f h => ihx h (fun way mem => hframes way (List.mem_append_left _ mem))
      fun inner mem => hdone inner (List.mem_append_left _ mem)) fun f h => ?_
    exact ihy h (fun way mem => hframes way (List.mem_append_right _ mem))
      fun inner mem => hdone inner (List.mem_append_right _ mem)
  | opt label greedy x ih =>
    refine h.fork (fun f h => ih h (fun way mem => hframes way (mem_prefer.mpr (.inl mem)))
      fun inner mem => hdone inner (mem_prefer.mpr (.inl mem))) fun f h => ?_
    exact hdone [] (mem_prefer.mpr (.inr (List.mem_singleton.mpr rfl))) f h
  | plus label greedy x ih =>
    refine ih h (fun first hfirst hshorter last hlast => ?_) fun inner hinner f h => ?_
    · obtain ⟨more, hmore, last, hbehind, rfl⟩ := mem_andThen.mp hlast
      have hmem : (more.1 ++ first.1, more.2) ∈ oneOrMore x.ways greedy s :=
        mem_andThen.mpr ⟨first, hfirst, more, by simpa [hshorter] using hmore, rfl⟩
      have hle := proceeds_rounds x.ways greedy _ more hmore
      simpa using hframes _ hmem (Nat.lt_of_le_of_lt hle hshorter) last hbehind
    · have hmem : (inner, s) ∈ oneOrMore x.ways greedy s :=
        mem_andThen.mpr ⟨(inner, s), hinner, ([], s), by simp [stay], rfl⟩
      exact h.fork (fun _ => id) (hdone inner hmem)
  | star label greedy x ih =>
    refine h.fork (fun f h => ih h (fun first hfirst hshorter last hlast => ?_)
      fun _ _ _ => id) fun f h => ?_
    · obtain ⟨more, hmore, last, hbehind, rfl⟩ := mem_andThen.mp hlast
      have hle := proceeds_rounds x.ways greedy _ more hmore
      have hmem := mem_rounds_of_round hfirst hshorter hmore
      simpa using hframes _ hmem (Nat.lt_of_le_of_lt hle hshorter) last hbehind
    · exact hdone [] (mem_rounds_stay x.ways greedy s) f h
  | group index x ih =>
    refine ih h (fun first hfirst hshorter last hlast => ?_) fun inner hinner f h => ?_
    · obtain ⟨last, hbehind, rfl⟩ := List.mem_map.mp hlast
      have hmem := List.mem_map_of_mem hfirst (f := fun way : Way =>
        (⟨index, true, way.2.position⟩ :: (way.1 ++ [⟨index, false, s.position⟩]), way.2))
      simpa using hframes _ hmem hshorter last hbehind
    · have hmem := List.mem_map_of_mem hinner (f := fun way : Way =>
        (⟨index, true, way.2.position⟩ :: (way.1 ++ [⟨index, false, s.position⟩]), way.2))
      simpa using hdone _ hmem f h

/-- Going on with what is left of code keeps a frontier grounded if all it leads to is. -/
theorem Frame.grounded_resume {frames : List Frame} {marks : List Mark} {f : Frontier}
    (h : f.Grounded goal s) (hframes : LeadsTo goal frames marks s) :
    (resume s frames marks f).Grounded goal s := by
  induction frames generalizing marks f with
  | nil => exact h.accept (hframes _ (List.mem_singleton.mpr rfl))
  | cons frame frames ih =>
    cases frame with
    | next x =>
      have hbehind {first : Way} (hfirst : first ∈ x.ways s) :
          LeadsTo goal frames (first.1 ++ marks) first.2 := fun last hlast => by
        simpa using hframes _ (mem_andThen.mpr ⟨first, hfirst, last, hlast, rfl⟩)
      exact x.grounded_enter h (fun first hfirst _ => hbehind hfirst)
        fun inner hinner f h => ih h (hbehind hinner)
    | close index =>
      refine ih h fun last hlast => ?_
      have hmem := List.mem_map_of_mem hlast (f := fun way : Way =>
        (way.1 ++ [(⟨index, true, s.position⟩ : Mark)], way.2))
      simpa using hframes _ hmem
    | again label greedy x =>
      refine h.fork (fun f h => x.grounded_enter h (fun first hfirst hshorter last hlast => ?_)
        fun _ _ _ => id) fun f h => ih h fun last hlast => ?_
      · obtain ⟨more, hmore, last, hbehind, rfl⟩ := mem_andThen.mp hlast
        have hmem := mem_rounds_of_round hfirst hshorter hmore
        simpa using hframes _ (mem_andThen.mpr ⟨_, hmem, last, hbehind, rfl⟩)
      · have hmem := mem_rounds_stay x.ways greedy s
        simpa using hframes _ (mem_andThen.mpr ⟨_, hmem, last, hlast, rfl⟩)

/-! ## The search -/

/-- The threads that have reached a place keep to the given ways if each of them does. -/
theorem Frontier.grounded_ofThreads {threads : List Thread}
    (h : ∀ thread ∈ threads, Frame.LeadsTo goal thread.frames thread.marks s) :
    (ofThreads s threads).Grounded goal s := by
  induction threads with
  | nil => exact .empty
  | cons thread threads ih =>
    exact Frame.grounded_resume (ih fun other mem => h other (List.mem_cons_of_mem _ mem))
      (h thread List.mem_cons_self)

/-- What the search finds is one of the ways that its frontier is grounded in. -/
theorem Frontier.mem_of_run {best : Option (List Mark)} {f : Frontier} (h : f.Grounded goal s)
    (hbest : ∀ marks, best = some marks → ∃ last, (marks, last) ∈ goal) {marks : List Mark}
    (hrun : run best f s.position s.rest = some marks) : ∃ last, (marks, last) ∈ goal := by
  obtain ⟨position, before, rest⟩ := s
  induction rest generalizing best f position before with
  | nil => exact h.mem_of_or hbest hrun
  | cons c rest ih =>
    simp only [run] at hrun
    split at hrun
    · exact h.mem_of_or hbest hrun
    · have hnext : (ofThreads ⟨position + 1, some c, rest⟩ f.threads).Grounded goal
          ⟨position + 1, some c, rest⟩ :=
        grounded_ofThreads fun thread mem => h.threads thread mem c rest rfl
      exact ih (fun marks => h.mem_of_or hbest) (position + 1) (some c) hnext hrun

end

/-- What the search finds are the marks of a way to match the code. -/
theorem Code.mem_ways_of_find? {code : Code} {text : List Char} {marks : List Mark}
    (h : code.find? text = some marks) : ∃ last, (marks, last) ∈ code.ways (.start text) := by
  have hstart : (Frontier.ofThreads (.start text) [⟨[.next code], []⟩]).Grounded
      (code.ways (.start text)) (.start text) := by
    refine Frontier.grounded_ofThreads fun thread mem way hway => ?_
    obtain rfl := List.mem_singleton.mp mem
    simpa [Frame.ways] using hway
  exact Frontier.mem_of_run hstart (by simp) h

/-- What the search finds of an expression that begins where the text does are the marks of a way to
match it there. -/
theorem Code.mem_sequenceWays_of_find? {x : Expr} {parts : List Expr} {text : List Char}
    {marks : List Mark} (hx : x.ways = sequenceWays (.assertion .textStart :: parts))
    (h : (ofExpr (anywhere x)).find? text = some marks) :
    ∃ last, (marks, last) ∈ sequenceWays parts (.start text) := by
  obtain ⟨last, mem⟩ := mem_ways_of_find? h
  rw [ofExpr, (writes_build _).ways_eq, ways_anywhere hx] at mem
  exact ⟨last, mem⟩

end RouteChain.Regex
