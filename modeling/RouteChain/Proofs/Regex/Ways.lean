import Mathlib.Data.List.Basic
import RouteChain.Regex.Search

/-!
# Ways to match

What an expression matches from a place of a text, as the list of all ways in which it can, the
preferred way first. The match that a search is to find is the first way on which all of the
expression is matched.

## Main definitions

* `Way` — the marks set on a way, the latest first, and the place where it ends.
* `Way.andThen` — ways that are continued from where they end.
* `Way.rounds`, `Way.repeated` — ways to match something again and again.
* `Expr.ways`, `Code.ways`, `Frame.ways` — the ways of expressions, of code, and of what is left of
  code.
-/

namespace RouteChain.Regex

/-- A way to match: the marks that are set on it, the latest first, and the place where it ends. -/
abbrev Way := List Mark × Spot

namespace Way

/-! ## One thing after another -/

/-- Ways that are continued from where they end. -/
def andThen (ways : List Way) (next : Spot → List Way) : List Way :=
  ways.flatMap (fun way => (next way.2).map (fun last => (last.1 ++ way.1, last.2)))

def stay (s : Spot) : List Way := [([], s)]

@[simp] theorem nil_andThen (next : Spot → List Way) : andThen [] next = [] := rfl

@[simp] theorem cons_andThen (way : Way) (ways : List Way) (next : Spot → List Way) :
    andThen (way :: ways) next =
      (next way.2).map (fun last => (last.1 ++ way.1, last.2)) ++ andThen ways next := rfl

@[simp] theorem append_andThen (ways others : List Way) (next : Spot → List Way) :
    andThen (ways ++ others) next = andThen ways next ++ andThen others next :=
  List.flatMap_append

@[simp] theorem stay_andThen (s : Spot) (next : Spot → List Way) :
    andThen (stay s) next = next s := by
  simp [stay]

@[simp] theorem andThen_stay (ways : List Way) : andThen ways stay = ways := by
  induction ways with
  | nil => rfl
  | cons way ways ih => simp [ih, stay]

theorem andThen_assoc (ways : List Way) (next last : Spot → List Way) :
    andThen (andThen ways next) last = andThen ways (fun s => andThen (next s) last) := by
  simp only [andThen, List.flatMap_assoc, List.flatMap_map, List.map_flatMap, List.map_map]
  simp [Function.comp_def]

theorem andThen_congr {ways : List Way} {next other : Spot → List Way}
    (h : ∀ way ∈ ways, next way.2 = other way.2) : andThen ways next = andThen ways other := by
  simp only [andThen]
  exact List.flatMap_congr fun way mem => by rw [h way mem]

theorem mem_andThen {ways : List Way} {next : Spot → List Way} {way : Way} :
    way ∈ andThen ways next ↔
      ∃ first ∈ ways, ∃ last ∈ next first.2, (last.1 ++ first.1, last.2) = way := by
  simp [andThen]

/-! ## Again and again -/

/-- Of two kinds of ways, those that match more come first if `greedy`, and last if not. -/
def prefer (greedy : Bool) (more fewer : List Way) : List Way :=
  if greedy then more ++ fewer else fewer ++ more

theorem mem_prefer {greedy : Bool} {more fewer : List Way} {way : Way} :
    way ∈ prefer greedy more fewer ↔ way ∈ more ∨ way ∈ fewer := by
  cases greedy <;> simp [prefer, or_comm]

theorem prefer_andThen (greedy : Bool) (more fewer : List Way) (next : Spot → List Way) :
    andThen (prefer greedy more fewer) next =
      prefer greedy (andThen more next) (andThen fewer next) := by
  cases greedy <;> simp [prefer]

/-- The ways to match some rounds of a body, each of which takes a character, from a place with so
many characters ahead. -/
def roundsFrom (body : Spot → List Way) (greedy : Bool) : (ahead : Nat) → Spot → List Way
  | 0, s => stay s
  | ahead + 1, s =>
    prefer greedy
      (andThen ((body s).filter (fun way => way.2.rest.length < s.rest.length))
        (roundsFrom body greedy ahead))
      (stay s)

/-- The ways to match any number of rounds of a body, each of which takes a character. -/
def rounds (body : Spot → List Way) (greedy : Bool) (s : Spot) : List Way :=
  roundsFrom body greedy s.rest.length s

/-- At the end of a text there is nothing that a round could take. -/
theorem roundsFrom_of_length_eq_zero (body : Spot → List Way) (greedy : Bool) (ahead : Nat)
    {s : Spot} (h : s.rest.length = 0) : roundsFrom body greedy ahead s = stay s := by
  cases ahead with
  | zero => rfl
  | succ ahead => cases greedy <;> simp [roundsFrom, h, prefer]

/-- It does not matter how many characters more are counted than there are ahead. -/
theorem roundsFrom_eq (body : Spot → List Way) (greedy : Bool) (ahead other : Nat) (s : Spot)
    (h : s.rest.length ≤ ahead) (h' : s.rest.length ≤ other) :
    roundsFrom body greedy ahead s = roundsFrom body greedy other s := by
  induction ahead generalizing other s with
  | zero =>
    rw [roundsFrom_of_length_eq_zero _ _ _ (by omega),
      roundsFrom_of_length_eq_zero _ _ _ (by omega)]
  | succ ahead ih =>
    cases other with
    | zero =>
      rw [roundsFrom_of_length_eq_zero _ _ _ (by omega),
        roundsFrom_of_length_eq_zero _ _ _ (by omega)]
    | succ other =>
      simp only [roundsFrom]
      congr 1
      refine andThen_congr fun way mem => ?_
      have shorter : way.2.rest.length < s.rest.length := by
        simpa using (List.mem_filter.mp mem).2
      exact ih other way.2 (by omega) (by omega)

/-- Some rounds are one round with some more, or none. -/
theorem rounds_eq (body : Spot → List Way) (greedy : Bool) (s : Spot) :
    rounds body greedy s =
      prefer greedy
        (andThen ((body s).filter (fun way => way.2.rest.length < s.rest.length))
          (rounds body greedy))
        (stay s) := by
  rw [rounds, roundsFrom_eq body greedy _ (s.rest.length + 1) s (Nat.le_refl _) (by omega),
    roundsFrom]
  congr 1
  refine andThen_congr fun way mem => ?_
  have shorter : way.2.rest.length < s.rest.length := by
    simpa using (List.mem_filter.mp mem).2
  exact roundsFrom_eq body greedy _ _ _ (by omega) (Nat.le_refl _)

theorem mem_rounds_stay (body : Spot → List Way) (greedy : Bool) (s : Spot) :
    ([], s) ∈ rounds body greedy s := by
  rw [rounds_eq]
  exact mem_prefer.mpr (.inr (List.mem_singleton.mpr rfl))

/-- A round that takes a character, with rounds behind it, is among the rounds. -/
theorem mem_rounds_of_round {body : Spot → List Way} {greedy : Bool} {s : Spot} {first last : Way}
    (hfirst : first ∈ body s) (hshorter : first.2.rest.length < s.rest.length)
    (hlast : last ∈ rounds body greedy first.2) :
    (last.1 ++ first.1, last.2) ∈ rounds body greedy s := by
  have hround : first ∈ (body s).filter (fun way => way.2.rest.length < s.rest.length) :=
    List.mem_filter.mpr ⟨hfirst, decide_eq_true hshorter⟩
  rw [rounds_eq]
  exact mem_prefer.mpr (.inl (mem_andThen.mpr ⟨first, hround, last, hlast, rfl⟩))

/-- The ways to match a body and then some rounds of it. A body that took nothing is not matched
again. -/
def oneOrMore (body : Spot → List Way) (greedy : Bool) (s : Spot) : List Way :=
  andThen (body s) (fun after =>
    if after.rest.length < s.rest.length then rounds body greedy after else stay after)

def times (body : Spot → List Way) : (count : Nat) → Spot → List Way
  | 0, s => stay s
  | count + 1, s => andThen (body s) (times body count)

def upTo (body : Spot → List Way) (greedy : Bool) : (count : Nat) → Spot → List Way
  | 0, s => stay s
  | count + 1, s => prefer greedy (andThen (body s) (upTo body greedy count)) (stay s)

def repeated (body : Spot → List Way) (greedy : Bool) : (min : Nat) → (max : Option Nat) → Spot →
    List Way
  | 0, none, s => prefer greedy (oneOrMore body greedy s) (stay s)
  | min + 1, none, s => andThen (times body min s) (oneOrMore body greedy)
  | min, some max, s => andThen (times body min s) (upTo body greedy (max - min))

/-! ## Marks -/

/-- Ways to match what a group encloses, from the place where it begins. -/
def enclose (index : Nat) (s : Spot) (ways : List Way) : List Way :=
  ways.map (fun way =>
    (⟨index, true, way.2.position⟩ :: (way.1 ++ [⟨index, false, s.position⟩]), way.2))

end Way

open Way

def CharSet.ways (set : CharSet) (s : Spot) : List Way :=
  match s.rest with
  | [] => []
  | c :: rest => if set.contains c then stay ⟨s.position + 1, some c, rest⟩ else []

def Assertion.ways (a : Assertion) (s : Spot) : List Way :=
  if a.holds s then stay s else []

/-! ## Expressions and code -/

def Expr.ways : Expr → Spot → List Way
  | .empty, s => stay s
  | .letter set, s => set.ways s
  | .assertion a, s => a.ways s
  | .cat x y, s => andThen (x.ways s) y.ways
  | .alt x y, s => x.ways s ++ y.ways s
  | .repetition min max greedy x, s => Way.repeated x.ways greedy min max s
  | .group index x, s => enclose index s (x.ways s)

def Code.ways : Code → Spot → List Way
  | .empty, s => stay s
  | .letter _ set, s => set.ways s
  | .assertion a, s => a.ways s
  | .cat x y, s => andThen (x.ways s) y.ways
  | .alt _ x y, s => x.ways s ++ y.ways s
  | .opt _ greedy x, s => prefer greedy (x.ways s) (stay s)
  | .plus _ greedy x, s => oneOrMore x.ways greedy s
  | .star _ greedy x, s => rounds x.ways greedy s
  | .group index x, s => enclose index s (x.ways s)

def Frame.ways : List Frame → Spot → List Way
  | [], s => stay s
  | .next x :: frames, s => andThen (x.ways s) (ways frames)
  | .close index :: frames, s =>
    (ways frames s).map (fun way => (way.1 ++ [⟨index, true, s.position⟩], way.2))
  | .again _ greedy x :: frames, s => andThen (rounds x.ways greedy s) (ways frames)

/-! ## What is taken -/

namespace Way

/-- Every way ends behind the place. -/
def Advances (s : Spot) (ways : List Way) : Prop :=
  ∀ way ∈ ways, way.2.rest.length < s.rest.length

/-- No way ends before the place. -/
def Proceeds (s : Spot) (ways : List Way) : Prop :=
  ∀ way ∈ ways, way.2.rest.length ≤ s.rest.length

theorem Advances.proceeds {s : Spot} {ways : List Way} (h : Advances s ways) : Proceeds s ways :=
  fun way mem => Nat.le_of_lt (h way mem)

theorem proceeds_stay (s : Spot) : Proceeds s (stay s) := by
  simp [Proceeds, stay]

theorem Proceeds.prefer {s : Spot} {more fewer : List Way} (greedy : Bool) (h : Proceeds s more)
    (h' : Proceeds s fewer) : Proceeds s (prefer greedy more fewer) := by
  intro way mem
  exact (mem_prefer.mp mem).elim (h way) (h' way)

theorem Proceeds.andThen {s : Spot} {ways : List Way} {next : Spot → List Way} (h : Proceeds s ways)
    (h' : ∀ other, Proceeds other (next other)) : Proceeds s (andThen ways next) := by
  intro way mem
  obtain ⟨first, hfirst, last, hlast, rfl⟩ := mem_andThen.mp mem
  exact Nat.le_trans (h' first.2 last hlast) (h first hfirst)

theorem Advances.andThen {s : Spot} {ways : List Way} {next : Spot → List Way} (h : Advances s ways)
    (h' : ∀ other, Proceeds other (next other)) : Advances s (andThen ways next) := by
  intro way mem
  obtain ⟨first, hfirst, last, hlast, rfl⟩ := mem_andThen.mp mem
  exact Nat.lt_of_le_of_lt (h' first.2 last hlast) (h first hfirst)

theorem Proceeds.andThen_advances {s : Spot} {ways : List Way} {next : Spot → List Way}
    (h : Proceeds s ways) (h' : ∀ other, Advances other (next other)) :
    Advances s (Way.andThen ways next) := by
  intro way mem
  obtain ⟨first, hfirst, last, hlast, rfl⟩ := mem_andThen.mp mem
  exact Nat.lt_of_lt_of_le (h' first.2 last hlast) (h first hfirst)

theorem proceeds_rounds (body : Spot → List Way) (greedy : Bool) (s : Spot) :
    Proceeds s (rounds body greedy s) := by
  induction hlength : s.rest.length using Nat.strongRecOn generalizing s with
  | ind length ih =>
    rw [rounds_eq]
    refine Proceeds.prefer greedy (fun way mem => ?_) (proceeds_stay s)
    obtain ⟨first, hfirst, last, hlast, rfl⟩ := mem_andThen.mp mem
    have shorter : first.2.rest.length < s.rest.length := by
      simpa using (List.mem_filter.mp hfirst).2
    have := ih _ (by omega) first.2 rfl last hlast
    exact Nat.le_trans this (Nat.le_of_lt shorter)

/-- Where every round takes a character no round has to be left out. -/
theorem rounds_of_advances {body : Spot → List Way} {s : Spot} (greedy : Bool)
    (h : Advances s (body s)) :
    rounds body greedy s = prefer greedy (andThen (body s) (rounds body greedy)) (stay s) := by
  rw [rounds_eq, List.filter_eq_self.mpr (by simpa [Advances] using h)]

theorem oneOrMore_of_advances {body : Spot → List Way} {s : Spot} (greedy : Bool)
    (h : Advances s (body s)) :
    oneOrMore body greedy s = andThen (body s) (rounds body greedy) :=
  andThen_congr fun way mem => if_pos (h way mem)

/-- Where every round takes a character, repeating without bound is matching some rounds. -/
theorem repeated_eq_rounds {body : Spot → List Way} (greedy : Bool)
    (h : ∀ s, Advances s (body s)) : Way.repeated body greedy 0 none = rounds body greedy := by
  funext s
  rw [rounds_of_advances greedy (h s), Way.repeated, oneOrMore_of_advances greedy (h s)]

theorem repeated_zero_one (body : Spot → List Way) (greedy : Bool) :
    Way.repeated body greedy 0 (some 1) = fun s => prefer greedy (body s) (stay s) := by
  funext s
  simp [Way.repeated, times, upTo]

theorem repeated_one_none (body : Spot → List Way) (greedy : Bool) :
    Way.repeated body greedy 1 none = oneOrMore body greedy := by
  funext s
  simp [Way.repeated, times]

theorem proceeds_oneOrMore {body : Spot → List Way} {s : Spot} (greedy : Bool)
    (h : Proceeds s (body s)) : Proceeds s (oneOrMore body greedy s) := by
  refine Proceeds.andThen h fun other => ?_
  split
  · exact proceeds_rounds body greedy other
  · exact proceeds_stay other

end Way

theorem CharSet.advances_ways (set : CharSet) (s : Spot) : Advances s (set.ways s) := by
  intro way mem
  unfold CharSet.ways at mem
  split at mem
  · simp at mem
  · rename_i c rest hrest
    split at mem
    · simp only [stay, List.mem_singleton] at mem
      simp [mem, hrest]
    · simp at mem

namespace Code

theorem proceeds_ways (x : Code) (s : Spot) : Proceeds s (x.ways s) := by
  induction x generalizing s with
  | empty => exact proceeds_stay s
  | letter label set => exact (set.advances_ways s).proceeds
  | assertion a =>
    simp only [Code.ways, Assertion.ways]
    split
    · exact proceeds_stay s
    · simp [Proceeds]
  | cat x y ihx ihy => exact (ihx s).andThen ihy
  | alt label x y ihx ihy =>
    intro way mem
    exact (List.mem_append.mp mem).elim (ihx s way) (ihy s way)
  | opt label greedy x ih => exact (ih s).prefer greedy (proceeds_stay s)
  | plus label greedy x ih => exact proceeds_oneOrMore greedy (ih s)
  | star label greedy x => exact proceeds_rounds _ greedy s
  | group index x ih =>
    intro way mem
    obtain ⟨inner, hinner, rfl⟩ := List.mem_map.mp mem
    exact ih s inner hinner

def consumes : Code → Bool
  | .empty | .assertion _ | .opt _ _ _ | .star _ _ _ => false
  | .letter _ _ => true
  | .cat x y => x.consumes || y.consumes
  | .alt _ x y => x.consumes && y.consumes
  | .plus _ _ x | .group _ x => x.consumes

theorem advances_ways {x : Code} (h : x.consumes = true) (s : Spot) : Advances s (x.ways s) := by
  induction x generalizing s with
  | empty | assertion | opt | star => simp [consumes] at h
  | letter label set => exact set.advances_ways s
  | cat x y ihx ihy =>
    rcases (Bool.or_eq_true _ _).mp h with hx | hy
    · exact (ihx hx s).andThen y.proceeds_ways
    · exact (x.proceeds_ways s).andThen_advances (ihy hy)
  | alt label x y ihx ihy =>
    obtain ⟨hx, hy⟩ := (Bool.and_eq_true _ _).mp h
    intro way mem
    exact (List.mem_append.mp mem).elim (ihx hx s way) (ihy hy s way)
  | plus label greedy x ih =>
    rw [Code.ways, oneOrMore_of_advances greedy (ih h s)]
    exact (ih h s).andThen (proceeds_rounds _ greedy)
  | group index x ih =>
    intro way mem
    obtain ⟨inner, hinner, rfl⟩ := List.mem_map.mp mem
    exact ih h s inner hinner

end Code

end RouteChain.Regex
