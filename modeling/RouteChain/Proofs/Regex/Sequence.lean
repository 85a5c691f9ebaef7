import RouteChain.Proofs.Regex.Building

/-!
# Sequences of expressions

What holds of the parts of an expression holds of their sequence.

## Main definitions

* `sequenceWays` — the ways to match some expressions one after another.
* `Expr.sequence` — the sequence of some expressions in normal form.

The main result is `Code.find?_anywhere`: an expression that begins where the text does is found
there or nowhere.
-/

namespace RouteChain.Regex

open Way

/-! ## Ways -/

def sequenceWays : List Expr → Spot → List Way
  | [], s => stay s
  | x :: xs, s => andThen (x.ways s) (sequenceWays xs)

theorem sequenceWays_append (xs ys : List Expr) (s : Spot) :
    sequenceWays (xs ++ ys) s = andThen (sequenceWays xs s) (sequenceWays ys) := by
  induction xs generalizing s with
  | nil => simp [sequenceWays]
  | cons x xs ih =>
    simp only [List.cons_append, sequenceWays, andThen_assoc]
    exact andThen_congr fun way _ => ih way.2

theorem sequenceWays_singleton (x : Expr) (s : Spot) : sequenceWays [x] s = x.ways s :=
  andThen_stay (x.ways s)

theorem foldr_max_append (xs ys : List Nat) :
    (xs ++ ys).foldr max 0 = max (xs.foldr max 0) (ys.foldr max 0) := by
  induction xs with
  | nil => simp
  | cons x xs ih => rw [List.cons_append, List.foldr_cons, ih, List.foldr_cons, Nat.max_assoc]

namespace Expr

theorem ofParts_cons_cons (x y : Expr) (xs : List Expr) :
    ofParts (x :: y :: xs) = .cat x (ofParts (y :: xs)) := rfl

theorem ways_ofParts (xs : List Expr) : (ofParts xs).ways = sequenceWays xs := by
  induction xs with
  | nil => rfl
  | cons x xs ih =>
    funext s
    cases xs with
    | nil => exact (sequenceWays_singleton x s).symm
    | cons y xs =>
      rw [ofParts_cons_cons, Expr.ways, ih]
      rfl

theorem steady_ofParts {xs : List Expr} (h : ∀ x ∈ xs, x.Steady) : (ofParts xs).Steady := by
  induction xs with
  | nil => trivial
  | cons x xs ih =>
    have hrest := ih fun y mem => h y (List.mem_cons_of_mem x mem)
    cases xs with
    | nil => exact h x List.mem_cons_self
    | cons y xs => exact ⟨h x List.mem_cons_self, hrest⟩

/-- A sequence takes as much room as its parts. -/
theorem weight_ofParts {xs : List Expr} (h : xs ≠ []) :
    (ofParts xs).weight = (xs.map weight).sum := by
  induction xs with
  | nil => exact absurd rfl h
  | cons x xs ih =>
    cases xs with
    | nil => simp [ofParts]
    | cons y xs =>
      rw [ofParts_cons_cons, weight, ih (List.cons_ne_nil y xs)]
      rfl

theorem groupCount_ofParts (xs : List Expr) :
    (ofParts xs).groupCount = (xs.map groupCount).foldr max 0 := by
  induction xs with
  | nil => rfl
  | cons x xs ih =>
    cases xs with
    | nil => simp [ofParts]
    | cons y xs =>
      rw [ofParts_cons_cons, groupCount, ih]
      rfl

/-- Is the expression neither empty nor a sequence? -/
def isPart : Expr → Bool
  | .empty | .cat _ _ => false
  | _ => true

/-- One part before others makes a sequence. -/
theorem append_ofParts {x : Expr} (h : x.isPart = true) {xs : List Expr}
    (hxs : ∀ y ∈ xs, y.isPart = true) : x.append (ofParts xs) = ofParts (x :: xs) := by
  cases xs with
  | nil => cases x <;> first | rfl | cases h
  | cons y xs =>
    rw [ofParts_cons_cons]
    have hy := hxs y List.mem_cons_self
    have hne : ofParts (y :: xs) ≠ .empty := by
      cases xs with
      | nil => rintro rfl; cases hy
      | cons z xs => exact Expr.noConfusion
    cases x <;> grind [append, isPart]

/-! ## Normal form -/

theorem append_empty (x : Expr) : x.append .empty = x := by
  induction x with
  | cat x y _ ih => simp only [append, ih]
  | _ => rfl

theorem ways_append (x y : Expr) : (x.append y).ways = fun s => andThen (x.ways s) y.ways := by
  have hplain (x : Expr) (hx : x.append y = if y = .empty then x else .cat x y) :
      (x.append y).ways = fun s => andThen (x.ways s) y.ways := by
    funext s
    rw [hx]
    split
    · rename_i hy
      subst hy
      exact (andThen_stay _).symm
    · rfl
  induction x with
  | empty =>
    funext s
    exact (stay_andThen s y.ways).symm
  | cat x x' _ ih =>
    funext s
    simp only [append, Expr.ways, ih, andThen_assoc]
  | _ => exact hplain _ (by cases y <;> rfl)

/-- The sequence of some expressions. Those that are empty or sequences dissolve in it. -/
def sequence (xs : List Expr) : Expr :=
  xs.foldr append .empty

theorem sequence_singleton (x : Expr) : sequence [x] = x :=
  append_empty x

theorem ways_sequence (xs : List Expr) : (sequence xs).ways = sequenceWays xs := by
  induction xs with
  | nil => rfl
  | cons x xs ih =>
    funext s
    rw [sequenceWays, ← ih, sequence, List.foldr_cons, ways_append]
    rfl

theorem sequence_eq_ofParts {xs : List Expr} (h : ∀ x ∈ xs, x.isPart = true) :
    sequence xs = ofParts xs := by
  induction xs with
  | nil => rfl
  | cons x xs ih =>
    have hrest := fun y mem => h y (List.mem_cons_of_mem x mem)
    rw [← append_ofParts (h x List.mem_cons_self) hrest, ← ih hrest]
    rfl

end Expr

/-! ## Searching anywhere -/

/-- The text begins at its first place. -/
theorem sequenceWays_textStart (parts : List Expr) (text : List Char) :
    sequenceWays (.assertion .textStart :: parts) (.start text) =
      sequenceWays parts (.start text) := by
  simp [sequenceWays, Expr.ways, Assertion.ways, Assertion.holds, Spot.start]

/-- Behind a character the text does not begin. -/
theorem before_rounds {set : CharSet} (greedy : Bool) {s : Spot} {way : Way}
    (h : way ∈ andThen (set.ways s) (rounds set.ways greedy)) : way.2.before.isSome := by
  induction hlength : s.rest.length using Nat.strongRecOn generalizing s way with
  | ind length ih =>
    obtain ⟨first, hfirst, last, hlast, rfl⟩ := mem_andThen.mp h
    have hshorter := set.advances_ways s first hfirst
    have hbefore : first.2.before.isSome := by
      unfold CharSet.ways at hfirst
      split at hfirst
      · cases hfirst
      · split at hfirst
        · rw [List.mem_singleton.mp hfirst]
          rfl
        · cases hfirst
    rw [rounds_of_advances greedy (set.advances_ways first.2)] at hlast
    change last.2.before.isSome
    rcases mem_prefer.mp hlast with hmem | hmem
    · exact ih first.2.rest.length (by omega) hmem rfl
    · rw [List.mem_singleton.mp hmem]
      exact hbefore

/-- What begins where the text does is matched there or nowhere. -/
theorem ways_anywhere {x : Expr} {parts : List Expr}
    (hx : x.ways = sequenceWays (.assertion .textStart :: parts)) (text : List Char) :
    (anywhere x).ways (.start text) = sequenceWays parts (.start text) := by
  have hlater : andThen (andThen (CharSet.all.ways (.start text)) (rounds CharSet.all.ways false))
      (sequenceWays (.assertion .textStart :: parts)) = [] := by
    refine List.eq_nil_iff_forall_not_mem.mpr fun way mem => ?_
    obtain ⟨first, hfirst, last, hlast, -⟩ := mem_andThen.mp mem
    have hbefore := before_rounds false hfirst
    simp [sequenceWays, Expr.ways, Assertion.ways, Assertion.holds,
      Option.isSome_iff_ne_none.mp hbefore] at hlast
  have hletter : (Expr.letter .all).ways = CharSet.all.ways := rfl
  rw [anywhere, Expr.ways, Expr.ways, hx, hletter,
    repeated_eq_rounds false (CharSet.all.advances_ways),
    rounds_of_advances false (CharSet.all.advances_ways _)]
  simp [prefer, hlater, sequenceWays_textStart]

/-- What begins where the text does is found there or nowhere. -/
theorem Code.find?_anywhere {parts : List Expr} (steady : ∀ x ∈ parts, x.Steady)
    (text : List Char) :
    (ofExpr (anywhere (.ofParts (.assertion .textStart :: parts)))).find? text =
      (sequenceWays parts (.start text)).head?.map Prod.fst := by
  have hsteady : (anywhere (.ofParts (.assertion .textStart :: parts))).Steady := by
    refine ⟨⟨fun _ => rfl, trivial⟩, Expr.steady_ofParts fun x mem => ?_⟩
    rcases List.mem_cons.mp mem with rfl | mem
    · trivial
    · exact steady x mem
  rw [find?_ofExpr hsteady, ways_anywhere (Expr.ways_ofParts _)]

end RouteChain.Regex
