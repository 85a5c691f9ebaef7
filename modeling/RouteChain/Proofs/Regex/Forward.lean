import RouteChain.Proofs.Regex.Sequence

/-!
# Ways go forward

A way to match ends behind characters that stand after the place where it begins, and sets marks
only for the groups of its expression.

## Main definitions

* `Spot.skip` — the place behind some characters.
* `Way.Chained` — what staying where one is keeps, and going on from where one came to.
* `Expr.groups` — the indices of the groups of an expression.

The main results are `Expr.skip_of_mem_ways` and `Expr.index_of_mem_ways`.
-/

namespace RouteChain.Regex

open Way

/-! ## Places -/

/-- The place behind some characters, if they stand there. -/
def Spot.skip : List Char → Spot → Spot
  | [], s => s
  | c :: cs, s => skip cs ⟨s.position + 1, some c, s.rest.tail⟩

namespace Spot

theorem skip_append (text other : List Char) (s : Spot) :
    s.skip (text ++ other) = (s.skip text).skip other := by
  induction text generalizing s with
  | nil => rfl
  | cons c text ih => exact ih _

theorem position_skip (text : List Char) (s : Spot) :
    (s.skip text).position = s.position + text.length := by
  induction text generalizing s with
  | nil => rfl
  | cons c text ih =>
    simp only [skip, ih, List.length_cons]
    omega

theorem rest_skip {text rest : List Char} {s : Spot} (h : s.rest = text ++ rest) :
    (s.skip text).rest = rest := by
  induction text generalizing s with
  | nil => exact h
  | cons c text ih => exact ih (by simp [h])

end Spot

/-! ## What is kept along a way -/

namespace Way

/-- A property of ways that is kept by staying where one is and by going on from where one came
to. -/
structure Chained (property : Spot → Way → Prop) : Prop where
  stay : ∀ s, property s ([], s)
  andThen : ∀ {s : Spot} {first last : Way}, property s first → property first.2 last →
    property s (last.1 ++ first.1, last.2)

namespace Chained

variable {property : Spot → Way → Prop} {body : Spot → List Way} {s : Spot} {way : Way}

theorem of_mem_stay (h : Chained property) (mem : way ∈ Way.stay s) : property s way := by
  rw [List.mem_singleton.mp mem]
  exact h.stay s

theorem of_mem_andThen (h : Chained property) {ways : List Way} {next : Spot → List Way}
    (hways : ∀ first ∈ ways, property s first)
    (hnext : ∀ first ∈ ways, ∀ last ∈ next first.2, property first.2 last)
    (mem : way ∈ Way.andThen ways next) : property s way := by
  obtain ⟨first, hfirst, last, hlast, rfl⟩ := mem_andThen.mp mem
  exact h.andThen (hways first hfirst) (hnext first hfirst last hlast)

theorem of_mem_prefer {greedy : Bool} {more fewer : List Way}
    (hmore : ∀ way ∈ more, property s way) (hfewer : ∀ way ∈ fewer, property s way)
    (mem : way ∈ prefer greedy more fewer) : property s way :=
  (mem_prefer.mp mem).elim (hmore way) (hfewer way)

variable (h : Chained property) (hbody : ∀ s, ∀ way ∈ body s, property s way)

include h hbody

theorem of_mem_rounds {greedy : Bool} (mem : way ∈ rounds body greedy s) : property s way := by
  induction hlength : s.rest.length using Nat.strongRecOn generalizing s way with
  | ind length ih =>
    rw [rounds_eq] at mem
    refine of_mem_prefer (fun way mem => ?_) (fun way => h.of_mem_stay) mem
    refine h.of_mem_andThen (fun first hfirst => hbody s first (List.mem_filter.mp hfirst).1)
      (fun first hfirst last hlast => ?_) mem
    have hshorter : first.2.rest.length < s.rest.length := by
      simpa using (List.mem_filter.mp hfirst).2
    exact ih _ (by omega) hlast rfl

theorem of_mem_oneOrMore {greedy : Bool} (mem : way ∈ oneOrMore body greedy s) :
    property s way := by
  refine h.of_mem_andThen (hbody s) (fun first _ last hlast => ?_) mem
  split at hlast
  · exact of_mem_rounds h hbody hlast
  · exact h.of_mem_stay hlast

theorem of_mem_times {count : Nat} (mem : way ∈ times body count s) : property s way := by
  induction count generalizing s way with
  | zero => exact h.of_mem_stay mem
  | succ count ih => exact h.of_mem_andThen (hbody s) (fun _ _ _ hlast => ih hlast) mem

theorem of_mem_upTo {greedy : Bool} {count : Nat} (mem : way ∈ upTo body greedy count s) :
    property s way := by
  induction count generalizing s way with
  | zero => exact h.of_mem_stay mem
  | succ count ih =>
    refine of_mem_prefer (fun way mem => ?_) (fun way => h.of_mem_stay) mem
    exact h.of_mem_andThen (hbody s) (fun _ _ _ hlast => ih hlast) mem

theorem of_mem_repeated {greedy : Bool} {min : Nat} {max : Option Nat}
    (mem : way ∈ Way.repeated body greedy min max s) : property s way := by
  cases max with
  | none =>
    cases min with
    | zero =>
      exact of_mem_prefer (fun way => of_mem_oneOrMore h hbody) (fun way => h.of_mem_stay) mem
    | succ min =>
      exact h.of_mem_andThen (fun _ => of_mem_times h hbody)
        (fun _ _ _ => of_mem_oneOrMore h hbody) mem
  | some max =>
    rw [Way.repeated] at mem
    exact h.of_mem_andThen (fun _ => of_mem_times h hbody) (fun _ _ _ => of_mem_upTo h hbody) mem

end Chained

end Way

/-! ## Expressions -/

namespace Expr

def groups : Expr → List Nat
  | .empty | .letter _ | .assertion _ => []
  | .cat x y | .alt x y => x.groups ++ y.groups
  | .repetition _ _ _ x => x.groups
  | .group index x => index :: x.groups

/-- What is kept along a way holds of all ways to match an expression, if it holds of taking a
character and is kept by the groups of the expression. -/
theorem chained_of_mem_ways {property : Spot → Way → Prop} (chained : Way.Chained property)
    (letter : ∀ s c rest, s.rest = c :: rest → property s ([], ⟨s.position + 1, some c, rest⟩))
    {x : Expr} (enclose : ∀ index ∈ x.groups, ∀ s way, property s way →
      property s (⟨index, true, way.2.position⟩ :: (way.1 ++ [⟨index, false, s.position⟩]), way.2))
    {s : Spot} {way : Way} (h : way ∈ x.ways s) : property s way := by
  induction x generalizing s way with
  | empty => exact chained.of_mem_stay h
  | letter set =>
    simp only [Expr.ways, CharSet.ways] at h
    split at h
    · cases h
    · rename_i c rest hrest
      split at h
      · rw [List.mem_singleton.mp h]
        exact letter s c rest hrest
      · cases h
  | assertion a =>
    simp only [Expr.ways, Assertion.ways] at h
    split at h
    · exact chained.of_mem_stay h
    · cases h
  | cat x y ihx ihy =>
    exact chained.of_mem_andThen
      (fun _ => ihx fun index mem => enclose index (List.mem_append_left _ mem))
      (fun _ _ _ => ihy fun index mem => enclose index (List.mem_append_right _ mem)) h
  | alt x y ihx ihy =>
    rcases List.mem_append.mp h with h | h
    · exact ihx (fun index mem => enclose index (List.mem_append_left _ mem)) h
    · exact ihy (fun index mem => enclose index (List.mem_append_right _ mem)) h
  | repetition min max greedy x ih => exact chained.of_mem_repeated (fun s way => ih enclose) h
  | group index x ih =>
    obtain ⟨inner, hinner, rfl⟩ := List.mem_map.mp h
    exact enclose index List.mem_cons_self s inner
      (ih (fun index mem => enclose index (List.mem_cons_of_mem _ mem)) hinner)

/-- A way ends behind some characters that stand after the place where it begins. -/
theorem skip_of_mem_ways {x : Expr} {s : Spot} {way : Way} (h : way ∈ x.ways s) :
    ∃ taken, s.rest = taken ++ way.2.rest ∧ way.2 = s.skip taken := by
  have chained : Way.Chained (fun s way =>
      ∃ taken, s.rest = taken ++ way.2.rest ∧ way.2 = s.skip taken) := by
    refine ⟨fun s => ⟨[], rfl, rfl⟩, ?_⟩
    rintro s first last ⟨taken, hrest, hfirst⟩ ⟨others, hrest', hlast⟩
    refine ⟨taken ++ others, ?_, ?_⟩
    · rw [hrest, hrest', List.append_assoc]
    · rw [Spot.skip_append, ← hfirst, hlast]
  exact chained_of_mem_ways chained
    (fun s c rest hrest => ⟨[c], hrest, by simp [Spot.skip, hrest]⟩) (fun _ _ _ _ => id) h

/-- What is left behind a way is the end of what was left before it. -/
theorem suffix_of_mem_sequenceWays {parts : List Expr} {s : Spot} {way : Way}
    (h : way ∈ sequenceWays parts s) : way.2.rest <:+ s.rest := by
  rw [← ways_sequence] at h
  obtain ⟨taken, hrest, -⟩ := skip_of_mem_ways h
  exact ⟨taken, hrest.symm⟩

/-- A way sets marks for the groups of the expression only. -/
theorem index_of_mem_ways {x : Expr} {s : Spot} {way : Way} (h : way ∈ x.ways s) :
    ∀ mark ∈ way.1, mark.index ∈ x.groups := by
  have chained : Way.Chained (fun _ way => ∀ mark ∈ way.1, mark.index ∈ x.groups) :=
    ⟨fun _ => by simp, fun hfirst hlast mark mem =>
      (List.mem_append.mp mem).elim (hlast mark) (hfirst mark)⟩
  refine chained_of_mem_ways chained (fun _ _ _ _ => by simp)
    (fun index hindex s way hway mark mem => ?_) h
  simp only [List.mem_cons, List.mem_append, List.not_mem_nil, or_false] at mem
  rcases mem with rfl | mem | rfl
  · exact hindex
  · exact hway mark mem
  · exact hindex

end Expr

end RouteChain.Regex
