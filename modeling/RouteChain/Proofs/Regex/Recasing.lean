import Mathlib.Data.List.Forall2
import RouteChain.Proofs.Regex.Sequence

/-!
# Expressions up to a relation of characters

One expression takes a character wherever the other takes some character that is related to it. Then
the one matches a text exactly if the other matches some text that is related to it, character by
character.

## Main definitions

* `Way.Recased` — ways that lead through a text as other ways lead through some related text.
* `Expr.Recased` — expressions that differ in their letters only, by related characters.

The main result is `Expr.Recased.ways`, by induction on the expressions.
-/

namespace RouteChain.Regex

/-- The first ways lead through a text up to some rest as the other ways lead through some related
text up to any rest that is related; and where the other ways lead, so do the first through every
text that is related. -/
structure Way.Recased (R : Char → Char → Prop) (f g : Spot → List Way) : Prop where
  exists_text : ∀ {s : Spot} {way : Way} {rest : List Char}, way ∈ f s →
    List.Forall₂ R way.2.rest rest →
      ∃ text, List.Forall₂ R s.rest text ∧
        ∀ t : Spot, t.rest = text → ∃ last ∈ g t, last.2.rest = rest
  exists_way : ∀ {s t : Spot} {way : Way}, way ∈ g t → List.Forall₂ R s.rest t.rest →
    ∃ first ∈ f s, List.Forall₂ R first.2.rest way.2.rest

/-- Two expressions are the same but for their letters: a letter of the one stands for the
characters that are related to one for which the letter of the other stands. Of the assertions only
the end of the text is allowed, since all others look at characters or at what stands before. -/
inductive Expr.Recased (R : Char → Char → Prop) : Expr → Expr → Prop
  | empty : Recased R .empty .empty
  | letter {set other : CharSet}
      (h : ∀ c, set.contains c = true ↔ ∃ d, R c d ∧ other.contains d = true) :
      Recased R (.letter set) (.letter other)
  | textEnd : Recased R (.assertion .textEnd) (.assertion .textEnd)
  | cat {x x' y y' : Expr} (hx : Recased R x x') (hy : Recased R y y') :
      Recased R (.cat x y) (.cat x' y')
  | alt {x x' y y' : Expr} (hx : Recased R x x') (hy : Recased R y y') :
      Recased R (.alt x y) (.alt x' y')
  | repetition (min : Nat) (max : Option Nat) (greedy : Bool) {x x' : Expr} (hx : Recased R x x') :
      Recased R (.repetition min max greedy x) (.repetition min max greedy x')
  | group (index : Nat) {x x' : Expr} (hx : Recased R x x') :
      Recased R (.group index x) (.group index x')

variable {R : Char → Char → Prop}

/-! ## Ways -/

namespace Way.Recased

open Way

variable {f f' g g' : Spot → List Way}

/-- Nothing matters but which ways there are. -/
theorem congr (h : Recased R f g) (hf : ∀ s way, way ∈ f' s ↔ way ∈ f s)
    (hg : ∀ s way, way ∈ g' s ↔ way ∈ g s) : Recased R f' g' where
  exists_text hway hrest := by
    obtain ⟨text, htext, hlast⟩ := h.exists_text ((hf _ _).mp hway) hrest
    refine ⟨text, htext, fun t ht => ?_⟩
    obtain ⟨last, mem, hlast⟩ := hlast t ht
    exact ⟨last, (hg _ _).mpr mem, hlast⟩
  exists_way hway htext := by
    obtain ⟨first, mem, hfirst⟩ := h.exists_way ((hg _ _).mp hway) htext
    exact ⟨first, (hf _ _).mpr mem, hfirst⟩

theorem stay : Recased R stay stay where
  exists_text {s way rest} hway hrest := by
    obtain rfl := List.mem_singleton.mp hway
    exact ⟨rest, hrest, fun t ht => ⟨_, List.mem_singleton.mpr rfl, ht⟩⟩
  exists_way {s t way} hway htext := by
    obtain rfl := List.mem_singleton.mp hway
    exact ⟨_, List.mem_singleton.mpr rfl, htext⟩

/-- The text behind is chosen first, and the text before it so that it leads there. -/
theorem andThen (h : Recased R f g) (h' : Recased R f' g') :
    Recased R (fun s => andThen (f s) f') (fun t => andThen (g t) g') where
  exists_text {s way rest} hway hrest := by
    obtain ⟨first, hfirst, last, hlast, rfl⟩ := mem_andThen.mp hway
    obtain ⟨behind, hbehind, hnext⟩ := h'.exists_text hlast hrest
    obtain ⟨text, htext, hthere⟩ := h.exists_text hfirst hbehind
    refine ⟨text, htext, fun t ht => ?_⟩
    obtain ⟨mid, hmid, hrest⟩ := hthere t ht
    obtain ⟨stop, hstop, hend⟩ := hnext mid.2 hrest
    exact ⟨_, mem_andThen.mpr ⟨mid, hmid, stop, hstop, rfl⟩, hend⟩
  exists_way {s t way} hway htext := by
    obtain ⟨mid, hmid, stop, hstop, rfl⟩ := mem_andThen.mp hway
    obtain ⟨first, hfirst, hbehind⟩ := h.exists_way hmid htext
    obtain ⟨last, hlast, hend⟩ := h'.exists_way hstop hbehind
    exact ⟨_, mem_andThen.mpr ⟨first, hfirst, last, hlast, rfl⟩, hend⟩

theorem append (h : Recased R f g) (h' : Recased R f' g') :
    Recased R (fun s => f s ++ f' s) (fun t => g t ++ g' t) where
  exists_text {s way rest} hway hrest := by
    rcases List.mem_append.mp hway with hway | hway
    · obtain ⟨text, htext, hthere⟩ := h.exists_text hway hrest
      refine ⟨text, htext, fun t ht => ?_⟩
      obtain ⟨last, hlast, hend⟩ := hthere t ht
      exact ⟨last, List.mem_append_left _ hlast, hend⟩
    · obtain ⟨text, htext, hthere⟩ := h'.exists_text hway hrest
      refine ⟨text, htext, fun t ht => ?_⟩
      obtain ⟨last, hlast, hend⟩ := hthere t ht
      exact ⟨last, List.mem_append_right _ hlast, hend⟩
  exists_way {s t way} hway htext := by
    rcases List.mem_append.mp hway with hway | hway
    · obtain ⟨first, hfirst, hend⟩ := h.exists_way hway htext
      exact ⟨first, List.mem_append_left _ hfirst, hend⟩
    · obtain ⟨first, hfirst, hend⟩ := h'.exists_way hway htext
      exact ⟨first, List.mem_append_right _ hfirst, hend⟩

theorem prefer (greedy : Bool) (h : Recased R f g) (h' : Recased R f' g') :
    Recased R (fun s => prefer greedy (f s) (f' s)) (fun t => prefer greedy (g t) (g' t)) :=
  (h.append h').congr (fun _ _ => mem_prefer.trans List.mem_append.symm)
    fun _ _ => mem_prefer.trans List.mem_append.symm

/-- Related texts are of one length, so ways may be chosen by how much they leave. -/
theorem filter (p : Nat → Nat → Bool) (h : Recased R f g) :
    Recased R (fun s => (f s).filter fun way => p way.2.rest.length s.rest.length)
      (fun t => (g t).filter fun way => p way.2.rest.length t.rest.length) where
  exists_text {s way rest} hway hrest := by
    obtain ⟨mem, hp⟩ := List.mem_filter.mp hway
    obtain ⟨text, htext, hthere⟩ := h.exists_text mem hrest
    refine ⟨text, htext, fun t ht => ?_⟩
    obtain ⟨last, hlast, hend⟩ := hthere t ht
    refine ⟨last, List.mem_filter.mpr ⟨hlast, ?_⟩, hend⟩
    rwa [hend, ht, ← hrest.length_eq, ← htext.length_eq]
  exists_way {s t way} hway htext := by
    obtain ⟨mem, hp⟩ := List.mem_filter.mp hway
    obtain ⟨first, hfirst, hend⟩ := h.exists_way mem htext
    refine ⟨first, List.mem_filter.mpr ⟨hfirst, ?_⟩, hend⟩
    rwa [hend.length_eq, htext.length_eq]

theorem roundsFrom (h : Recased R f g) (greedy : Bool) (ahead : Nat) :
    Recased R (roundsFrom f greedy ahead) (roundsFrom g greedy ahead) := by
  induction ahead with
  | zero => exact stay
  | succ ahead ih =>
    have hround := h.filter fun left all => left < all
    exact (hround.andThen ih).prefer greedy stay

theorem rounds (h : Recased R f g) (greedy : Bool) :
    Recased R (rounds f greedy) (rounds g greedy) where
  exists_text {s way rest} hway hrest := by
    obtain ⟨text, htext, hthere⟩ := (h.roundsFrom greedy s.rest.length).exists_text hway hrest
    refine ⟨text, htext, fun t ht => ?_⟩
    rw [Way.rounds, ht, ← htext.length_eq]
    exact hthere t ht
  exists_way {s t way} hway htext := by
    rw [Way.rounds, ← htext.length_eq] at hway
    exact (h.roundsFrom greedy s.rest.length).exists_way hway htext

end Way.Recased

/-- What is matched once and then some rounds more either takes a character at first, or is all. -/
theorem Way.mem_oneOrMore {body : Spot → List Way} {greedy : Bool} {s : Spot} {way : Way} :
    way ∈ oneOrMore body greedy s ↔
      way ∈ andThen ((body s).filter fun first => first.2.rest.length < s.rest.length)
          (rounds body greedy) ++
        (body s).filter fun first => !decide (first.2.rest.length < s.rest.length) := by
  simp only [oneOrMore, List.mem_append, mem_andThen, List.mem_filter]
  constructor
  · rintro ⟨first, hfirst, last, hlast, rfl⟩
    split at hlast
    · rename_i hshorter
      exact .inl ⟨first, ⟨hfirst, decide_eq_true hshorter⟩, last, hlast, rfl⟩
    · rename_i hall
      obtain rfl := List.mem_singleton.mp hlast
      exact .inr ⟨hfirst, by simpa using hall⟩
  · rintro (⟨first, ⟨hfirst, hshorter⟩, last, hlast, rfl⟩ | ⟨hfirst, hall⟩)
    · exact ⟨first, hfirst, last, by rwa [if_pos (of_decide_eq_true hshorter)], rfl⟩
    · refine ⟨way, hfirst, ([], way.2), ?_, rfl⟩
      rw [if_neg (by simpa using hall)]
      exact List.mem_singleton.mpr rfl

namespace Way.Recased

open Way

variable {f g : Spot → List Way}

theorem oneOrMore (h : Recased R f g) (greedy : Bool) :
    Recased R (oneOrMore f greedy) (oneOrMore g greedy) := by
  have hround := (h.filter fun left all => left < all).andThen (h.rounds greedy)
  have hall := h.filter fun left all => !decide (left < all)
  exact (hround.append hall).congr (fun _ _ => mem_oneOrMore) fun _ _ => mem_oneOrMore

theorem times (h : Recased R f g) (count : Nat) : Recased R (times f count) (times g count) := by
  induction count with
  | zero => exact stay
  | succ count ih => exact h.andThen ih

theorem upTo (h : Recased R f g) (greedy : Bool) (count : Nat) :
    Recased R (upTo f greedy count) (upTo g greedy count) := by
  induction count with
  | zero => exact stay
  | succ count ih => exact (h.andThen ih).prefer greedy stay

theorem repeated (h : Recased R f g) (greedy : Bool) (min : Nat) (max : Option Nat) :
    Recased R (repeated f greedy min max) (repeated g greedy min max) := by
  cases max with
  | none =>
    cases min with
    | zero => exact (h.oneOrMore greedy).prefer greedy stay
    | succ min => exact (h.times min).andThen (h.oneOrMore greedy)
  | some max => cases min <;> exact (h.times _).andThen (h.upTo greedy _)

/-- Marks do not matter. -/
theorem enclose (h : Recased R f g) (index : Nat) :
    Recased R (fun s => enclose index s (f s)) (fun t => enclose index t (g t)) where
  exists_text {s way rest} hway hrest := by
    obtain ⟨inner, hinner, rfl⟩ := List.mem_map.mp hway
    obtain ⟨text, htext, hthere⟩ := h.exists_text hinner hrest
    refine ⟨text, htext, fun t ht => ?_⟩
    obtain ⟨last, hlast, hend⟩ := hthere t ht
    exact ⟨_, List.mem_map_of_mem hlast, hend⟩
  exists_way {s t way} hway htext := by
    obtain ⟨inner, hinner, rfl⟩ := List.mem_map.mp hway
    obtain ⟨first, hfirst, hend⟩ := h.exists_way hinner htext
    exact ⟨_, List.mem_map_of_mem hfirst, hend⟩

/-- Where every character is related to itself, a text can be matched if some related text can. -/
theorem exists_mem_iff (h : Recased R f g) (hrefl : ∀ c, R c c) (text : List Char) :
    (∃ way, way ∈ f (.start text)) ↔
      ∃ other, List.Forall₂ R text other ∧ ∃ way, way ∈ g (.start other) := by
  constructor
  · rintro ⟨way, hway⟩
    have hrest : List.Forall₂ R way.2.rest way.2.rest := List.forall₂_same.mpr fun c _ => hrefl c
    obtain ⟨other, hother, hthere⟩ := h.exists_text hway hrest
    obtain ⟨last, hlast, -⟩ := hthere (.start other) rfl
    exact ⟨other, hother, last, hlast⟩
  · rintro ⟨other, hother, way, hway⟩
    obtain ⟨first, hfirst, -⟩ := h.exists_way hway (s := .start text) hother
    exact ⟨first, hfirst⟩

end Way.Recased

/-! ## Letters and the end of the text -/

theorem CharSet.mem_ways {set : CharSet} {s : Spot} {way : Way} : way ∈ set.ways s ↔
    ∃ c rest, s.rest = c :: rest ∧ set.contains c = true ∧
      way = ([], ⟨s.position + 1, some c, rest⟩) := by
  unfold CharSet.ways
  split
  · rename_i hnil
    simp [hnil]
  · rename_i c rest hrest
    cases hset : set.contains c <;> simp [hrest, hset, Way.stay]

theorem CharSet.recased_ways {set other : CharSet}
    (h : ∀ c, set.contains c = true ↔ ∃ d, R c d ∧ other.contains d = true) :
    Way.Recased R set.ways other.ways where
  exists_text {s way behind} hway hbehind := by
    obtain ⟨c, rest, hrest, hset, rfl⟩ := mem_ways.mp hway
    obtain ⟨d, hd, hother⟩ := (h c).mp hset
    refine ⟨d :: behind, ?_, fun t ht => ⟨_, mem_ways.mpr ⟨d, behind, ht, hother, rfl⟩, rfl⟩⟩
    rw [hrest]
    exact .cons hd hbehind
  exists_way {s t way} hway htext := by
    obtain ⟨d, behind, hrest, hother, rfl⟩ := mem_ways.mp hway
    rw [hrest] at htext
    obtain ⟨c, rest, hd, hbehind, hcons⟩ := List.forall₂_cons_right_iff.mp htext
    exact ⟨_, mem_ways.mpr ⟨c, rest, hcons, (h c).mpr ⟨d, hd, hother⟩, rfl⟩, hbehind⟩

theorem Assertion.mem_ways_textEnd {s : Spot} {way : Way} :
    way ∈ Assertion.textEnd.ways s ↔ s.rest = [] ∧ way = ([], s) := by
  cases hrest : s.rest <;> simp [Assertion.ways, holds, Spot.after, hrest, Way.stay]

theorem Assertion.recased_ways_textEnd :
    Way.Recased R Assertion.textEnd.ways Assertion.textEnd.ways where
  exists_text {s way behind} hway hbehind := by
    obtain ⟨hrest, rfl⟩ := mem_ways_textEnd.mp hway
    rw [hrest] at hbehind
    obtain rfl := List.forall₂_nil_left_iff.mp hbehind
    exact ⟨[], by simp [hrest], fun t ht => ⟨_, mem_ways_textEnd.mpr ⟨ht, rfl⟩, ht⟩⟩
  exists_way {s t way} hway htext := by
    obtain ⟨hrest, rfl⟩ := mem_ways_textEnd.mp hway
    rw [hrest] at htext
    have hnil := List.forall₂_nil_right_iff.mp htext
    exact ⟨_, mem_ways_textEnd.mpr ⟨hnil, rfl⟩, hrest ▸ htext⟩

/-! ## Expressions -/

namespace Expr.Recased

variable {x y : Expr} {parts others : List Expr}

/-- Expressions that differ by related characters match related texts. -/
theorem ways (h : Recased R x y) : Way.Recased R x.ways y.ways := by
  induction h with
  | empty => exact .stay
  | letter h => exact CharSet.recased_ways h
  | textEnd => exact Assertion.recased_ways_textEnd
  | cat _ _ ihx ihy => exact ihx.andThen ihy
  | alt _ _ ihx ihy => exact ihx.append ihy
  | repetition min max greedy _ ih => exact ih.repeated greedy min max
  | group index _ ih => exact ih.enclose index

/-- They take the same room. -/
theorem weight_eq (h : Recased R x y) : x.weight = y.weight := by
  induction h with
  | empty | letter | textEnd => rfl
  | cat _ _ ihx ihy | alt _ _ ihx ihy => rw [weight, weight, ihx, ihy]
  | repetition _ _ _ _ ih | group _ _ ih => rw [weight, weight, ih]

theorem sequenceWays (h : List.Forall₂ (Recased R) parts others) :
    Way.Recased R (sequenceWays parts) (sequenceWays others) := by
  induction h with
  | nil => exact .stay
  | cons h _ ih => exact h.ways.andThen ih

theorem sum_weight_eq (h : List.Forall₂ (Recased R) parts others) :
    (parts.map weight).sum = (others.map weight).sum := by
  induction h with
  | nil => rfl
  | cons h _ ih => rw [List.map_cons, List.map_cons, List.sum_cons, List.sum_cons, h.weight_eq, ih]

end Expr.Recased

end RouteChain.Regex
