import Mathlib.Computability.Language
import RouteChain.Proofs.Regex.Forward

/-!
# The languages of expressions

Where no assertion looks around, what an expression takes from a text does not depend on the place:
it takes the words of a language.

## Main definitions

* `Expr.Takes` — an expression takes the words of a language, and nothing else.
* `CharSet.words` — the words of one character in a set.
-/

namespace RouteChain.Regex

open Way
open scoped Computability

/-- Wherever the expression is matched it takes a word of the language, and each word of the
language where that stands. -/
structure Expr.Takes (x : Expr) (words : Language Char) : Prop where
  sound : ∀ {s : Spot} {way : Way}, way ∈ x.ways s →
    ∃ taken ∈ words, s.rest = taken ++ way.2.rest
  complete : ∀ {s : Spot} {taken rest : List Char}, taken ∈ words → s.rest = taken ++ rest →
    ∃ marks, (marks, s.skip taken) ∈ x.ways s

def CharSet.words (set : CharSet) : Language Char :=
  {taken | ∃ c, set.contains c = true ∧ taken = [c]}

/-! ## Words -/

section

variable {set : CharSet} {text : List Char}

theorem mem_words : text ∈ set.words ↔ ∃ c, set.contains c = true ∧ text = [c] := Iff.rfl

theorem nil_notMem_words : [] ∉ set.words := by
  rintro ⟨c, -, h⟩
  cases h

theorem mem_kstar_words : text ∈ set.words∗ ↔ ∀ c ∈ text, set.contains c = true := by
  rw [Language.mem_kstar]
  constructor
  · rintro ⟨pieces, rfl, hpieces⟩ c mem
    obtain ⟨piece, hpiece, hc⟩ := List.mem_flatten.mp mem
    obtain ⟨d, hd, rfl⟩ := hpieces piece hpiece
    rwa [List.mem_singleton.mp hc]
  · intro h
    refine ⟨text.map ([·]), by simp [← List.flatMap_def], fun piece mem => ?_⟩
    obtain ⟨c, hc, rfl⟩ := List.mem_map.mp mem
    exact ⟨c, h c hc, rfl⟩

theorem append_mem_kstar {words : Language Char} {first last : List Char} (h : first ∈ words)
    (h' : last ∈ words∗) : first ++ last ∈ words∗ :=
  mul_kstar_le_kstar (a := words) (Language.append_mem_mul h h')

/-- One word or more are any number of words, unless there are no characters. -/
theorem mem_mul_kstar {words : Language Char} (h : [] ∉ words) :
    text ∈ words * words∗ ↔ text ≠ [] ∧ text ∈ words∗ := by
  constructor
  · intro mem
    obtain ⟨first, hfirst, last, hlast, rfl⟩ := Language.mem_mul.mp mem
    refine ⟨fun hnil => ?_, append_mem_kstar hfirst hlast⟩
    rw [(List.append_eq_nil_iff.mp hnil).1] at hfirst
    exact h hfirst
  · rintro ⟨hne, mem⟩
    rw [← Language.one_add_self_mul_kstar_eq_kstar] at mem
    exact mem.resolve_left fun hone => hne ((Language.mem_one text).mp hone)

end

/-! ## Expressions -/

namespace Expr

variable {x y : Expr} {words others : Language Char}

theorem takes_letter (set : CharSet) : (letter set).Takes set.words where
  sound {s way} mem := by
    simp only [ways, CharSet.ways] at mem
    split at mem
    · cases mem
    · rename_i c rest hrest
      split at mem
      · rename_i hc
        obtain rfl := List.mem_singleton.mp mem
        exact ⟨[c], ⟨c, hc, rfl⟩, hrest⟩
      · cases mem
  complete {s taken rest} htaken hrest := by
    obtain ⟨c, hc, rfl⟩ := htaken
    exact ⟨[], by simp [ways, CharSet.ways, hrest, hc, Spot.skip, stay]⟩

namespace Takes

theorem cat (hx : x.Takes words) (hy : y.Takes others) : (Expr.cat x y).Takes (words * others) where
  sound {s way} mem := by
    obtain ⟨first, hfirst, last, hlast, rfl⟩ := mem_andThen.mp mem
    obtain ⟨taken, htaken, hrest⟩ := hx.sound hfirst
    obtain ⟨more, hmore, hrest'⟩ := hy.sound hlast
    exact ⟨taken ++ more, Language.append_mem_mul htaken hmore, by rw [hrest, hrest']; simp⟩
  complete {s taken rest} htaken hrest := by
    obtain ⟨first, hfirst, last, hlast, rfl⟩ := Language.mem_mul.mp htaken
    rw [List.append_assoc] at hrest
    obtain ⟨marks, hmarks⟩ := hx.complete hfirst hrest
    obtain ⟨more, hmore⟩ := hy.complete hlast (Spot.rest_skip hrest)
    refine ⟨more ++ marks, mem_andThen.mpr ⟨_, hmarks, _, hmore, ?_⟩⟩
    rw [Spot.skip_append]

theorem alt (hx : x.Takes words) (hy : y.Takes others) : (Expr.alt x y).Takes (words + others) where
  sound {s way} mem := by
    rcases List.mem_append.mp mem with mem | mem
    · obtain ⟨taken, htaken, hrest⟩ := hx.sound mem
      exact ⟨taken, .inl htaken, hrest⟩
    · obtain ⟨taken, htaken, hrest⟩ := hy.sound mem
      exact ⟨taken, .inr htaken, hrest⟩
  complete {s taken rest} htaken hrest := by
    rcases htaken with htaken | htaken
    · obtain ⟨marks, mem⟩ := hx.complete htaken hrest
      exact ⟨marks, List.mem_append_left _ mem⟩
    · obtain ⟨marks, mem⟩ := hy.complete htaken hrest
      exact ⟨marks, List.mem_append_right _ mem⟩

/-- Where no word is empty, every match takes a character. -/
theorem advances (h : x.Takes words) (hempty : [] ∉ words) (s : Spot) :
    Advances s (x.ways s) := by
  intro way mem
  obtain ⟨taken, htaken, hrest⟩ := h.sound mem
  have hne : taken ≠ [] := by
    rintro rfl
    exact hempty htaken
  have hpos := List.length_pos_iff.mpr hne
  rw [hrest, List.length_append]
  omega

/-- Rounds take words one after another. -/
theorem exists_of_mem_rounds (h : x.Takes words) {greedy : Bool} {s : Spot} {way : Way}
    (mem : way ∈ rounds x.ways greedy s) :
    ∃ taken ∈ words∗, s.rest = taken ++ way.2.rest := by
  have chained : Chained (fun s way =>
      ∃ taken ∈ words∗, s.rest = taken ++ way.2.rest) := by
    refine ⟨fun s => ⟨[], Language.nil_mem_kstar words, rfl⟩, ?_⟩
    rintro s first last ⟨taken, htaken, hrest⟩ ⟨more, hmore, hrest'⟩
    refine ⟨taken ++ more, ?_, by rw [hrest, hrest']; simp⟩
    rw [← kstar_mul_kstar words]
    exact Language.append_mem_mul htaken hmore
  refine chained.of_mem_rounds (fun s way mem => ?_) mem
  obtain ⟨taken, htaken, hrest⟩ := h.sound mem
  exact ⟨taken, le_kstar (a := words) htaken, hrest⟩

theorem exists_mem_rounds (h : x.Takes words) (hempty : [] ∉ words) (greedy : Bool) {s : Spot}
    {taken rest : List Char} (htaken : taken ∈ words∗)
    (hrest : s.rest = taken ++ rest) :
    ∃ marks, (marks, s.skip taken) ∈ rounds x.ways greedy s := by
  obtain ⟨pieces, rfl, hpieces⟩ := Language.mem_kstar.mp htaken
  clear htaken
  induction pieces generalizing s with
  | nil => exact ⟨[], mem_rounds_stay x.ways greedy s⟩
  | cons piece pieces ih =>
    rw [List.flatten_cons, List.append_assoc] at hrest
    obtain ⟨marks, hmarks⟩ := h.complete (hpieces piece List.mem_cons_self) hrest
    obtain ⟨more, hmore⟩ := ih (fun other mem => hpieces other (List.mem_cons_of_mem piece mem))
      (Spot.rest_skip hrest)
    refine ⟨more ++ marks, ?_⟩
    rw [List.flatten_cons, Spot.skip_append]
    exact mem_rounds_of_round hmarks (h.advances hempty s _ hmarks) hmore

/-- To repeat an expression is to take one word and any number of others behind it. -/
theorem oneOrMore (h : x.Takes words) (hempty : [] ∉ words) (greedy : Bool) :
    (repetition 1 none greedy x).Takes (words * words∗) := by
  have hways (s : Spot) : (repetition 1 none greedy x).ways s =
      andThen (x.ways s) (rounds x.ways greedy) := by
    rw [ways, repeated_one_none, oneOrMore_of_advances greedy (h.advances hempty s)]
  constructor
  · intro s way mem
    rw [hways] at mem
    obtain ⟨first, hfirst, last, hlast, rfl⟩ := mem_andThen.mp mem
    obtain ⟨taken, htaken, hrest⟩ := h.sound hfirst
    obtain ⟨more, hmore, hrest'⟩ := h.exists_of_mem_rounds hlast
    exact ⟨taken ++ more, Language.append_mem_mul htaken hmore, by rw [hrest, hrest']; simp⟩
  · intro s taken rest htaken hrest
    obtain ⟨first, hfirst, last, hlast, rfl⟩ := Language.mem_mul.mp htaken
    rw [List.append_assoc] at hrest
    obtain ⟨marks, hmarks⟩ := h.complete hfirst hrest
    obtain ⟨more, hmore⟩ := h.exists_mem_rounds hempty greedy hlast (Spot.rest_skip hrest)
    refine ⟨more ++ marks, ?_⟩
    rw [hways, Spot.skip_append]
    exact mem_andThen.mpr ⟨_, hmarks, _, hmore, rfl⟩

end Takes

end Expr

end RouteChain.Regex
