import RouteChain.Proofs.Pattern.Spans
import RouteChain.Proofs.Regex.Language

/-!
# What parts of an expression take and bind

Where no assertion looks around, what some parts of an expression take from a text and what their
groups take of it does not depend on the place. It can be read off the parts one by one.

## Main definitions

* `Shape` — texts with the values of some groups.
* `Reads` — what is taken and bound is of a shape, and all of the shape is taken.
-/

namespace RouteChain

open Regex Regex.Way

/-! ## Shapes -/

/-- Texts that are taken, with the values that groups bind then. -/
abbrev Shape := List Char → List (Option (List Char)) → Prop

def Shape.andThen (shape next : Shape) : Shape := fun taken values =>
  ∃ first last own others, shape first own ∧ next last others ∧ taken = first ++ last ∧
    values = own ++ others

/-- A shape, or nothing, with nothing bound. -/
def Shape.orNothing (shape : Shape) : Shape := fun taken values =>
  shape taken values ∨ taken = [] ∧ values = [none]

/-- Whatever way is taken from a place, it takes a text of the shape and binds the values that go
with it, and each text of the shape is taken where it stands. -/
structure Reads (ways : Spot → List Way) (index count : Nat) (shape : Shape) : Prop where
  sound : ∀ {text : List Char} {s : Spot} {way : Way}, text.drop s.position = s.rest →
    way ∈ ways s → ∃ taken values, shape taken values ∧ s.rest = taken ++ way.2.rest ∧
      Binds text index count way (values, way.2.rest)
  complete : ∀ {s : Spot} {taken rest : List Char} {values : List (Option (List Char))},
    shape taken values → s.rest = taken ++ rest → ∃ marks, (marks, s.skip taken) ∈ ways s

/-! ## Parts -/

namespace Reads

variable {ways next : Spot → List Way} {index count more : Nat} {shape others : Shape} {x : Expr}
  {words : Language Char}

theorem congr (h : Reads ways index count shape)
    (hshape : ∀ taken values, shape taken values ↔ others taken values) :
    Reads ways index count others := by
  obtain rfl : shape = others := funext fun taken => funext fun values =>
    propext (hshape taken values)
  exact h

theorem stay (index : Nat) :
    Reads Way.stay index 0 (fun taken values => taken = [] ∧ values = []) where
  sound {text s way} hdrop mem := by
    obtain rfl := List.mem_singleton.mp mem
    exact ⟨[], [], ⟨rfl, rfl⟩, rfl, .unmarked index hdrop (List.nil_append _).symm⟩
  complete {s taken rest values} hshape _ := by
    obtain ⟨rfl, -⟩ := hshape
    exact ⟨[], List.mem_singleton.mpr rfl⟩

theorem andThen (h : Reads ways index count shape) (h' : Reads next (index + count) more others) :
    Reads (fun s => Way.andThen (ways s) next) index (count + more) (shape.andThen others) where
  sound {text s way} hdrop mem := by
    obtain ⟨first, hfirst, last, hlast, rfl⟩ := mem_andThen.mp mem
    obtain ⟨taken, values, hshape, hrest, binds⟩ := h.sound hdrop hfirst
    obtain ⟨behind, others, hothers, hrest', binds'⟩ := h'.sound binds.drop_eq hlast
    refine ⟨taken ++ behind, values ++ others, ⟨_, _, _, _, hshape, hothers, rfl, rfl⟩, ?_,
      binds.append binds'⟩
    rw [hrest, hrest', List.append_assoc]
  complete {s taken rest values} hshape hrest := by
    obtain ⟨first, last, own, others, hfirst, hlast, rfl, rfl⟩ := hshape
    rw [List.append_assoc] at hrest
    obtain ⟨marks, hmarks⟩ := h.complete hfirst hrest
    obtain ⟨more, hmore⟩ := h'.complete hlast (Spot.rest_skip hrest)
    refine ⟨more ++ marks, mem_andThen.mpr ⟨_, hmarks, _, hmore, ?_⟩⟩
    rw [Spot.skip_append]

/-- What has no groups binds nothing. -/
theorem unmarked (h : x.Takes words) (hgroups : x.groups = []) (index : Nat) :
    Reads x.ways index 0 (fun taken values => taken ∈ words ∧ values = []) where
  sound {text s way} hdrop mem := by
    obtain ⟨taken, htaken, hrest⟩ := h.sound mem
    rw [← sequenceWays_singleton] at mem
    exact ⟨taken, [], ⟨htaken, rfl⟩, hrest, binds_unmarked (by simp [hgroups]) index hdrop mem⟩
  complete hshape hrest := h.complete hshape.1 hrest

/-- A group without groups in it binds what it takes. -/
theorem group (h : x.Takes words) (hgroups : x.groups = []) (index : Nat) :
    Reads (Expr.group index x).ways index 1
      (fun taken values => taken ∈ words ∧ values = [some taken]) where
  sound {text s way} hdrop mem := by
    obtain ⟨taken, binds, ⟨marks, hspans⟩, hrest⟩ := exists_binds_group hgroups index hdrop mem
    obtain ⟨word, hword, hrest'⟩ := h.sound hspans
    obtain rfl := List.append_cancel_right (hrest'.symm.trans hrest)
    exact ⟨word, _, ⟨hword, rfl⟩, hrest, binds⟩
  complete {s taken rest values} hshape hrest := by
    obtain ⟨marks, mem⟩ := h.complete hshape.1 hrest
    exact ⟨_, List.mem_map_of_mem mem⟩

theorem option (h : Reads x.ways index 1 shape) :
    Reads (optionExpr x).ways index 1 shape.orNothing where
  sound {text s way} hdrop mem := by
    rw [ways_optionExpr] at mem
    rcases List.mem_append.mp mem with mem | mem
    · obtain ⟨taken, values, hshape, hrest⟩ := h.sound hdrop mem
      exact ⟨taken, values, .inl hshape, hrest⟩
    · obtain rfl := List.mem_singleton.mp mem
      exact ⟨[], [none], .inr ⟨rfl, rfl⟩, rfl, .absent index hdrop (List.nil_append _).symm⟩
  complete {s taken rest values} hshape hrest := by
    rw [ways_optionExpr]
    rcases hshape with hshape | ⟨rfl, -⟩
    · obtain ⟨marks, mem⟩ := h.complete hshape hrest
      exact ⟨marks, List.mem_append_left _ mem⟩
    · exact ⟨[], List.mem_append_right _ (List.mem_singleton.mpr rfl)⟩

end Reads

/-! ## Characters -/

/-- The words of one character. -/
theorem mem_words_char {c : Char} {text : List Char} :
    text ∈ (CharSet.char c).words ↔ text = [c] := by
  simp [mem_words, contains_char]

/-- One character by itself. -/
theorem reads_charExpr (c : Char) (index : Nat) :
    Reads (charExpr c).ways index 0 (fun taken values => taken = [c] ∧ values = []) :=
  (Reads.unmarked (Expr.takes_letter _) rfl index).congr fun taken values => by
    rw [mem_words_char]

end RouteChain
