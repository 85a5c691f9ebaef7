import Mathlib.Data.List.TakeDrop
import RouteChain.Proofs.Pattern.Matcher

/-!
# What the text of a segment means

Without an opening parenthesis a segment has no constraint.

The main result is `isPlain_of_mem_patternSegments`.
-/

namespace RouteChain

namespace Segment

/-! ## Stems -/

theorem isPlain_withStem (c : Char) (segment : Segment) :
    (segment.withStem c).isPlain = segment.isPlain := by
  cases segment with
  | capture stem name constraint modifier => cases constraint <;> rfl
  | _ => rfl

/-- What is read behind a stem is read from some end of the text. -/
theorem afterStem_eq_some {read : List Char → Option Segment} {text : List Char} {segment : Segment}
    (h : afterStem read text = some segment) :
    ∃ rest, rest <:+ text ∧ ∃ inner, read rest = some inner ∧ segment.isPlain = inner.isPlain := by
  induction text generalizing segment with
  | nil => exact ⟨[], List.suffix_refl [], segment, h, rfl⟩
  | cons c text ih =>
    rw [afterStem, Option.or_eq_some_iff] at h
    rcases h with h | ⟨-, h⟩
    · split at h
      · cases h
      · obtain ⟨behind, hbehind, rfl⟩ := Option.map_eq_some_iff.mp h
        obtain ⟨rest, hrest, inner, hinner, hplain⟩ := ih hbehind
        refine ⟨rest, hrest.trans (List.suffix_cons c text), inner, hinner, ?_⟩
        rw [isPlain_withStem, hplain]
    · exact ⟨c :: text, List.suffix_refl _, segment, h, rfl⟩

/-- A stem without line feeds stands before what is read. -/
theorem afterStem_append {read : List Char → Option Segment} {stem text : List Char}
    {segment : Segment} (hstem : '\n' ∉ stem) (h : afterStem read text = some segment) :
    afterStem read (stem ++ text) = some (stem.foldr withStem segment) := by
  induction stem with
  | nil => exact h
  | cons c stem ih =>
    obtain ⟨hc, hrest⟩ := not_or.mp (mt List.mem_cons.mpr hstem)
    rw [List.cons_append, afterStem, if_neg (Ne.symm hc), ih hrest]
    rfl

/-! ## Names -/

/-- Nothing is constrained without a parenthesis. -/
theorem afterStem_unnamed?_eq_none {text : List Char} (h : '(' ∉ text) :
    afterStem unnamed? text = none := by
  refine Option.eq_none_iff_forall_ne_some.mpr fun segment hsome => ?_
  obtain ⟨rest, hrest, inner, hinner, -⟩ := afterStem_eq_some hsome
  unfold unnamed? at hinner
  split at hinner
  · exact h (hrest.subset List.mem_cons_self)
  · cases hinner

theorem isPlain_of_named? {text : List Char} {segment : Segment} (hparen : '(' ∉ text)
    (h : named? text = some segment) : segment.isPlain = true := by
  unfold named? at h
  split at h
  · rename_i text
    have hsuffix : text.dropWhile Unicode.isWord <:+ text := List.dropWhile_suffix _
    rw [List.span_eq_takeWhile_dropWhile] at h
    split at h
    · cases h
    · rename_i name rest hspan
      obtain ⟨-, hrest⟩ := Prod.mk.inj hspan
      have hmem : '(' ∈ text := hsuffix.subset (hrest ▸ List.mem_cons_self)
      exact absurd (List.mem_cons_of_mem _ hmem) hparen
    · obtain ⟨modifier, -, rfl⟩ := Option.map_eq_some_iff.mp h
      rfl
  · cases h

/-! ## Meanings -/

/-- Without an opening parenthesis a segment has no constraint. -/
theorem isPlain_classify {text : List Char} (h : '(' ∉ text) : (classify text).isPlain = true := by
  unfold classify
  split
  · rfl
  · rw [afterStem_unnamed?_eq_none h, Option.or_none]
    cases hnamed : afterStem named? text with
    | none => rfl
    | some segment =>
      obtain ⟨rest, hrest, inner, hinner, hplain⟩ := afterStem_eq_some hnamed
      rw [Option.getD_some, hplain]
      exact isPlain_of_named? (fun mem => h (hrest.subset mem)) hinner

theorem foldr_withStem (stem : List Char) (name constraint : Option (List Char))
    (modifier : Modifier) : stem.foldr withStem (.capture [] name constraint modifier) =
      .capture stem name constraint modifier := by
  induction stem with
  | nil => rfl
  | cons c stem ih => rw [List.foldr_cons, ih, withStem]

end Segment

/-! ## Patterns -/

theorem mem_of_mem_splitOn {separator c : Char} {text piece : List Char}
    (h : piece ∈ Text.splitOn separator text) (hc : c ∈ piece) : c ∈ text := by
  induction text generalizing piece with
  | nil =>
    rw [Text.splitOn, List.mem_singleton] at h
    exact absurd (h ▸ hc) List.not_mem_nil
  | cons d text ih =>
    rw [Text.splitOn] at h
    split at h
    · rcases List.mem_cons.mp h with rfl | h
      · cases hc
      · exact List.mem_cons_of_mem d (ih h hc)
    · split at h
      · rename_i hnil
        exact absurd hnil (Text.splitOn_ne_nil separator text)
      · rename_i first pieces hpieces
        rw [hpieces] at ih
        rcases List.mem_cons.mp h with rfl | h
        · rcases List.mem_cons.mp hc with rfl | hc
          · exact List.mem_cons_self
          · exact List.mem_cons_of_mem d (ih List.mem_cons_self hc)
        · exact List.mem_cons_of_mem d (ih (List.mem_cons_of_mem first h) hc)

/-- Without an opening parenthesis a pattern has no constraints. -/
theorem isPlain_of_mem_patternSegments {pattern : String} {segment : Segment}
    (hparen : '(' ∉ pattern.toList) (h : segment ∈ patternSegments pattern) :
    segment.isPlain = true := by
  obtain ⟨text, htext, rfl⟩ := List.mem_map.mp h
  have hpiece : text ∈ Text.splitOn '/' pattern.toList := (List.mem_filter.mp htext).1
  exact Segment.isPlain_classify fun mem => hparen (mem_of_mem_splitOn hpiece mem)

end RouteChain
