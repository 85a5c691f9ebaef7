import RouteChain.Proofs.Pattern.Expression

/-!
# What the segments of a pattern span

Where no constraint has groups of its own, the groups of the expression of a pattern are those of
its captures. Whatever way it is matched, a path falls into pieces that the segments span one after
another, and each group has taken what the constraint of its capture spans.

## Main definitions

* `Segment.Spans`, `Span` — one segment, and several, lead from one place of a path to another, with
  the given values for their captures.

The main results are `groupCount_spelledParts` and `exists_span_spelledParts`.
-/

namespace RouteChain

open Regex Regex.Way

/-! ## Groups -/

theorem Modifier.groups_valueOf {x : Expr} (h : x.groups = []) (modifier : Modifier) :
    (modifier.valueOf x).groups = [] := by
  have hchar : (charExpr '/').groups = [] := rfl
  cases modifier with
  | one | optional => exact h
  | oneOrMore | zeroOrMore => simp [valueOf, Expr.groups_sequence, Expr.groups, h, hchar]

theorem flatMap_groups_slashSpelling (ignoreCase : Bool) (text : List Char) :
    (slashSpelling ignoreCase text).flatMap Expr.groups = [] := by
  refine List.flatMap_eq_nil_iff.mpr fun x mem => ?_
  rcases List.mem_cons.mp mem with rfl | mem
  · rfl
  · obtain ⟨c, -, rfl⟩ := List.mem_map.mp mem
    rfl

theorem flatMap_groups_captureSpelling (ignoreCase : Bool) (stem : List Char) (index : Nat)
    (value : Expr) (modifier : Modifier) :
    (captureSpelling ignoreCase stem (.group index value) modifier).flatMap Expr.groups =
      index :: value.groups := by
  have hchar : (charExpr '/').groups = [] := rfl
  unfold captureSpelling
  split
  · split <;> simp [flatMap_groups_slashSpelling, optionExpr, Expr.groups, hchar]
  · simp [flatMap_groups_slashSpelling, Expr.groups]

theorem Segment.flatMap_groups_spelling {ignoreCase : Bool} {segment : Segment}
    (h : segment.Captureless ignoreCase) (index : Nat) :
    (segment.spelling ignoreCase index).flatMap Expr.groups =
      List.range' index segment.captureCount := by
  cases segment with
  | wildcard => rfl
  | literal text => exact flatMap_groups_slashSpelling ignoreCase text
  | capture stem name constraint modifier =>
    rw [spelling, flatMap_groups_captureSpelling, modifier.groups_valueOf h]
    rfl

/-- The groups of a pattern are numbered in the order of its captures. -/
theorem flatMap_groups_segmentsSpelling {ignoreCase : Bool} {segments : List Segment}
    (h : ∀ segment ∈ segments, segment.Captureless ignoreCase) (index : Nat) :
    (segmentsSpelling ignoreCase index segments).flatMap Expr.groups =
      List.range' index (captureCount segments) := by
  induction segments generalizing index with
  | nil => rfl
  | cons segment segments ih =>
    rw [segmentsSpelling, List.flatMap_append,
      Segment.flatMap_groups_spelling (h segment List.mem_cons_self),
      ih fun other mem => h other (List.mem_cons_of_mem segment mem), captureCount,
      List.range'_append_1]

theorem flatMap_groups_spelledParts {ignoreCase : Bool} {segments : List Segment}
    (coverage : Coverage) (h : ∀ segment ∈ segments, segment.Captureless ignoreCase) :
    (spelledParts ignoreCase segments coverage).flatMap Expr.groups =
      List.range' 1 (captureCount segments) := by
  unfold spelledParts
  split
  · rename_i hempty
    obtain rfl := List.isEmpty_iff.mp hempty
    cases coverage <;> rfl
  · have hend : coverage.endingParts.flatMap Expr.groups = [] := by cases coverage <;> rfl
    rw [List.flatMap_append, hend, List.append_nil, flatMap_groups_segmentsSpelling h]

/-- So are those of its whole expression. -/
theorem groups_spelledParts {ignoreCase : Bool} {segments : List Segment} (coverage : Coverage)
    (h : ∀ segment ∈ segments, segment.Captureless ignoreCase) :
    (Expr.sequence (.assertion .textStart :: spelledParts ignoreCase segments coverage)).groups =
      List.range' 1 (captureCount segments) := by
  have hstart : (Expr.assertion .textStart).groups = [] := rfl
  rw [Expr.groups_sequence, List.flatMap_cons, hstart, List.nil_append,
    flatMap_groups_spelledParts coverage h]

theorem foldr_max_range' (start count : Nat) :
    (List.range' (start + 1) count).foldr max 0 = if count = 0 then 0 else start + count := by
  induction count generalizing start with
  | zero => rfl
  | succ count ih =>
    rw [List.range'_succ, List.foldr_cons, ih]
    split <;> simp <;> omega

/-- The expression of a pattern has a group for each capture. -/
theorem groupCount_spelledParts {ignoreCase : Bool} {segments : List Segment}
    (coverage : Coverage) (h : ∀ segment ∈ segments, segment.Captureless ignoreCase) :
    (Expr.sequence
        (.assertion .textStart :: spelledParts ignoreCase segments coverage)).groupCount =
      captureCount segments := by
  have hfold := foldr_max_range' 0 (captureCount segments)
  rw [Nat.zero_add] at hfold
  rw [Expr.groupCount_eq, groups_spelledParts coverage h, hfold]
  split <;> omega

/-! ## Spans -/

def Regex.Expr.Spans (x : Expr) (s t : Spot) : Prop :=
  ∃ marks, (marks, t) ∈ x.ways s

theorem Regex.Expr.spans_sequence {parts : List Expr} {s : Spot} {way : Way}
    (mem : way ∈ sequenceWays parts s) : (Expr.sequence parts).Spans s way.2 :=
  ⟨way.1, by rwa [Expr.ways_sequence]⟩

/-- A segment leads from one place of a path to another. The value of its capture, if it has one, is
what its constraint spans there behind the slash and the stem, or none if the capture is absent. -/
inductive Segment.Spans (ignoreCase : Bool) (s t : Spot) :
    Segment → List (Option (List Char)) → Prop
  | wildcard (spans : (Expr.sequence [charExpr '/', lineExpr]).Spans s t) :
      Spans ignoreCase s t .wildcard []
  | literal {text : List Char} (spans : (Expr.sequence (slashSpelling ignoreCase text)).Spans s t) :
      Spans ignoreCase s t (.literal text) []
  | present {stem : List Char} {name constraint : Option (List Char)} {modifier : Modifier}
      {mid : Spot} {value : List Char}
      (behind : (Expr.sequence (slashSpelling ignoreCase stem)).Spans s mid)
      (spans : (modifier.valueOf (pieceExpr ignoreCase constraint)).Spans mid t)
      (rest_eq : mid.rest = value ++ t.rest) :
      Spans ignoreCase s t (.capture stem name constraint modifier) [some value]
  | absent {name constraint : Option (List Char)} {modifier : Modifier}
      (optional : modifier.isOptional = true) (stays : s = t) :
      Spans ignoreCase s t (.capture [] name constraint modifier) [none]
  | leftOut {stem : List Char} {name constraint : Option (List Char)} {modifier : Modifier}
      (optional : modifier.isOptional = true) (stem_ne : stem ≠ [])
      (behind : (Expr.sequence (slashSpelling ignoreCase stem)).Spans s t) :
      Spans ignoreCase s t (.capture stem name constraint modifier) [none]

/-- Segments lead one behind the other from one place of a path to another, with the values of their
captures in turn. -/
inductive Span (ignoreCase : Bool) :
    List Segment → List (Option (List Char)) → Spot → Spot → Prop
  | nil {s : Spot} : Span ignoreCase [] [] s s
  | cons {segment : Segment} {segments : List Segment} {values others : List (Option (List Char))}
      {s mid t : Spot} (spans : segment.Spans ignoreCase s mid values)
      (more : Span ignoreCase segments others mid t) :
      Span ignoreCase (segment :: segments) (values ++ others) s t

theorem Segment.Spans.length_eq {ignoreCase : Bool} {s t : Spot} {segment : Segment}
    {values : List (Option (List Char))} (h : segment.Spans ignoreCase s t values) :
    values.length = segment.captureCount := by
  cases h <;> rfl

/-! ## Ways -/

section

variable {ignoreCase : Bool} {text : List Char} {s : Spot} {way : Way}

/-- A way through parts without groups sets no marks. -/
theorem marks_eq_nil {parts : List Expr} (h : parts.flatMap Expr.groups = [])
    (mem : way ∈ sequenceWays parts s) : way.1 = [] := by
  rw [← Expr.ways_sequence] at mem
  refine List.eq_nil_iff_forall_not_mem.mpr fun mark hmark => ?_
  have hindex := Expr.index_of_mem_ways mem mark hmark
  rw [Expr.groups_sequence, h] at hindex
  cases hindex

/-- A way through parts without groups binds nothing. -/
theorem binds_unmarked {parts : List Expr} (h : parts.flatMap Expr.groups = []) (index : Nat)
    (hdrop : text.drop s.position = s.rest) (mem : way ∈ sequenceWays parts s) :
    Binds text index 0 way ([], way.2.rest) := by
  have hmarks := marks_eq_nil h mem
  rw [← Expr.ways_sequence] at mem
  obtain ⟨taken, hrest, hskip⟩ := Expr.skip_of_mem_ways mem
  obtain ⟨marks, t⟩ := way
  obtain rfl : marks = [] := hmarks
  obtain rfl : t = s.skip taken := hskip
  exact .unmarked index hdrop hrest

/-- A group without groups in it binds what it spans. -/
theorem exists_binds_group {value : Expr} (hvalue : value.groups = []) (index : Nat)
    (hdrop : text.drop s.position = s.rest) (mem : way ∈ (Expr.group index value).ways s) :
    ∃ taken, Binds text index 1 way ([some taken], way.2.rest) ∧ value.Spans s way.2 ∧
      s.rest = taken ++ way.2.rest := by
  obtain ⟨inner, hinner, rfl⟩ := List.mem_map.mp mem
  obtain ⟨taken, hrest, hskip⟩ := Expr.skip_of_mem_ways hinner
  have hmarks : inner.1 = [] := by
    rw [← sequenceWays_singleton] at hinner
    exact marks_eq_nil (by simpa using hvalue) hinner
  refine ⟨taken, ?_, ⟨inner.1, hinner⟩, hrest⟩
  obtain ⟨marks, t⟩ := inner
  obtain rfl : marks = [] := hmarks
  obtain rfl : t = s.skip taken := hskip
  exact .present index hdrop hrest

/-- What stands behind a slash and a stem is matched where they end. -/
theorem exists_behind_stem {stem : List Char} {x : Expr} (index : Nat)
    (hdrop : text.drop s.position = s.rest)
    (mem : way ∈ sequenceWays (slashSpelling ignoreCase stem ++ [x]) s) :
    ∃ first last, (Expr.sequence (slashSpelling ignoreCase stem)).Spans s first.2 ∧
      Binds text index 0 first ([], first.2.rest) ∧ last ∈ x.ways first.2 ∧
      (last.1 ++ first.1, last.2) = way := by
  rw [sequenceWays_append] at mem
  obtain ⟨first, hfirst, last, hlast, hway⟩ := mem_andThen.mp mem
  rw [sequenceWays_singleton] at hlast
  exact ⟨first, last, Expr.spans_sequence hfirst,
    binds_unmarked (flatMap_groups_slashSpelling ignoreCase stem) index hdrop hfirst, hlast, hway⟩

section

variable {stem : List Char} {name constraint : Option (List Char)} {modifier : Modifier}

/-- A capture that is there binds what it spans behind its stem. -/
theorem exists_spans_group
    (hfree : (Segment.capture stem name constraint modifier).Captureless ignoreCase) {index : Nat}
    {first last : Way} (hbehind : (Expr.sequence (slashSpelling ignoreCase stem)).Spans s first.2)
    (hbinds : Binds text index 0 first ([], first.2.rest))
    (hlast : last ∈ (Expr.group index
      (modifier.valueOf (pieceExpr ignoreCase constraint))).ways first.2) :
    ∃ values, (Segment.capture stem name constraint modifier).Spans ignoreCase s last.2 values ∧
      Binds text index 1 (last.1 ++ first.1, last.2) (values, last.2.rest) := by
  obtain ⟨taken, htaken, hspans, hrest⟩ :=
    exists_binds_group (modifier.groups_valueOf hfree) index hbinds.drop_eq hlast
  exact ⟨[some taken], .present hbehind hspans hrest, hbinds.append htaken⟩

/-- So does one that has to be there. -/
theorem exists_spans_required
    (hfree : (Segment.capture stem name constraint modifier).Captureless ignoreCase) (index : Nat)
    (hdrop : text.drop s.position = s.rest)
    (mem : way ∈ sequenceWays (slashSpelling ignoreCase stem ++
      [.group index (modifier.valueOf (pieceExpr ignoreCase constraint))]) s) :
    ∃ values, (Segment.capture stem name constraint modifier).Spans ignoreCase s way.2 values ∧
      Binds text index 1 way (values, way.2.rest) := by
  obtain ⟨first, last, hbehind, hbinds, hlast, rfl⟩ := exists_behind_stem index hdrop mem
  exact exists_spans_group hfree hbehind hbinds hlast

/-- A capture that may be absent is there, or leaves its stem behind. -/
theorem exists_spans_optional (hoptional : modifier.isOptional = true) (hstem : stem ≠ [])
    (hfree : (Segment.capture stem name constraint modifier).Captureless ignoreCase) (index : Nat)
    (hdrop : text.drop s.position = s.rest)
    (mem : way ∈ sequenceWays (slashSpelling ignoreCase stem ++
      [optionExpr (.group index (modifier.valueOf (pieceExpr ignoreCase constraint)))]) s) :
    ∃ values, (Segment.capture stem name constraint modifier).Spans ignoreCase s way.2 values ∧
      Binds text index 1 way (values, way.2.rest) := by
  obtain ⟨first, last, hbehind, hbinds, hlast, rfl⟩ := exists_behind_stem index hdrop mem
  rw [ways_optionExpr] at hlast
  rcases List.mem_append.mp hlast with hlast | hlast
  · exact exists_spans_group hfree hbehind hbinds hlast
  · obtain rfl := List.mem_singleton.mp hlast
    exact ⟨[none], .leftOut hoptional hstem hbehind,
      hbinds.append (.absent index hbinds.drop_eq (List.nil_append _).symm)⟩

/-- A capture without a stem that may be absent is there, or leaves nothing behind. -/
theorem exists_spans_bare (hoptional : modifier.isOptional = true)
    (hfree : (Segment.capture [] name constraint modifier).Captureless ignoreCase) (index : Nat)
    (hdrop : text.drop s.position = s.rest)
    (mem : way ∈ sequenceWays [optionExpr (.cat (charExpr '/')
      (.group index (modifier.valueOf (pieceExpr ignoreCase constraint))))] s) :
    ∃ values, (Segment.capture [] name constraint modifier).Spans ignoreCase s way.2 values ∧
      Binds text index 1 way (values, way.2.rest) := by
  rw [sequenceWays_singleton, ways_optionExpr] at mem
  rcases List.mem_append.mp mem with mem | mem
  · refine exists_spans_required hfree index hdrop ?_
    rw [sequenceWays_append]
    simpa [slashSpelling, sequenceWays_singleton, sequenceWays, Expr.ways] using mem
  · obtain rfl := List.mem_singleton.mp mem
    exact ⟨[none], .absent hoptional rfl, .absent index hdrop (List.nil_append _).symm⟩

end

/-- Whatever way a segment is matched, it spans what it takes and binds its own values. -/
theorem exists_spans_spelling {segment : Segment} (hfree : segment.Captureless ignoreCase)
    (index : Nat) (hdrop : text.drop s.position = s.rest)
    (mem : way ∈ sequenceWays (segment.spelling ignoreCase index) s) :
    ∃ values, segment.Spans ignoreCase s way.2 values ∧
      Binds text index segment.captureCount way (values, way.2.rest) := by
  cases segment with
  | wildcard =>
    exact ⟨[], .wildcard (Expr.spans_sequence mem), binds_unmarked rfl index hdrop mem⟩
  | literal body =>
    exact ⟨[], .literal (Expr.spans_sequence mem),
      binds_unmarked (flatMap_groups_slashSpelling ignoreCase body) index hdrop mem⟩
  | capture stem name constraint modifier =>
    simp only [Segment.spelling, captureSpelling] at mem
    split at mem
    · rename_i hoptional
      split at mem
      · rename_i hstem
        obtain rfl := List.isEmpty_iff.mp hstem
        exact exists_spans_bare hoptional hfree index hdrop mem
      · rename_i hstem
        exact exists_spans_optional hoptional (by simpa using hstem) hfree index hdrop mem
    · exact exists_spans_required hfree index hdrop mem

/-- Whatever way some segments are matched, each spans what it takes and binds its own values. -/
theorem exists_span_segmentsSpelling {segments : List Segment}
    (hfree : ∀ segment ∈ segments, segment.Captureless ignoreCase) (index : Nat)
    (hdrop : text.drop s.position = s.rest)
    (mem : way ∈ sequenceWays (segmentsSpelling ignoreCase index segments) s) :
    ∃ values, Span ignoreCase segments values s way.2 ∧
      Binds text index (captureCount segments) way (values, way.2.rest) := by
  induction segments generalizing s way index with
  | nil =>
    obtain rfl := List.mem_singleton.mp mem
    exact ⟨[], .nil, .unmarked index hdrop (List.nil_append _).symm⟩
  | cons segment segments ih =>
    rw [segmentsSpelling, sequenceWays_append] at mem
    obtain ⟨first, hfirst, last, hlast, rfl⟩ := mem_andThen.mp mem
    obtain ⟨values, hspans, hbinds⟩ :=
      exists_spans_spelling (hfree segment List.mem_cons_self) index hdrop hfirst
    obtain ⟨others, hmore, hothers⟩ :=
      ih (fun other mem => hfree other (List.mem_cons_of_mem segment mem))
        (index + segment.captureCount) hbinds.drop_eq hlast
    exact ⟨values ++ others, .cons hspans hmore, hbinds.append hothers⟩

theorem covers_of_mem_endingParts {coverage : Coverage}
    (mem : way ∈ sequenceWays coverage.endingParts s) : coverage.covers s.rest = true := by
  have hend := head?_endingParts coverage s
  by_contra hcovers
  rw [if_neg hcovers, Option.map_eq_none_iff, List.head?_eq_none_iff] at hend
  rw [hend] at mem
  cases mem

theorem covers_of_mem_rootParts {coverage : Coverage}
    (mem : way ∈ sequenceWays coverage.rootParts s) : coverage.covers s.rest = true := by
  have hends : way ∈ sequenceWays coverage.endingParts s := by
    rw [sequenceWays_endingParts]
    exact List.mem_append_left _ mem
  exact covers_of_mem_endingParts hends

/-- Whatever way the parts of a pattern are matched, its segments span the path up to what its end
leaves open, and the groups took the values of the captures. -/
theorem exists_span_spelledParts {segments : List Segment} {coverage : Coverage}
    (hfree : ∀ segment ∈ segments, segment.Captureless ignoreCase)
    (mem : way ∈ sequenceWays (spelledParts ignoreCase segments coverage) (.start text)) :
    ∃ values t, Span ignoreCase segments values (.start text) t ∧ coverage.covers t.rest = true ∧
      (List.range (captureCount segments)).map (fun i => groupText? text way.1 (i + 1)) =
        values.map (·.map String.ofList) := by
  unfold spelledParts at mem
  split at mem
  · rename_i hempty
    obtain rfl := List.isEmpty_iff.mp hempty
    exact ⟨[], .start text, .nil, covers_of_mem_rootParts mem, rfl⟩
  · rw [sequenceWays_append] at mem
    obtain ⟨first, hfirst, last, hlast, rfl⟩ := mem_andThen.mp mem
    obtain ⟨values, hspan, hbinds⟩ := exists_span_segmentsSpelling hfree 1 rfl hfirst
    have hmarks : last.1 = [] := marks_eq_nil (by cases coverage <;> rfl) hlast
    refine ⟨values, first.2, hspan, covers_of_mem_endingParts hlast, ?_⟩
    rw [hmarks, List.nil_append]
    exact hbinds.groups_eq

end

end RouteChain
