import Mathlib.Data.List.Forall2
import RouteChain.Proofs.Pattern.Taking

/-!
# What the captures of an expression bind

The groups of the expression of a pattern take what the captures of its segments bind.

## Main definitions

* `Segment.parts` — the parts of the expression of a segment.
* `Binds` — a way to match binds what a segment takes.
-/

namespace RouteChain

open Regex Regex.Way

/-! ## What is taken -/

theorem eq_append_of_mem_takeRun {text : List Char} {taken : List Char × List Char}
    (h : taken ∈ takeRun text) : text = taken.1 ++ taken.2 ∧ atBoundary taken.2 = true := by
  simp only [takeRun] at h
  split at h
  · cases h
  · rw [List.mem_singleton.mp h]
    exact ⟨List.takeWhile_append_dropWhile.symm, atBoundary_dropWhile text⟩

/-- Runs are one run, or one run and a slash before some others. -/
theorem mem_takeRuns {text : List Char} {taken : List Char × List Char}
    (h : taken ∈ takeRuns text) : taken ∈ takeRun text ∨
      ∃ run rest, (run, '/' :: rest) ∈ takeRun text ∧
        ∃ others ∈ takeRuns rest, taken = (run ++ '/' :: others.1, others.2) := by
  rw [takeRuns] at h
  simp only [takeRun]
  split at h
  · cases h
  · rename_i some
    rw [if_neg some]
    split at h
    · exact .inl h
    · rename_i more
      rcases List.mem_append.mp h with h | h
      · obtain ⟨others, mem, rfl⟩ := List.mem_map.mp h
        have hleft := atBoundary_dropWhile text
        cases hdrop : text.dropWhile (· != '/') with
        | nil => simp [hdrop] at more
        | cons c rest =>
          rw [hdrop] at mem hleft
          obtain rfl : c = '/' := by simpa [atBoundary] using hleft
          exact .inr ⟨_, rest, List.mem_singleton.mpr rfl, others, mem, rfl⟩
      · exact .inl h

theorem eq_append_of_mem_takeRuns {text : List Char} {taken : List Char × List Char}
    (h : taken ∈ takeRuns text) : text = taken.1 ++ taken.2 ∧ atBoundary taken.2 = true := by
  induction hlength : text.length using Nat.strongRecOn generalizing text taken with
  | ind length ih =>
    rcases mem_takeRuns h with h | ⟨run, rest, hrun, others, hothers, rfl⟩
    · exact eq_append_of_mem_takeRun h
    · have hsplit := (eq_append_of_mem_takeRun hrun).1
      have hshorter : rest.length < length := by
        rw [← hlength, hsplit, List.length_append, List.length_cons]
        omega
      obtain ⟨hrest, hboundary⟩ := ih _ hshorter hothers rfl
      refine ⟨?_, hboundary⟩
      rw [hsplit, hrest]
      simp

theorem eq_append_of_mem_takeLine {text : List Char} {taken : List Char × List Char}
    (h : taken ∈ takeLine text) : text = taken.1 ++ taken.2 := by
  induction text generalizing taken with
  | nil =>
    rw [List.mem_singleton.mp h]
    rfl
  | cons c text ih =>
    unfold takeLine at h
    split at h
    · rw [List.mem_singleton.mp h]
      rfl
    · rcases List.mem_append.mp h with h | h
      · obtain ⟨more, hmore, rfl⟩ := List.mem_map.mp h
        simp [← ih hmore]
      · rw [List.mem_singleton.mp h]
        rfl

theorem mem_takeText {start text rest : List Char} (h : rest ∈ takeText start text) :
    text = start ++ rest := by
  unfold takeText at h
  split at h
  · rename_i starts
    obtain ⟨other, rfl⟩ := List.isPrefixOf_iff_prefix.mp starts
    rw [List.mem_singleton.mp h]
    simp
  · cases h

/-! ## The parts of the expression -/

/-- What takes the value of a capture. -/
def Modifier.valueExpr : Modifier → Expr
  | .one | .optional => runExpr
  | .oneOrMore | .zeroOrMore => runsExpr

def optionExpr (x : Expr) : Expr :=
  .repetition 0 (some 1) true x

/-- A slash with a text behind it, character by character. -/
def slashParts (text : List Char) : List Expr :=
  ('/' :: text).map charExpr

/-- The parts of the expression of a segment whose captures are numbered from `index`. -/
def Segment.parts (index : Nat) : Segment → List Expr
  | .wildcard => slashParts [] ++ [lineExpr]
  | .literal text => slashParts text
  | .capture stem _ _ modifier =>
    let value := .group index modifier.valueExpr
    if modifier.isOptional then
      if stem.isEmpty then [optionExpr (.cat (charExpr '/') value)]
      else slashParts stem ++ [optionExpr value]
    else slashParts stem ++ [value]

def Segment.captureCount : Segment → Nat
  | .capture _ _ _ _ => 1
  | _ => 0

theorem bounded_valueExpr (modifier : Modifier) (s : Spot) :
    bounded (modifier.valueExpr.ways s) =
      (modifier.takes s.rest).map (fun taken => ([], s.skip taken.1)) := by
  cases modifier with
  | one | optional => exact bounded_runExpr s
  | oneOrMore | zeroOrMore => exact bounded_runsExpr s

theorem eq_append_of_mem_takes {modifier : Modifier} {text : List Char}
    {taken : List Char × List Char} (h : taken ∈ modifier.takes text) :
    text = taken.1 ++ taken.2 ∧ atBoundary taken.2 = true := by
  cases modifier with
  | one | optional => exact eq_append_of_mem_takeRun h
  | oneOrMore | zeroOrMore => exact eq_append_of_mem_takeRuns h

theorem sequenceWays_slashParts (text : List Char) (s : Spot) :
    sequenceWays (slashParts text) s =
      (takeText ('/' :: text) s.rest).map (fun _ => ([], s.skip ('/' :: text))) := by
  rw [slashParts, sequenceWays_text, takeText]
  split <;> rfl

theorem ways_optionExpr (x : Expr) (s : Spot) :
    (optionExpr x).ways s = x.ways s ++ stay s := by
  simp [optionExpr, Expr.ways, repeated_zero_one, prefer]

/-! ## Groups and values -/

/-- A way to match binds what a segment, or several, take from the same place: where it ends the
same is left of the text, and its groups, numbered from `index`, took the values of the captures. -/
structure Binds (text : List Char) (index count : Nat) (way : Way)
    (taken : List (Option (List Char)) × List Char) : Prop where
  rest_eq : way.2.rest = taken.2
  drop_eq : text.drop way.2.position = way.2.rest
  length_eq : taken.1.length = count
  own : ∀ mark ∈ way.1, index ≤ mark.index ∧ mark.index < index + count
  value_eq : ∀ n value, taken.1[n]? = some value →
    groupText? text way.1 (index + n) = value.map String.ofList

/-- A place of a text stays one when characters are skipped that stand there. -/
theorem drop_skip {text taken rest : List Char} {s : Spot} (h : text.drop s.position = s.rest)
    (hrest : s.rest = taken ++ rest) : text.drop (s.skip taken).position = (s.skip taken).rest := by
  rw [Spot.position_skip, Spot.rest_skip hrest, ← List.drop_drop, h, hrest, List.drop_left]

/-- A way that sets no marks binds nothing. -/
theorem Binds.unmarked {text taken rest : List Char} {s : Spot} (index : Nat)
    (h : text.drop s.position = s.rest) (hrest : s.rest = taken ++ rest) :
    Binds text index 0 ([], s.skip taken) ([], rest) where
  rest_eq := Spot.rest_skip hrest
  drop_eq := drop_skip h hrest
  length_eq := rfl
  own _ mem := by cases mem
  value_eq _ _ mem := by simp at mem

/-- A capture that is absent binds nothing. -/
theorem Binds.absent {text taken rest : List Char} {s : Spot} (index : Nat)
    (h : text.drop s.position = s.rest) (hrest : s.rest = taken ++ rest) :
    Binds text index 1 ([], s.skip taken) ([none], rest) where
  rest_eq := Spot.rest_skip hrest
  drop_eq := drop_skip h hrest
  length_eq := rfl
  own _ mem := by cases mem
  value_eq n value mem := by
    cases n with
    | zero =>
      obtain rfl : none = value := by simpa using mem
      rfl
    | succ n => simp at mem

/-- A capture that is present binds what its group takes. -/
theorem Binds.present {text value rest : List Char} {s : Spot} (index : Nat)
    (h : text.drop s.position = s.rest) (hrest : s.rest = value ++ rest) :
    Binds text index 1
      ([⟨index, true, (s.skip value).position⟩, ⟨index, false, s.position⟩], s.skip value)
      ([some value], rest) where
  rest_eq := Spot.rest_skip hrest
  drop_eq := drop_skip h hrest
  length_eq := rfl
  own mark mem := by
    simp only [List.mem_cons, List.not_mem_nil, or_false] at mem
    rcases mem with rfl | rfl <;> exact ⟨Nat.le_refl _, Nat.lt_succ_self _⟩
  value_eq n other mem := by
    cases n with
    | zero =>
      obtain rfl : some value = other := by simpa using mem
      simp [groupText?, lastMark, h, hrest, Spot.position_skip]
    | succ n => simp at mem

/-- Marks of other groups do not count. -/
theorem lastMark_append_of_left {marks others : List Mark} {index : Nat} (isEnd : Bool)
    (h : ∀ mark ∈ marks, mark.index ≠ index) :
    lastMark (marks ++ others) index isEnd = lastMark others index isEnd := by
  have hnone : marks.find? (fun mark => mark.index = index ∧ mark.isEnd = isEnd) = none := by
    simpa using fun mark mem same => absurd same (h mark mem)
  rw [lastMark, lastMark, List.find?_append, hnone, Option.none_or]

theorem lastMark_append_of_right {marks others : List Mark} {index : Nat} (isEnd : Bool)
    (h : ∀ mark ∈ others, mark.index ≠ index) :
    lastMark (marks ++ others) index isEnd = lastMark marks index isEnd := by
  have hnone : others.find? (fun mark => mark.index = index ∧ mark.isEnd = isEnd) = none := by
    simpa using fun mark mem same => absurd same (h mark mem)
  rw [lastMark, lastMark, List.find?_append, hnone, Option.or_none]

/-- One way after another binds what is taken one after the other. -/
theorem Binds.append {text rest left : List Char} {index count more : Nat} {way last : Way}
    {values others : List (Option (List Char))} (h : Binds text index count way (values, rest))
    (h' : Binds text (index + count) more last (others, left)) :
    Binds text index (count + more) (last.1 ++ way.1, last.2) (values ++ others, left) where
  rest_eq := h'.rest_eq
  drop_eq := h'.drop_eq
  length_eq := by
    have := h.length_eq
    have := h'.length_eq
    grind
  own mark mem := by
    rcases List.mem_append.mp mem with mem | mem
    · have := h'.own mark mem
      omega
    · have := h.own mark mem
      omega
  value_eq n value mem := by
    have hlength : values.length = count := h.length_eq
    by_cases hn : n < count
    · rw [List.getElem?_append_left (by omega)] at mem
      rw [← h.value_eq n value mem, groupText?, groupText?]
      have hleft : ∀ mark ∈ last.1, mark.index ≠ index + n := fun mark mem => by
        have := h'.own mark mem
        omega
      rw [lastMark_append_of_left false hleft, lastMark_append_of_left true hleft]
    · rw [List.getElem?_append_right (by omega), hlength] at mem
      have hright : ∀ mark ∈ way.1, mark.index ≠ index + n := fun mark mem => by
        have := h.own mark mem
        omega
      have hindex : index + n = index + count + (n - count) := by omega
      rw [← h'.value_eq (n - count) value mem, groupText?, groupText?, ← hindex,
        lastMark_append_of_right false hright, lastMark_append_of_right true hright]

/-! ## Segments -/

/-- What is taken up to a boundary. -/
def boundedTakes (takes : List (List (Option (List Char)) × List Char)) :
    List (List (Option (List Char)) × List Char) :=
  takes.filter (fun taken => atBoundary taken.2)

theorem bounded_enclose (index : Nat) (s : Spot) (ways : List Way) :
    bounded (enclose index s ways) = enclose index s (bounded ways) := by
  simp [bounded, enclose, List.filter_map, Function.comp_def]

/-- The group of a capture takes its value. -/
theorem bounded_group (index : Nat) (modifier : Modifier) (s : Spot) :
    bounded (Expr.ways (.group index modifier.valueExpr) s) =
      (modifier.takes s.rest).map (fun taken =>
        ([⟨index, true, (s.skip taken.1).position⟩, ⟨index, false, s.position⟩],
          s.skip taken.1)) := by
  rw [Expr.ways, bounded_enclose, bounded_valueExpr]
  simp [enclose, Function.comp_def]

/-- Ways that bind what is taken still do so when only those up to a boundary are kept. -/
theorem forall₂_bounded {text : List Char} {index count : Nat} {ways : List Way}
    {takes : List (List (Option (List Char)) × List Char)}
    (h : List.Forall₂ (Binds text index count) ways takes) :
    List.Forall₂ (Binds text index count) (bounded ways) (boundedTakes takes) := by
  induction h with
  | nil => exact .nil
  | cons binds _ ih =>
    simp only [bounded, boundedTakes, List.filter_cons, binds.rest_eq]
    split
    · exact .cons binds ih
    · exact ih

/-- A slash with a text behind it is there or not. -/
theorem takeText_cases (start text : List Char) :
    takeText start text = [] ∨ ∃ rest, text = start ++ rest ∧ takeText start text = [rest] := by
  cases h : takeText start text with
  | nil => exact .inl rfl
  | cons rest others =>
    have hrest : text = start ++ rest := mem_takeText (by simp [h])
    refine .inr ⟨rest, hrest, ?_⟩
    rw [← h, takeText, hrest]
    simp

/-- The ways of a capture that is present bind its values. -/
theorem forall₂_present {text : List Char} (index : Nat) (modifier : Modifier) {s : Spot}
    (h : text.drop s.position = s.rest) :
    List.Forall₂ (Binds text index 1)
      (bounded (Expr.ways (.group index modifier.valueExpr) s))
      (boundedTakes ((modifier.takes s.rest).map (fun taken => ([some taken.1], taken.2)))) := by
  have hall : boundedTakes ((modifier.takes s.rest).map (fun taken => ([some taken.1], taken.2))) =
      (modifier.takes s.rest).map (fun taken => ([some taken.1], taken.2)) := by
    refine List.filter_eq_self.mpr fun taken mem => ?_
    obtain ⟨inner, hinner, rfl⟩ := List.mem_map.mp mem
    exact (eq_append_of_mem_takes hinner).2
  rw [hall, bounded_group, List.forall₂_map_left_iff, List.forall₂_map_right_iff, List.forall₂_same]
  exact fun taken mem => .present index h (eq_append_of_mem_takes mem).1

theorem forall₂_line {text : List Char} (index : Nat) {s : Spot}
    (h : text.drop s.position = s.rest) :
    List.Forall₂ (Binds text index 0) (lineExpr.ways s)
      ((takeLine s.rest).map (fun taken => ([], taken.2))) := by
  rw [ways_lineExpr, List.forall₂_map_left_iff, List.forall₂_map_right_iff, List.forall₂_same]
  exact fun taken mem => .unmarked index h (eq_append_of_mem_takeLine mem)

/-- What stands behind a slash and a text is matched there. -/
theorem sequenceWays_behind (stem : List Char) (x : Expr) (s : Spot) :
    sequenceWays (slashParts stem ++ [x]) s =
      (takeText ('/' :: stem) s.rest).flatMap (fun _ => x.ways (s.skip ('/' :: stem))) := by
  rw [sequenceWays_append, sequenceWays_slashParts]
  rcases takeText_cases ('/' :: stem) s.rest with htake | ⟨left, -, htake⟩ <;>
    simp [htake, sequenceWays_singleton]

/-- What may be left out behind a slash and a text is there, or the text stands alone. -/
theorem sequenceWays_option (stem : List Char) (x : Expr) (s : Spot) :
    sequenceWays (slashParts stem ++ [optionExpr x]) s =
      sequenceWays (slashParts stem ++ [x]) s ++ sequenceWays (slashParts stem) s := by
  simp only [sequenceWays_behind, sequenceWays_slashParts, ways_optionExpr]
  rcases takeText_cases ('/' :: stem) s.rest with htake | ⟨left, -, htake⟩ <;> simp [htake, stay]

theorem forall₂_wildcard {text : List Char} (index : Nat) {s : Spot}
    (h : text.drop s.position = s.rest) :
    List.Forall₂ (Binds text index 0) (sequenceWays (Segment.wildcard.parts index) s)
      (Segment.wildcard.takes s.rest) := by
  simp only [Segment.parts, Segment.takes, sequenceWays_behind]
  rcases takeText_cases ['/'] s.rest with htake | ⟨left, hleft, htake⟩
  · simp [htake]
  · have hline := forall₂_line index (drop_skip h hleft)
    rw [Spot.rest_skip hleft] at hline
    simpa [htake] using hline

theorem forall₂_literal {text : List Char} (index : Nat) (body : List Char) {s : Spot}
    (h : text.drop s.position = s.rest) :
    List.Forall₂ (Binds text index 0) (sequenceWays ((Segment.literal body).parts index) s)
      ((Segment.literal body).takes s.rest) := by
  simp only [Segment.parts, Segment.takes, sequenceWays_slashParts]
  rcases takeText_cases ('/' :: body) s.rest with htake | ⟨left, hleft, htake⟩
  · simp [htake]
  · simpa [htake] using Binds.unmarked index h hleft

/-- The value of a capture behind its slash and its stem. -/
theorem forall₂_value {text : List Char} (index : Nat) (stem : List Char) (modifier : Modifier)
    {s : Spot} (h : text.drop s.position = s.rest) :
    List.Forall₂ (Binds text index 1)
      (bounded (sequenceWays (slashParts stem ++ [.group index modifier.valueExpr]) s))
      (boundedTakes ((takeText ('/' :: stem) s.rest).flatMap (fun rest =>
        (modifier.takes rest).map (fun taken => ([some taken.1], taken.2))))) := by
  rw [sequenceWays_behind]
  rcases takeText_cases ('/' :: stem) s.rest with htake | ⟨left, hleft, htake⟩
  · simp [htake, bounded, boundedTakes]
  · have hvalue := forall₂_present index modifier (drop_skip h hleft)
    rw [Spot.rest_skip hleft] at hvalue
    simpa [htake] using hvalue

/-- The slash and the stem that an absent capture leaves behind. -/
theorem forall₂_stem {text : List Char} (index : Nat) (stem : List Char) {s : Spot}
    (h : text.drop s.position = s.rest) :
    List.Forall₂ (Binds text index 1) (sequenceWays (slashParts stem) s)
      ((takeText ('/' :: stem) s.rest).map (fun left => ([none], left))) := by
  rw [sequenceWays_slashParts]
  rcases takeText_cases ('/' :: stem) s.rest with htake | ⟨left, hleft, htake⟩
  · simp [htake]
  · simpa [htake] using Binds.absent index h hleft

/-- The expression of a segment takes and binds what the segment does. -/
theorem forall₂_segment {text : List Char} (index : Nat) (segment : Segment) {s : Spot}
    (h : text.drop s.position = s.rest) :
    List.Forall₂ (Binds text index segment.captureCount)
      (bounded (sequenceWays (segment.parts index) s)) (boundedTakes (segment.takes s.rest)) := by
  cases segment with
  | wildcard => exact forall₂_bounded (forall₂_wildcard index h)
  | literal body => exact forall₂_bounded (forall₂_literal index body h)
  | capture stem name constraint modifier =>
    have hvalue := forall₂_value index stem modifier h
    simp only [Segment.parts, Segment.takes, Segment.captureCount]
    cases hoptional : modifier.isOptional with
    | false => simpa using hvalue
    | true =>
      cases hstem : stem.isEmpty with
      | false =>
        have hall := List.rel_append hvalue (forall₂_bounded (forall₂_stem index stem h))
        simpa [sequenceWays_option, boundedTakes] using hall
      | true =>
        obtain rfl := List.isEmpty_iff.mp hstem
        have habsent : List.Forall₂ (Binds text index 1) (stay s) [([none], s.rest)] :=
          .cons (.absent index h (List.nil_append _).symm) .nil
        have hall := List.rel_append hvalue (forall₂_bounded habsent)
        simpa [sequenceWays_singleton, ways_optionExpr, Expr.ways, slashParts, sequenceWays,
          boundedTakes] using hall

end RouteChain
