import RouteChain.Proofs.Pattern.Guarding
import RouteChain.Proofs.Pattern.ReadingBack
import RouteChain.Proofs.Pattern.WritingBack
import RouteChain.Proofs.Regex.Completeness

/-!
# What modifiers mean

A capture that may be absent takes part in a match or does not: a pattern in which it may be absent
matches the paths that the pattern matches in which it has to be there, and those that the pattern
matches without it. A capture that is absent leaves its stem behind, as a literal.

The main result is `PatternCompiler.accepts_optional_iff`.
-/

namespace RouteChain

open Regex Regex.Way

/-! ## Signs -/

section

variable {stem : List Char} {name constraint : Option (List Char)} {modifier : Modifier}

theorem captureWriting_eq_append (stem : List Char) (name constraint : Option (List Char))
    (modifier : Modifier) : captureWriting stem name constraint modifier =
      captureWriting stem name constraint .one ++ modifier.sign := by
  simp [captureWriting, Modifier.sign]

/-- Before its sign a capture ends with a parenthesis or a name. -/
theorem Writes.exists_last {text : List Char} (h : Writes text stem name constraint modifier) :
    ∃ front last, captureWriting stem name constraint .one = front ++ [last] ∧
      ∀ modifier : Modifier, last ∉ modifier.sign := by
  cases constraint with
  | some body =>
    refine ⟨stem ++ (nameText name ++ '(' :: body), ')', ?_, fun modifier mem => ?_⟩
    · simp [captureWriting, constraintText, Modifier.sign]
    · exact absurd (Modifier.mem_sign mem) (by decide)
  | none =>
    obtain ⟨word, rfl⟩ := Option.ne_none_iff_exists'.mp (mt h.marked (by simp))
    obtain ⟨hne, hword⟩ := h.isName word rfl
    obtain ⟨front, last, rfl⟩ := (List.eq_nil_or_concat' word).resolve_left hne
    refine ⟨stem ++ ':' :: front, last, ?_, fun modifier mem => ?_⟩
    · simp [captureWriting, nameText, constraintText, Modifier.sign]
    · have hlast := hword last (by simp)
      rcases Modifier.mem_sign mem with rfl | rfl | rfl <;> exact absurd hlast (by decide)

/-- What ends in no sign is followed by as much of a sign as anything that does not. -/
theorem Modifier.eq_nil_of_sign {modifier : Modifier} {front behind more : List Char} {last : Char}
    (hlast : last ∉ modifier.sign) (h : behind ++ [last] = front ++ more)
    (hsign : ∀ c ∈ more, c ∈ modifier.sign) : more = [] := by
  rcases List.eq_nil_or_concat' more with rfl | ⟨init, c, rfl⟩
  · rfl
  · rw [← List.append_assoc] at h
    obtain ⟨-, hc⟩ := List.append_inj' h rfl
    obtain rfl := List.singleton_inj.mp hc
    exact absurd (hsign last (by simp)) hlast

/-- A capture is written with one sign only, and with any other sign it is written likewise. -/
theorem Writes.remark {text stem' : List Char} {name' constraint' : Option (List Char)}
    {other : Modifier} (h : Writes text stem name constraint modifier)
    (h' : Writes text stem' name' constraint' other) (sign : Modifier) :
    Writes (captureWriting stem name constraint sign) stem' name' constraint' sign := by
  obtain ⟨front, last, hfront, hlast⟩ := h.exists_last
  obtain ⟨front', last', hfront', hlast'⟩ := h'.exists_last
  have htext : captureWriting stem name constraint .one ++ modifier.sign =
      captureWriting stem' name' constraint' .one ++ other.sign := by
    rw [← captureWriting_eq_append, ← captureWriting_eq_append, ← h.text_eq, ← h'.text_eq]
  have hsame : captureWriting stem name constraint .one =
      captureWriting stem' name' constraint' .one := by
    rcases List.append_eq_append_iff.mp htext with ⟨more, hmore, hsign⟩ | ⟨more, hmore, hsign⟩
    · have hnil := Modifier.eq_nil_of_sign (hlast' modifier) (hfront'.symm.trans hmore) fun c mem =>
        hsign ▸ List.mem_append_left _ mem
      rw [hmore, hnil, List.append_nil]
    · have hnil := Modifier.eq_nil_of_sign (hlast other) (hfront.symm.trans hmore) fun c mem =>
        hsign ▸ List.mem_append_left _ mem
      rw [hmore, hnil, List.append_nil]
  refine ⟨?_, h'.stem_line, h'.isName, h'.admissible, h'.marked⟩
  rw [captureWriting_eq_append, hsame, ← captureWriting_eq_append]

theorem canBeCapture_remark {hasName : Bool}
    (h : Writes (captureWriting stem name constraint modifier) stem name constraint modifier)
    (sign : Modifier)
    (hcan : CanBeCapture hasName (captureWriting stem name constraint sign)) :
    CanBeCapture hasName (captureWriting stem name constraint modifier) := by
  obtain ⟨stem', name', constraint', other, hname, writes⟩ := hcan
  exact ⟨stem', name', constraint', modifier, hname, (h.remark h sign).remark writes modifier⟩

/-- A capture with another sign is the same capture with another modifier. -/
theorem Segment.classify_remark {text : List Char}
    (h : classify text = .capture stem name constraint modifier) (sign : Modifier) :
    classify (captureWriting stem name constraint sign) = .capture stem name constraint sign := by
  have longest {text : List Char} (writes : LongestWriting text stem name constraint modifier) :
      LongestWriting (captureWriting stem name constraint sign) stem name constraint sign := by
    have hsign := writes.toWrites.remark writes.toWrites sign
    refine ⟨hsign, fun other name' constraint' modifier' hother hname => ?_⟩
    have hback := hsign.remark hother modifier
    rw [← writes.text_eq] at hback
    exact writes.longest other name' constraint' modifier hback hname
  rw [classify_eq_iff] at h ⊢
  cases h with
  | named writes => exact .named (longest writes)
  | unnamed nameless writes =>
    obtain rfl := writes.text_eq
    exact .unnamed (mt (canBeCapture_remark writes.toWrites sign) nameless) (longest writes)

end

/-! ## Spans -/

section

variable {x y : Expr} {parts others : List Expr} {s t : Spot}

theorem Regex.Expr.spans_sequence_iff :
    (Expr.sequence parts).Spans s t ↔ ∃ marks, (marks, t) ∈ sequenceWays parts s := by
  rw [Spans, ways_sequence]

theorem Regex.Expr.spans_sequence_append : (Expr.sequence (parts ++ others)).Spans s t ↔
    ∃ mid, (Expr.sequence parts).Spans s mid ∧ (Expr.sequence others).Spans mid t := by
  simp only [spans_sequence_iff, sequenceWays_append]
  constructor
  · rintro ⟨marks, mem⟩
    obtain ⟨first, hfirst, last, hlast, heq⟩ := mem_andThen.mp mem
    obtain ⟨-, rfl⟩ := Prod.mk.inj heq
    exact ⟨first.2, ⟨first.1, hfirst⟩, last.1, hlast⟩
  · rintro ⟨mid, ⟨first, hfirst⟩, last, hlast⟩
    exact ⟨last ++ first, mem_andThen.mpr ⟨_, hfirst, _, hlast, rfl⟩⟩

theorem Regex.Expr.spans_sequence_nil : (Expr.sequence []).Spans s t ↔ s = t := by
  simp [spans_sequence_iff, sequenceWays, stay, eq_comm]

theorem Regex.Expr.spans_sequence_singleton : (Expr.sequence [x]).Spans s t ↔ x.Spans s t := by
  rw [sequence_singleton]

theorem Regex.Expr.spans_group {index : Nat} : (Expr.group index x).Spans s t ↔ x.Spans s t := by
  simp [Spans, ways, enclose]

theorem Regex.Expr.spans_optionExpr : (optionExpr x).Spans s t ↔ x.Spans s t ∨ s = t := by
  simp [Spans, ways_optionExpr, stay, exists_or, eq_comm]

theorem Regex.Expr.spans_cat :
    (Expr.cat x y).Spans s t ↔ (Expr.sequence ([x] ++ [y])).Spans s t := by
  have hlast : sequenceWays [y] = y.ways := funext (sequenceWays_singleton y)
  rw [spans_sequence_iff, sequenceWays_append, sequenceWays_singleton, hlast, Spans, ways]

end

/-! ## Captures that may be absent -/

section

variable {ignoreCase : Bool} {s t : Spot}

/-- How the captures of a segment are numbered does not matter for where it leads. -/
theorem Segment.spans_spelling (segment : Segment) (index other : Nat) :
    (Expr.sequence (segment.spelling ignoreCase index)).Spans s t ↔
      (Expr.sequence (segment.spelling ignoreCase other)).Spans s t := by
  cases segment with
  | wildcard | literal => rfl
  | capture stem name constraint modifier =>
    simp only [spelling, captureSpelling]
    split
    · split <;> simp only [Expr.spans_sequence_append, Expr.spans_sequence_singleton,
        Expr.spans_optionExpr, Expr.spans_cat, Expr.spans_group]
    · simp only [Expr.spans_sequence_append, Expr.spans_sequence_singleton, Expr.spans_group]

/-- Some segments lead from one place of a path to another. -/
def Reach (ignoreCase : Bool) (segments : List Segment) (s t : Spot) : Prop :=
  (Expr.sequence (segmentsSpelling ignoreCase 1 segments)).Spans s t

theorem spans_segmentsSpelling (segments : List Segment) (index other : Nat) :
    (Expr.sequence (segmentsSpelling ignoreCase index segments)).Spans s t ↔
      (Expr.sequence (segmentsSpelling ignoreCase other segments)).Spans s t := by
  induction segments generalizing index other s with
  | nil => rfl
  | cons segment segments ih =>
    simp only [segmentsSpelling, Expr.spans_sequence_append]
    simp only [segment.spans_spelling index other,
      ih (index + segment.captureCount) (other + segment.captureCount)]

theorem reach_append {segments others : List Segment} : Reach ignoreCase (segments ++ others) s t ↔
    ∃ mid, Reach ignoreCase segments s mid ∧ Reach ignoreCase others mid t := by
  simp only [Reach, segmentsSpelling_append, Expr.spans_sequence_append,
    spans_segmentsSpelling others (1 + captureCount segments) 1]

theorem reach_singleton {segment : Segment} : Reach ignoreCase [segment] s t ↔
    (Expr.sequence (segment.spelling ignoreCase 1)).Spans s t := by
  simp [Reach, segmentsSpelling]

/-- The modifier of a capture that takes as much but may be absent. -/
def Modifier.orAbsent : Modifier → Modifier
  | .one | .optional => .optional
  | .oneOrMore | .zeroOrMore => .zeroOrMore

/-- What a capture leaves behind if it is absent: its stem, as a literal. -/
def leftBehind (stem : List Char) : List Segment :=
  if stem = [] then [] else [.literal stem]

/-- A capture that may be absent leads where it leads if it has to be there, and where it leads if
it is absent. -/
theorem reach_orAbsent (stem : List Char) (name constraint : Option (List Char))
    {modifier : Modifier} (hmodifier : modifier.isOptional = false) :
    Reach ignoreCase [.capture stem name constraint modifier.orAbsent] s t ↔
      Reach ignoreCase [.capture stem name constraint modifier] s t ∨
        Reach ignoreCase (leftBehind stem) s t := by
  have hvalue (x : Expr) : modifier.orAbsent.valueOf x = modifier.valueOf x := by
    cases modifier <;> rfl
  have hoptional : modifier.orAbsent.isOptional = true := by cases modifier <;> rfl
  rw [reach_singleton, reach_singleton]
  simp only [Segment.spelling, captureSpelling, hmodifier, hoptional, hvalue, if_true,
    Bool.false_eq_true, if_false]
  cases stem with
  | nil =>
    have hnothing : Reach ignoreCase (leftBehind []) s t ↔ s = t := Expr.spans_sequence_nil
    simp only [List.isEmpty_nil, if_true, Expr.spans_sequence_singleton, Expr.spans_optionExpr,
      Expr.spans_cat, hnothing]
    rfl
  | cons c stem =>
    have hliteral : Reach ignoreCase (leftBehind (c :: stem)) s t ↔
        (Expr.sequence (slashSpelling ignoreCase (c :: stem))).Spans s t := by
      rw [leftBehind, if_neg (List.cons_ne_nil c stem), reach_singleton, Segment.spelling]
    simp only [List.isEmpty_cons, Bool.false_eq_true, if_false, Expr.spans_sequence_append,
      Expr.spans_sequence_singleton, Expr.spans_optionExpr, hliteral]
    constructor
    · rintro ⟨mid, hslash, hvalue | rfl⟩
      · exact .inl ⟨mid, hslash, hvalue⟩
      · exact .inr hslash
    · rintro (⟨mid, hslash, hvalue⟩ | hslash)
      · exact ⟨mid, hslash, .inl hvalue⟩
      · exact ⟨t, hslash, .inr rfl⟩

end

/-! ## Patterns -/

namespace PatternCompiler

section

variable {compiler : PatternCompiler} {pattern : String} {coverage : Coverage}

/-- A pattern with segments, whose constraints are expressions on their own, accepts the paths
through which its segments lead up to what its end covers. -/
theorem accepts_iff_reach (hne : patternSegments pattern ≠ [])
    (alone : ∀ segment ∈ patternSegments pattern, segment.StandsAlone (!compiler.caseSensitive))
    (room : compiler.HasRoom pattern coverage) {path : String} :
    compiler.Accepts pattern coverage path ↔
      ∃ t, Reach (!compiler.caseSensitive) (patternSegments pattern) (.start path.toList) t ∧
        coverage.covers t.rest = true := by
  obtain ⟨compiled, hcompile, -⟩ := exists_compiled alone room
  have hways : compiled.regex.expr.ways = sequenceWays (.assertion .textStart ::
      spelledParts (!compiler.caseSensitive) (patternSegments pattern) coverage) := by
    rw [expr_of_compile hcompile alone, Expr.ways_sequence]
  obtain ⟨-, hcode, -⟩ := eq_of_compile hcompile
  rw [accepts_iff_of_compile hcompile, CompiledPattern.isMatch, Regex.isMatch, hcode,
    Code.isSome_find?_ofExpr, ways_anywhere hways, spelledParts, if_neg (by simpa using hne),
    sequenceWays_append]
  constructor
  · intro hmatch
    obtain ⟨way, mem⟩ := List.exists_mem_of_ne_nil _ hmatch
    obtain ⟨first, hfirst, last, hlast, -⟩ := mem_andThen.mp mem
    exact ⟨first.2, Expr.spans_sequence hfirst, covers_of_mem_endingParts hlast⟩
  · rintro ⟨t, hreach, hcovers⟩
    obtain ⟨marks, hfirst⟩ := Expr.spans_sequence_iff.mp hreach
    obtain ⟨last, hlast⟩ := exists_mem_endingParts (s := t) hcovers
    exact List.ne_nil_of_mem (mem_andThen.mpr ⟨_, hfirst, last, hlast, rfl⟩)

section

variable {ignoreCase : Bool} {before after : List Segment} {stem : List Char}
  {name constraint : Option (List Char)} {modifier : Modifier}

/-- What stands alone does so whatever the modifier. -/
theorem standsAlone_variant
    (alone : ∀ segment ∈ before ++ .capture stem name constraint modifier :: after,
      segment.StandsAlone ignoreCase) (sign : Modifier) :
    ∀ segment ∈ before ++ .capture stem name constraint sign :: after,
      segment.StandsAlone ignoreCase := by
  simp only [List.forall_mem_append, List.forall_mem_cons] at alone ⊢
  cases constraint <;> exact alone

/-- So does what is left of it where the capture is absent. -/
theorem standsAlone_absent
    (alone : ∀ segment ∈ before ++ .capture stem name constraint modifier :: after,
      segment.StandsAlone ignoreCase) :
    ∀ segment ∈ before ++ (leftBehind stem ++ after), segment.StandsAlone ignoreCase := by
  simp only [List.forall_mem_append, List.forall_mem_cons] at alone ⊢
  refine ⟨alone.1, fun segment mem => ?_, alone.2.2⟩
  unfold leftBehind at mem
  split at mem
  · cases mem
  · obtain rfl := List.mem_singleton.mp mem
    trivial

end

/-- A pattern in which a capture may be absent accepts the paths of the pattern in which it has to
be there, and those of the pattern in which it is absent. -/
theorem accepts_orAbsent {before after : List Segment} {stem : List Char}
    {name constraint : Option (List Char)} {modifier : Modifier}
    {required optional absent : String}
    (hmodifier : modifier.isOptional = false)
    (hrequired : patternSegments required =
      before ++ .capture stem name constraint modifier :: after)
    (hoptional : patternSegments optional =
      before ++ .capture stem name constraint modifier.orAbsent :: after)
    (habsent : patternSegments absent = before ++ (leftBehind stem ++ after))
    (hmore : before ++ after ≠ [])
    (alone : ∀ segment ∈ patternSegments required,
      segment.StandsAlone (!compiler.caseSensitive))
    (rooms : compiler.HasRoom required coverage ∧ compiler.HasRoom optional coverage ∧
      compiler.HasRoom absent coverage) (path : String) :
    compiler.Accepts optional coverage path ↔
      compiler.Accepts required coverage path ∨ compiler.Accepts absent coverage path := by
  have aloneOptional := standsAlone_variant (hrequired ▸ alone) modifier.orAbsent
  have aloneAbsent := standsAlone_absent (hrequired ▸ alone)
  rw [← hoptional] at aloneOptional
  rw [← habsent] at aloneAbsent
  have hne : patternSegments absent ≠ [] := by
    intro hnil
    rw [habsent] at hnil
    obtain ⟨hbefore, hrest⟩ := List.append_eq_nil_iff.mp hnil
    exact hmore (List.append_eq_nil_iff.mpr ⟨hbefore, (List.append_eq_nil_iff.mp hrest).2⟩)
  have hcons (segment : Segment) :
      before ++ segment :: after = before ++ ([segment] ++ after) := rfl
  rw [accepts_iff_reach (by simp [hoptional]) aloneOptional rooms.2.1,
    accepts_iff_reach (by simp [hrequired]) alone rooms.1,
    accepts_iff_reach hne aloneAbsent rooms.2.2]
  rw [hcons] at hrequired hoptional
  simp only [hrequired, hoptional, habsent, reach_append, reach_orAbsent _ _ _ hmodifier]
  grind

/-- A capture that may be absent is there or not, whatever stands around it. Of a pattern with two
segments or more, whose constraints are expressions on their own, let `variant` write one capture
with each of the signs, and `absent` leave nothing of it but its stem, which has to be a literal.
All these patterns are compiled, unless they are too large or nest too deeply. With `?` the pattern
accepts the paths that it accepts without a sign, and those that it accepts without the capture; and
with `*` those that it accepts with `+`, and those that it accepts without the capture. -/
theorem accepts_optional_iff {before after : List (List Char)} {text stem : List Char}
    {name constraint : Option (List Char)} {modifier : Modifier} {variant : Modifier → String}
    {absent : String}
    (hpattern : segmentTexts pattern.toList = before ++ text :: after)
    (hmore : before ++ after ≠ [])
    (hcapture : Segment.classify text = .capture stem name constraint modifier)
    (hstem : stem ≠ [] → Segment.classify stem = .literal stem)
    (alone : ∀ segment ∈ patternSegments pattern, segment.StandsAlone (!compiler.caseSensitive))
    (hvariant : ∀ sign, segmentTexts (variant sign).toList =
      before ++ captureWriting stem name constraint sign :: after)
    (habsent : segmentTexts absent.toList = before ++ (if stem = [] then [] else [stem]) ++ after)
    (room : ∀ sign, compiler.HasRoom (variant sign) coverage)
    (roomAbsent : compiler.HasRoom absent coverage) :
    (∀ sign, ∃ compiled, compiler.compile (variant sign) coverage = .ok compiled) ∧
    (∃ compiled, compiler.compile absent coverage = .ok compiled) ∧
    ∀ path,
      (compiler.Accepts (variant .optional) coverage path ↔
        compiler.Accepts (variant .one) coverage path ∨ compiler.Accepts absent coverage path) ∧
      (compiler.Accepts (variant .zeroOrMore) coverage path ↔
        compiler.Accepts (variant .oneOrMore) coverage path ∨
          compiler.Accepts absent coverage path) := by
  have hsegments (sign : Modifier) : patternSegments (variant sign) = before.map Segment.classify ++
      .capture stem name constraint sign :: after.map Segment.classify := by
    rw [patternSegments, hvariant, List.map_append, List.map_cons,
      Segment.classify_remark hcapture]
  have hleft : patternSegments absent = before.map Segment.classify ++
      (leftBehind stem ++ after.map Segment.classify) := by
    rw [patternSegments, habsent, List.map_append, List.map_append, List.append_assoc, leftBehind]
    split
    · rfl
    · rename_i hne
      rw [List.map_singleton, hstem hne]
  have hmore' : before.map Segment.classify ++ after.map Segment.classify ≠ [] := by
    rw [← List.map_append]
    exact mt List.map_eq_nil_iff.mp hmore
  rw [patternSegments, hpattern, List.map_append, List.map_cons, hcapture] at alone
  have aloneVariant (sign : Modifier) : ∀ segment ∈ patternSegments (variant sign),
      segment.StandsAlone (!compiler.caseSensitive) := by
    rw [hsegments]
    exact standsAlone_variant alone sign
  have aloneAbsent := standsAlone_absent alone
  rw [← hleft] at aloneAbsent
  refine ⟨fun sign => ?_, ?_, fun path => ⟨?_, ?_⟩⟩
  · obtain ⟨compiled, hcompile, -⟩ := exists_compiled (aloneVariant sign) (room sign)
    exact ⟨compiled, hcompile⟩
  · obtain ⟨compiled, hcompile, -⟩ := exists_compiled aloneAbsent roomAbsent
    exact ⟨compiled, hcompile⟩
  · exact accepts_orAbsent rfl (hsegments .one) (hsegments .optional) hleft hmore'
      (aloneVariant .one) ⟨room .one, room .optional, roomAbsent⟩ path
  · exact accepts_orAbsent rfl (hsegments .oneOrMore) (hsegments .zeroOrMore) hleft hmore'
      (aloneVariant .oneOrMore) ⟨room .oneOrMore, room .zeroOrMore, roomAbsent⟩ path

end

/-- A capture with the stem `v` that takes digits, with each of the signs. -/
def digitsVariant (sign : Modifier) : String :=
  "/a/v:id([0-9]+)" ++ String.ofList sign.sign

theorem accepts_optional_iff_of_digits :
    segmentTexts "/a/v:id([0-9]+)".toList = [['a']] ++ "v:id([0-9]+)".toList :: [] ∧
    Segment.classify "v:id([0-9]+)".toList =
      .capture ['v'] (some ['i', 'd']) (some ['[', '0', '-', '9', ']', '+']) .one ∧
    Segment.classify ['v'] = .literal ['v'] ∧
    (∀ segment ∈ patternSegments "/a/v:id([0-9]+)", segment.StandsAlone false) ∧
    (∀ sign, HasRoom {} (digitsVariant sign) .whole) ∧ HasRoom {} "/a/v" .whole ∧
    ∀ path,
      (Accepts {} (digitsVariant .optional) .whole path ↔
        Accepts {} (digitsVariant .one) .whole path ∨ Accepts {} "/a/v" .whole path) ∧
      (Accepts {} (digitsVariant .zeroOrMore) .whole path ↔
        Accepts {} (digitsVariant .oneOrMore) .whole path ∨ Accepts {} "/a/v" .whole path) := by
  have hpattern : segmentTexts "/a/v:id([0-9]+)".toList =
      [['a']] ++ "v:id([0-9]+)".toList :: [] := by decide
  have hcapture : Segment.classify "v:id([0-9]+)".toList =
      .capture ['v'] (some ['i', 'd']) (some ['[', '0', '-', '9', ']', '+']) .one := by decide
  have hstem : Segment.classify ['v'] = .literal ['v'] := by decide
  have alone : ∀ segment ∈ patternSegments "/a/v:id([0-9]+)",
      segment.StandsAlone (!({} : PatternCompiler).caseSensitive) := by
    have hsegments : patternSegments "/a/v:id([0-9]+)" = [.literal ['a'],
        .capture ['v'] (some ['i', 'd']) (some ['[', '0', '-', '9', ']', '+']) .one] := by decide
    rw [hsegments]
    simp only [List.forall_mem_cons]
    exact ⟨trivial, standalone_digits, by simp⟩
  have room (sign : Modifier) : HasRoom {} (digitsVariant sign) .whole :=
    hasRoom_of_compile (by cases sign <;> exact ⟨_, rfl⟩)
  have roomAbsent : HasRoom {} "/a/v" .whole := hasRoom_of_compile ⟨_, rfl⟩
  have hvariant (sign : Modifier) : segmentTexts (digitsVariant sign).toList = [['a']] ++
      captureWriting ['v'] (some ['i', 'd']) (some ['[', '0', '-', '9', ']', '+']) sign :: [] := by
    cases sign <;> decide
  exact ⟨hpattern, hcapture, hstem, alone, room, roomAbsent,
    (accepts_optional_iff hpattern (by simp) hcapture (fun _ => hstem) alone hvariant (by decide)
      room roomAbsent).2.2⟩

end PatternCompiler

end RouteChain
