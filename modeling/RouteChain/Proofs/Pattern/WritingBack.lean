import RouteChain.Proofs.Params
import RouteChain.Proofs.Pattern.Anchoring
import RouteChain.Proofs.Pattern.Compiling
import RouteChain.Proofs.Pattern.Spans

/-!
# Writing values back into a pattern

The parameters that a path binds, written into the pattern in place of its captures, give the path
back, up to what the end of the pattern leaves open. The constraints may take whatever they like, as
long as they are expressions on their own and capture nothing.

## Main definitions

* `writtenBack` — the text of some segments with values in place of their captures.
* `Coverage.Extends` — a path is a text, up to what the end of a pattern leaves open.

The main result is `PatternCompiler.captures_written_back`.
-/

namespace RouteChain

open Regex Regex.Way

/-! ## Writing -/

/-- The text of a capture that binds the given value, or none. -/
def captureText (stem : List Char) : Option (List Char) → List Char
  | some value => '/' :: (stem ++ value)
  | none => if stem.isEmpty then [] else '/' :: stem

def Segment.writtenBack : Segment → List (Option (List Char)) → List Char
  | .wildcard, _ => ['/']
  | .literal text, _ => '/' :: text
  | .capture stem _ _ _, values => captureText stem (values.head?.getD none)

/-- The text of some segments with values in place of their captures. -/
def writtenBack : List Segment → List (Option (List Char)) → List Char
  | [], _ => []
  | segment :: segments, values =>
    segment.writtenBack values ++ writtenBack segments (values.drop segment.captureCount)

/-- A path is a text, up to what the end of a pattern leaves open: a slash, and where only the start
of the path has to be covered, whatever follows it. -/
def Coverage.Extends (coverage : Coverage) (text path : List Char) : Prop :=
  match coverage with
  | .whole => path = text ∨ path = text ++ ['/']
  | .leading => path = text ∨ text ++ ['/'] <+: path

theorem Coverage.extends_of_covers {coverage : Coverage} {rest : List Char}
    (h : coverage.covers rest = true) (text : List Char) :
    coverage.Extends text (text ++ rest) := by
  cases rest with
  | nil => cases coverage <;> exact .inl (List.append_nil text)
  | cons c rest =>
    cases coverage with
    | whole => exact .inr (congrArg (text ++ ·) (of_decide_eq_true h))
    | leading =>
      obtain rfl : c = '/' := of_decide_eq_true (Bool.and_eq_true_iff.mp h).1
      exact .inr ⟨rest, by simp⟩

theorem Segment.captureless_of_standsAlone {ignoreCase : Bool} {segment : Segment}
    (h : segment.StandsAlone ignoreCase) : segment.Captureless ignoreCase :=
  captureless_of_innerCount (innerCount_of_standsAlone h) ignoreCase

/-! ## Reading -/

section

variable {text : List Char} {s t : Spot} {way : Way}

/-- Where case counts, a slash with a text behind it spans nothing but itself. -/
theorem rest_of_spans (h : (Expr.sequence (slashSpelling false text)).Spans s t) :
    s.rest = '/' :: text ++ t.rest := by
  obtain ⟨marks, mem⟩ := h
  have hslash : slashSpelling false text = slashParts text := rfl
  rw [Expr.ways_sequence, hslash, sequenceWays_slashParts] at mem
  rcases takeText_cases ('/' :: text) s.rest with htake | ⟨left, hleft, htake⟩
  · rw [htake] at mem
    cases mem
  · rw [htake, List.map_singleton] at mem
    obtain ⟨rfl, rfl⟩ := Prod.mk.inj (List.mem_singleton.mp mem)
    rw [Spot.rest_skip hleft, hleft]

/-- What a segment spans is what is written back for it. -/
theorem Segment.Spans.rest_eq {segment : Segment} {values : List (Option (List Char))}
    (h : segment.Spans false s t values) (hwild : segment ≠ .wildcard) :
    s.rest = segment.writtenBack values ++ t.rest := by
  cases h with
  | wildcard spans => exact absurd rfl hwild
  | literal spans => exact rest_of_spans spans
  | present behind spans rest_eq =>
    rw [rest_of_spans behind, rest_eq]
    simp [writtenBack, captureText]
  | absent optional stays =>
    obtain rfl := stays
    rfl
  | leftOut optional stem_ne behind =>
    rw [rest_of_spans behind]
    simp [writtenBack, captureText, stem_ne]

/-- What some segments span is what is written back for them. -/
theorem Span.rest_eq {segments : List Segment} {values : List (Option (List Char))}
    (h : Span false segments values s t) (hwild : .wildcard ∉ segments) :
    s.rest = writtenBack segments values ++ t.rest := by
  induction h with
  | nil => rfl
  | @cons segment segments values others s mid t spans more ih =>
    obtain ⟨hsegment, hsegments⟩ := not_or.mp (mt List.mem_cons.mpr hwild)
    have hwritten : segment.writtenBack (values ++ others) = segment.writtenBack values := by
      cases spans <;> rfl
    rw [writtenBack, hwritten, ← spans.length_eq, List.drop_left, List.append_assoc,
      ← ih hsegments, spans.rest_eq (Ne.symm hsegment)]

/-- Whatever way the parts of a pattern are matched, the path is what is written back for the
pattern, up to what its end leaves open. -/
theorem exists_binds_spelledParts {segments : List Segment} {coverage : Coverage}
    (hwild : .wildcard ∉ segments) (hfree : ∀ segment ∈ segments, segment.Captureless false)
    (mem : way ∈ sequenceWays (spelledParts false segments coverage) (.start text)) :
    ∃ values, (List.range (captureCount segments)).map (fun i => groupText? text way.1 (i + 1)) =
        values.map (·.map String.ofList) ∧
      coverage.Extends (writtenBack segments values) text := by
  obtain ⟨values, t, hspan, hcovers, hvalues⟩ := exists_span_spelledParts hfree mem
  have htext : text = writtenBack segments values ++ t.rest := hspan.rest_eq hwild
  refine ⟨values, hvalues, ?_⟩
  rw [htext]
  exact Coverage.extends_of_covers hcovers _

end

/-! ## Patterns -/

/-- A pattern whose constraints are expressions on their own is compiled to a group for each
capture, unless it is too large or nests too deeply. -/
theorem PatternCompiler.exists_compiled {compiler : PatternCompiler} {pattern : String}
    {coverage : Coverage}
    (alone : ∀ segment ∈ patternSegments pattern, segment.StandsAlone (!compiler.caseSensitive))
    (room : compiler.HasRoom pattern coverage) :
    ∃ compiled, compiler.compile pattern coverage = .ok compiled ∧
      compiled.regex.groupCount = captureCount (patternSegments pattern) := by
  have hwritten := exprOf_of_standsAlone coverage alone
  rw [← String.toList_ofList (l := expressionText (patternSegments pattern) coverage)] at hwritten
  cases hparse : Regex.parse (!compiler.caseSensitive)
      (String.ofList (expressionText (patternSegments pattern) coverage)) with
  | ok r =>
    have hexpr := (Regex.eq_of_parse hparse).1
    rw [hexpr] at hwritten
    obtain hr := Except.ok.inj (hwritten.resolve_right nofun)
    have hcount : r.groupCount = captureCount (patternSegments pattern) := by
      rw [Regex.groupCount, hr]
      exact groupCount_spelledParts coverage fun segment mem =>
        Segment.captureless_of_standsAlone (alone segment mem)
    refine ⟨⟨r, captureNames (patternSegments pattern)⟩, ?_, hcount⟩
    rw [← length_captureNames] at hcount
    rw [patternSegments] at hparse hcount
    simp only [compile, hparse, hcount, if_true]
    rfl
  | error cause =>
    have hcompile : compiler.compile pattern coverage =
        .error (.invalidExpression pattern cause) := by
      rw [patternSegments] at hparse
      simp only [compile, hparse]
    obtain ⟨hlarge, hdeep⟩ := room cause hcompile
    rw [Regex.parse] at hparse
    rcases hwritten with hexpr | herror
    · simp only [hexpr, bind, Except.bind] at hparse
      split at hparse <;> cases hparse
      exact absurd rfl hlarge
    · rw [herror] at hparse
      cases hparse
      exact absurd rfl hdeep

/-- A pattern without wildcards, whose names are distinct and whose constraints are expressions on
their own, is compiled to a group for each capture, unless it is too large or nests too deeply. A
path that it matches is the pattern with the values that the path binds in place of its captures, up
to what the end of the pattern leaves open. -/
theorem PatternCompiler.captures_written_back {pattern : String} {coverage : Coverage}
    (hwild : .wildcard ∉ patternSegments pattern)
    (distinct : (captureNames (patternSegments pattern)).Nodup)
    (alone : ∀ segment ∈ patternSegments pattern, segment.StandsAlone false)
    (room : HasRoom ⟨true⟩ pattern coverage) :
    ∃ compiled, compile ⟨true⟩ pattern coverage = .ok compiled ∧
      compiled.regex.groupCount = captureCount (patternSegments pattern) ∧
      ∀ path params, compiled.captures? path = some params →
        coverage.Extends (writtenBack (patternSegments pattern)
          ((captureNames (patternSegments pattern)).map
            (fun name => (params.get? name).map String.toList))) path.toList := by
  obtain ⟨compiled, hcompile, hcount⟩ := @exists_compiled ⟨true⟩ pattern coverage alone room
  refine ⟨compiled, hcompile, hcount, fun path params hcaptures => ?_⟩
  have hfree : ∀ segment ∈ patternSegments pattern, segment.Captureless false :=
    fun segment mem => Segment.captureless_of_standsAlone (alone segment mem)
  obtain ⟨-, hcode, hnames, -⟩ := eq_of_compile hcompile
  obtain ⟨marks, hmarks, rfl⟩ := CompiledPattern.captures?_eq_some hcaptures
  have hways : compiled.regex.expr.ways = sequenceWays
      (.assertion .textStart :: spelledParts false (patternSegments pattern) coverage) := by
    rw [expr_of_compile hcompile alone, Expr.ways_sequence]
    rfl
  rw [hcode] at hmarks
  obtain ⟨last, hlast⟩ := Code.mem_sequenceWays_of_find? hways hmarks
  obtain ⟨values, hvalues, hextends⟩ := exists_binds_spelledParts hwild hfree hlast
  have hlength := congrArg List.length hvalues
  rw [List.length_map, List.length_range, List.length_map] at hlength
  rw [hnames, hcount, hvalues]
  have hlength' : (captureNames (patternSegments pattern)).length =
      (values.map (·.map String.ofList)).length := by
    rw [length_captureNames, hlength, List.length_map]
  have hget := Params.map_get?_ofGroups distinct hlength'
  have hback : (values.map (·.map String.ofList)).map (·.map String.toList) = values := by
    simp [Function.comp_def]
  rw [← hback, ← hget, List.map_map] at hextends
  exact hextends

theorem PatternCompiler.captures_written_back_of_digits :
    ∃ compiled, compile ⟨true⟩ "/:id([0-9]+)" .whole = .ok compiled ∧
      compiled.regex.groupCount = 1 ∧
      compiled.captures? "/42/" = some ⟨[("id", "42")]⟩ ∧
      Coverage.whole.Extends (writtenBack (patternSegments "/:id([0-9]+)") [some ['4', '2']])
        "/42/".toList := by
  obtain ⟨compiled, hcompile, hcaptures⟩ : ∃ compiled,
      compile ⟨true⟩ "/:id([0-9]+)" .whole = .ok compiled ∧
        compiled.captures? "/42/" = some ⟨[("id", "42")]⟩ := ⟨_, rfl, rfl⟩
  have room : HasRoom ⟨true⟩ "/:id([0-9]+)" .whole := hasRoom_of_compile ⟨compiled, hcompile⟩
  have hwild : .wildcard ∉ patternSegments "/:id([0-9]+)" := by decide
  have distinct : (captureNames (patternSegments "/:id([0-9]+)")).Nodup := by decide
  obtain ⟨same, hsame, hcount, hextends⟩ :=
    captures_written_back hwild distinct standsAlone_digits room
  obtain rfl := Except.ok.inj (hcompile.symm.trans hsame)
  rw [patternSegments_digits] at hcount hextends ⊢
  exact ⟨compiled, hcompile, hcount, hcaptures, hextends _ _ hcaptures⟩

end RouteChain
