import RouteChain.Proofs.Router.AtRoot

/-!
# Joined patterns

To join two patterns is to write their segments one after another. What the joined pattern is
compiled to is put together from both of them: first the one, then the other, whose captures without
a name are numbered on.

## Main definitions

* `CaptureLabel` — what a capture is called: a name that it declares, or a number.
* `CaptureLabel.behind` — what it is called behind other captures without a name.
* `captureLabels` — what the captures of some segments are called, in order.

The main result is `PatternCompiler.compile_patternBelow`.
-/

namespace RouteChain

/-! ## What captures are called -/

/-- What a capture is called: the name that it declares, or a number if it declares none. -/
inductive CaptureLabel where
  | declared (name : List Char)
  | numbered (number : Nat)
  deriving Repr, DecidableEq

namespace CaptureLabel

def name : CaptureLabel → String
  | .declared name => String.ofList name
  | .numbered number => toString number

/-- What the capture is called behind some more captures without a name. A name that it declares
stays. -/
def behind (unnamed : Nat) : CaptureLabel → CaptureLabel
  | .declared name => .declared name
  | .numbered number => .numbered (number + unnamed)

@[simp] theorem name_declared (name : List Char) :
    (declared name).name = String.ofList name := rfl

@[simp] theorem name_numbered (number : Nat) : (numbered number).name = toString number := rfl

@[simp] theorem behind_declared (name : List Char) (unnamed : Nat) :
    (declared name).behind unnamed = declared name := rfl

@[simp] theorem behind_numbered (number unnamed : Nat) :
    (numbered number).behind unnamed = numbered (number + unnamed) := rfl

@[simp] theorem behind_zero : behind 0 = id := by
  funext label
  cases label <;> rfl

@[simp] theorem behind_behind (label : CaptureLabel) (inner outer : Nat) :
    (label.behind inner).behind outer = label.behind (inner + outer) := by
  cases label <;> simp [Nat.add_assoc]

end CaptureLabel

def Segment.unnamedCount : Segment → Nat
  | .capture _ none _ _ => 1
  | _ => 0

/-- What the segment is called by itself, if it is a capture. -/
def Segment.label? : Segment → Option CaptureLabel
  | .capture _ (some name) _ _ => some (.declared name)
  | .capture _ none _ _ => some (.numbered 0)
  | _ => none

/-- The number of captures without a name among some segments. -/
def unnamedCount (segments : List Segment) : Nat :=
  (segments.map Segment.unnamedCount).sum

/-- What the captures of some segments are called, in order. Each stands behind the captures without
a name that come before it. -/
def captureLabels : List Segment → List CaptureLabel
  | [] => []
  | segment :: segments =>
    segment.label?.toList ++ (captureLabels segments).map (.behind segment.unnamedCount)

/-- Behind other segments the captures are called as they are by themselves, but their numbers are
counted on. -/
theorem captureLabels_append (segments others : List Segment) :
    captureLabels (segments ++ others) =
      captureLabels segments ++ (captureLabels others).map (.behind (unnamedCount segments)) := by
  induction segments with
  | nil => simp [captureLabels, unnamedCount]
  | cons segment segments ih =>
    simp [captureLabels, unnamedCount, ih, Function.comp_def, Nat.add_comm]

/-- The names of the captures are what they are called. -/
theorem captureNamesFrom_eq (unnamed : Nat) (segments : List Segment) :
    captureNamesFrom unnamed segments =
      (captureLabels segments).map (fun label => (label.behind unnamed).name) := by
  induction segments generalizing unnamed with
  | nil => rfl
  | cons segment segments ih =>
    cases segment with
    | wildcard | literal =>
      simp [captureNamesFrom, captureLabels, Segment.label?, Segment.unnamedCount, ih]
    | capture stem name constraint modifier =>
      cases name <;> simp [captureNamesFrom, captureLabels, Segment.label?, Segment.unnamedCount,
        ih, Function.comp_def, Nat.add_comm]

theorem captureNames_eq (segments : List Segment) :
    captureNames segments = (captureLabels segments).map CaptureLabel.name := by
  simp [captureNames, captureNamesFrom_eq]

/-- The names of segments behind others come after theirs, and their numbers are counted on. -/
theorem captureNames_append (segments others : List Segment) :
    captureNames (segments ++ others) = captureNames segments ++
      (captureLabels others).map (fun label => (label.behind (unnamedCount segments)).name) := by
  simp [captureNames_eq, captureLabels_append, Function.comp_def]

/-! ## Compiling -/

namespace PatternCompiler

variable {compiler : PatternCompiler} {coverage : Coverage}

/-- A pattern that is compiled keeps the text of its expression. -/
theorem text_of_compile {pattern : String} {compiled : CompiledPattern}
    (h : compiler.compile pattern coverage = .ok compiled) : compiled.regex.text =
      String.ofList (expressionText (patternSegments pattern) coverage) :=
  Regex.text_of_parse (parse_of_compile h).1

/-- Joining is concatenation for the compiler. The texts of the segments of a joined pattern are
those of both, one after the other. If all three patterns are compiled, then the names are those of
the first followed by those of the second, in which the numbers are counted on and the names that
are declared stay. If there is any segment, the expression is that of the segments of the first,
followed by those of the second. Patterns whose segments have the same texts are compiled to the
same, or none of them is compiled. -/
theorem compile_patternBelow (compiler : PatternCompiler) (place pattern : String)
    (coverage : Coverage) :
    segmentTexts (patternBelow place pattern).toList =
        segmentTexts place.toList ++ segmentTexts pattern.toList ∧
      (∀ first second both, compiler.compile place coverage = .ok first →
        compiler.compile pattern coverage = .ok second →
        compiler.compile (patternBelow place pattern) coverage = .ok both →
        second.names = (captureLabels (patternSegments pattern)).map CaptureLabel.name ∧
        both.names = first.names ++ (captureLabels (patternSegments pattern)).map (fun label =>
          (label.behind (unnamedCount (patternSegments place))).name) ∧
        (patternSegments place ++ patternSegments pattern ≠ [] →
          both.regex.text.toList = '^' :: (patternSegments place).flatMap Segment.fragment ++
            (patternSegments pattern).flatMap Segment.fragment ++ coverage.ending)) ∧
      ∀ source other, segmentTexts source.toList = segmentTexts other.toList →
        (compiler.compile source coverage).toOption =
          (compiler.compile other coverage).toOption := by
  refine ⟨segmentTexts_patternBelow place pattern, ?_, ?_⟩
  · intro first second both hfirst hsecond hboth
    obtain ⟨-, hnames, -⟩ := parse_of_compile hfirst
    obtain ⟨-, hnames', -⟩ := parse_of_compile hsecond
    obtain ⟨-, hjoined, -⟩ := parse_of_compile hboth
    have htext := text_of_compile hboth
    rw [patternSegments_patternBelow] at hjoined htext
    refine ⟨?_, ?_, fun hne => ?_⟩
    · rw [hnames', captureNames_eq]
    · rw [hjoined, captureNames_append, hnames]
    · have hempty : ¬(patternSegments place ++ patternSegments pattern).isEmpty = true := by
        simpa using hne
      rw [htext, String.toList_ofList, expressionText, if_neg hempty, List.flatMap_append]
      simp
  · intro source other htexts
    have hsegments : patternSegments source = patternSegments other :=
      congrArg (List.map Segment.classify) htexts
    exact compiler.toOption_compile_congr coverage hsegments

/-- The number of a capture in the second pattern is counted on, and a name that both patterns
declare stays. -/
theorem compile_patternBelow_of_numbered :
    let place := "/x/(y)/:id/"
    let pattern := "//:id+/v(z)?"
    ∃ first second both, compile {} place .leading = .ok first ∧
      compile {} pattern .leading = .ok second ∧
      compile {} (patternBelow place pattern) .leading = .ok both ∧
      second.names = ["id", "0"] ∧ both.names = first.names ++ ["id", "1"] ∧
      both.regex.text.toList =
        '^' :: "/x/(?:((?:y)))/(?:([^/]+?))".toList ++
          "/([^/]+?(?:/[^/]+?)*)/v(?:((?:z)))?".toList ++ Coverage.leading.ending := by
  intro place pattern
  obtain ⟨first, hfirst⟩ : ∃ first, compile {} place .leading = .ok first :=
    exists_compiled_of_isSome (by decide +kernel)
  obtain ⟨second, hsecond⟩ : ∃ second, compile {} pattern .leading = .ok second :=
    exists_compiled_of_isSome (by decide +kernel)
  obtain ⟨both, hboth⟩ : ∃ both, compile {} (patternBelow place pattern) .leading = .ok both :=
    exists_compiled_of_isSome (by decide +kernel)
  obtain ⟨-, hjoin, -⟩ := compile_patternBelow {} place pattern .leading
  obtain ⟨hnames, hjoined, htext⟩ := hjoin first second both hfirst hsecond hboth
  refine ⟨first, second, both, hfirst, hsecond, hboth, hnames.trans (by decide +kernel),
    hjoined.trans (congrArg (first.names ++ ·) (by decide +kernel)), (htext (by decide)).trans ?_⟩
  decide +kernel

end PatternCompiler

end RouteChain
