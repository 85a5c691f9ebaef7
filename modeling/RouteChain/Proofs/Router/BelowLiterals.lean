import RouteChain.Proofs.Pattern.WritingBack
import RouteChain.Proofs.Regex.Moving
import RouteChain.Proofs.Router.Mounting
import RouteChain.Proofs.Unicode.CaseFolding

/-!
# Routers below literal places

A place whose segments are literals adds nothing to an entry but the text of the place: the entry
fits a path below the place as it fits the path by itself, and binds the same.

## Main definitions

* `literalText` — the path that some literal segments match.

The main result is `Router.mounted_fits`.
-/

namespace RouteChain

open Regex

/-! ## Literals before a pattern -/

/-- With or without regard to case, a character stands for itself. -/
theorem contains_charSet (ignoreCase : Bool) (c : Char) :
    (Flags.charSet { ignoreCase } c).contains c = true := by
  have hchar : (CharSet.char c).contains c = true := by simp [contains_char]
  cases ignoreCase with
  | false => exact hchar
  | true =>
    change (CharSet.foldedChar c).contains c = true
    unfold CharSet.foldedChar
    split
    · exact hchar
    · exact List.any_eq_true.mpr ⟨c, Unicode.mem_caseGroup c, hchar⟩

def literalText (texts : List (List Char)) : List Char :=
  texts.flatMap ('/' :: ·)

theorem captureCount_literals (texts : List (List Char)) :
    captureCount (texts.map .literal) = 0 := by
  induction texts with
  | nil => rfl
  | cons text texts ih => simp [captureCount, Segment.captureCount, ih]

/-- Literals have no names. -/
theorem captureNames_literals (texts : List (List Char)) (segments : List Segment) :
    captureNames (texts.map .literal ++ segments) = captureNames segments := by
  induction texts with
  | nil => rfl
  | cons text texts ih => exact ih

/-- The parts of some literals are those of their text. -/
theorem segmentsSpelling_literals (ignoreCase : Bool) (index : Nat) (texts : List (List Char)) :
    segmentsSpelling ignoreCase index (texts.map .literal) =
      (literalText texts).map (spelledChar ignoreCase) := by
  induction texts generalizing index with
  | nil => rfl
  | cons text texts ih =>
    simp only [List.map_cons, segmentsSpelling, ih, Segment.spelling, slashSpelling, literalText,
      List.flatMap_cons, List.cons_append, List.map_append, spelledChar_slash]

theorem Regex.Expr.append_of_isPart {x y : Expr} (hx : x.isPart = true) (hy : y ≠ .empty) :
    x.append y = .cat x y := by
  cases x <;> grind [append, isPart]

theorem behind_ne_empty (set : Char → CharSet) (text : List Char) {x : Expr} (h : x ≠ .empty) :
    x.behind set text ≠ .empty := by
  cases text with
  | nil => exact h
  | cons c text => exact Expr.noConfusion

/-- A sequence that begins with some letters is the rest behind them. -/
theorem sequence_letters (ignoreCase : Bool) (text : List Char) {parts : List Expr}
    (h : Expr.sequence parts ≠ .empty) :
    Expr.sequence (text.map (spelledChar ignoreCase) ++ parts) =
      (Expr.sequence parts).behind (Flags.charSet { ignoreCase }) text := by
  induction text with
  | nil => rfl
  | cons c text ih =>
    have hbehind := behind_ne_empty (Flags.charSet { ignoreCase }) text h
    calc Expr.sequence ((c :: text).map (spelledChar ignoreCase) ++ parts)
        = (spelledChar ignoreCase c).append
            (Expr.sequence (text.map (spelledChar ignoreCase) ++ parts)) := rfl
      _ = .cat (spelledChar ignoreCase c)
            ((Expr.sequence parts).behind (Flags.charSet { ignoreCase }) text) := by
          rw [ih, Expr.append_of_isPart rfl hbehind]
      _ = (Expr.sequence parts).behind (Flags.charSet { ignoreCase }) (c :: text) := rfl

/-! ## Looking forward -/

/-- What begins with a letter does not look back. -/
theorem onward_sequence_letter (set : CharSet) (parts : List Expr) :
    (Expr.sequence (.letter set :: parts)).onward = true := by
  rw [Expr.sequence, List.foldr_cons]
  cases parts.foldr Expr.append .empty <;> rfl

/-- What may be left out does not look back if neither it nor the rest does. -/
theorem onward_sequence_option {x : Expr} (hx : x.onward = true) {parts : List Expr}
    (h : (Expr.sequence parts).onward = true) :
    (Expr.sequence (optionExpr x :: parts)).onward = true := by
  by_cases hempty : Expr.sequence parts = .empty
  · have happend : Expr.sequence (optionExpr x :: parts) = optionExpr x := by
      rw [Expr.sequence, List.foldr_cons, ← Expr.sequence, hempty, Expr.append_empty]
    rw [happend]
    exact hx
  · have happend : Expr.sequence (optionExpr x :: parts) =
        .cat (optionExpr x) (Expr.sequence parts) :=
      Expr.append_of_isPart rfl hempty
    rw [happend]
    exact Bool.and_eq_true_iff.mpr ⟨hx, h⟩

theorem onward_endingParts (coverage : Coverage) :
    (Expr.sequence coverage.endingParts).onward = true := by
  cases coverage <;> exact onward_sequence_option rfl rfl

/-- Until it has taken a character, a pattern does not look at what stands before it. -/
theorem onward_segmentsSpelling (ignoreCase : Bool) (index : Nat) (segments : List Segment)
    (coverage : Coverage) :
    (Expr.sequence (segmentsSpelling ignoreCase index segments ++ coverage.endingParts)).onward =
      true := by
  induction segments generalizing index with
  | nil => exact onward_endingParts coverage
  | cons segment segments ih =>
    rw [segmentsSpelling, List.append_assoc]
    cases segment with
    | wildcard | literal text => exact onward_sequence_letter _ _
    | capture stem name constraint modifier =>
      simp only [Segment.spelling, captureSpelling]
      split
      · split
        · exact onward_sequence_option rfl (ih _)
        · exact onward_sequence_letter _ _
      · exact onward_sequence_letter _ _

/-! ## Searching below literals -/

/-- A pattern with segments has an end. -/
theorem sequence_ne_empty (parts : List Expr) (coverage : Coverage) :
    Expr.sequence (parts ++ coverage.endingParts) ≠ .empty := by
  induction parts with
  | nil => cases coverage <;> exact Expr.noConfusion
  | cons x parts ih =>
    change x.append (Expr.sequence (parts ++ coverage.endingParts)) ≠ .empty
    cases x <;> grind [Expr.append]

/-- Where a path begins with a slash, a pattern with segments ends like one without. -/
theorem find?_endingParts (coverage : Coverage) (rest : List Char) :
    (Code.ofExpr (anywhere (.sequence (.assertion .textStart :: coverage.endingParts)))).find?
        ('/' :: rest) =
      (Code.ofExpr (anywhere (.sequence (.assertion .textStart :: coverage.rootParts)))).find?
        ('/' :: rest) := by
  have hparts {parts : List Expr} (h : ∀ x ∈ parts, x.isPart = true ∧ x.Steady)
      (path : List Char) :
      (Code.ofExpr (anywhere (.sequence (.assertion .textStart :: parts)))).find? path =
        (sequenceWays parts (.start path)).head?.map Prod.fst := by
    have hpart : ∀ x ∈ Expr.assertion .textStart :: parts, x.isPart = true := by
      simpa [Expr.isPart] using fun x mem => (h x mem).1
    rw [Expr.sequence_eq_ofParts hpart, Code.find?_anywhere fun x mem => (h x mem).2]
  rw [hparts fun x => part_of_mem_endingParts, hparts fun x => part_of_mem_rootParts,
    head?_endingParts, head?_rootParts]
  rfl

/-- A pattern below some literals is found behind their text as it is found by itself. -/
theorem find?_below (ignoreCase : Bool) (texts : List (List Char)) (segments : List Segment)
    (coverage : Coverage) (rest : List Char) :
    (Code.ofExpr (anywhere (.sequence (.assertion .textStart ::
        spelledParts ignoreCase (texts.map .literal ++ segments) coverage)))).find?
          (literalText texts ++ '/' :: rest) =
      ((Code.ofExpr (anywhere (.sequence (.assertion .textStart ::
        spelledParts ignoreCase segments coverage)))).find? ('/' :: rest)).map
          (List.map (Mark.moved (literalText texts).length)) := by
  cases htexts : texts with
  | nil => simp [literalText]
  | cons text others =>
    rw [← htexts]
    have hparts : spelledParts ignoreCase (texts.map .literal ++ segments) coverage =
        (literalText texts).map (spelledChar ignoreCase) ++
          (segmentsSpelling ignoreCase 1 segments ++ coverage.endingParts) := by
      have hsome : (texts.map Segment.literal ++ segments).isEmpty = false := by simp [htexts]
      rw [spelledParts, hsome, if_neg Bool.false_ne_true, segmentsSpelling_append,
        segmentsSpelling_literals, captureCount_literals, List.append_assoc]
    have hrest := sequence_ne_empty (segmentsSpelling ignoreCase 1 segments) coverage
    have hstart {parts : List Expr} (h : Expr.sequence parts ≠ .empty) :
        Expr.sequence (.assertion .textStart :: parts) =
          .cat (.assertion .textStart) (Expr.sequence parts) :=
      Expr.append_of_isPart rfl h
    have hletters := sequence_letters ignoreCase (literalText texts) hrest
    have hbehind := behind_ne_empty (Flags.charSet { ignoreCase }) (literalText texts) hrest
    rw [hparts, hstart (hletters ▸ hbehind), hletters,
      Code.find?_letters (contains_charSet ignoreCase) (onward_segmentsSpelling ..), ← hstart hrest]
    cases segments with
    | nil => rw [segmentsSpelling, List.nil_append, find?_endingParts, spelledParts]; rfl
    | cons segment segments => rw [spelledParts]; rfl

/-! ## Parameters -/

theorem lastMark_moved (k : Nat) (marks : List Mark) (index : Nat) (isEnd : Bool) :
    lastMark (marks.map (Mark.moved k)) index isEnd =
      (lastMark marks index isEnd).map (· + k) := by
  rw [lastMark, lastMark, List.find?_map, Option.map_map, Option.map_map]
  rfl

/-- A group takes the same text in another place. -/
theorem groupText?_moved (before text : List Char) (marks : List Mark) (index : Nat) :
    groupText? (before ++ text) (marks.map (Mark.moved before.length)) index =
      groupText? text marks index := by
  have hdrop (first : Nat) : (before ++ text).drop (first + before.length) = text.drop first := by
    rw [Nat.add_comm, List.drop_length_add_append]
  simp only [groupText?, lastMark_moved]
  cases lastMark marks index false with
  | none => rfl
  | some first =>
    cases lastMark marks index true with
    | none => rfl
    | some last => simp only [Option.map_some, hdrop, Nat.add_sub_add_right]

theorem standsAlone_below {ignoreCase : Bool} {place source : String} {texts : List (List Char)}
    (hplace : patternSegments place = texts.map .literal)
    (alone : ∀ segment ∈ patternSegments source, segment.StandsAlone ignoreCase) :
    ∀ segment ∈ patternSegments (patternBelow place source), segment.StandsAlone ignoreCase := by
  intro segment mem
  rw [patternSegments_patternBelow, hplace] at mem
  rcases List.mem_append.mp mem with mem | mem
  · obtain ⟨text, -, rfl⟩ := List.mem_map.mp mem
    trivial
  · exact alone segment mem

/-- Below literals, a pattern whose constraints are expressions on their own binds what it binds by
itself. -/
theorem CompiledPattern.captures?_below {compiler : PatternCompiler} {place source : String}
    {coverage : Coverage} {texts : List (List Char)} {compiled below : CompiledPattern}
    (hplace : patternSegments place = texts.map .literal)
    (alone : ∀ segment ∈ patternSegments source, segment.StandsAlone (!compiler.caseSensitive))
    (h : compiler.compile source coverage = .ok compiled)
    (hbelow : compiler.compile (patternBelow place source) coverage = .ok below)
    (rest : List Char) :
    below.captures? (String.ofList (literalText texts ++ '/' :: rest)) =
      compiled.captures? (String.ofList ('/' :: rest)) := by
  obtain ⟨-, hcode, hnames, hcount⟩ := PatternCompiler.eq_of_compile h
  obtain ⟨-, hcodeBelow, hnamesBelow, hcountBelow⟩ := PatternCompiler.eq_of_compile hbelow
  have hexpr := PatternCompiler.expr_of_compile h alone
  have hexprBelow := PatternCompiler.expr_of_compile hbelow (standsAlone_below hplace alone)
  rw [patternSegments_patternBelow, hplace] at hexprBelow hnamesBelow
  rw [captureNames_literals, ← hnames] at hnamesBelow
  have hfind := find?_below (!compiler.caseSensitive) texts (patternSegments source) coverage rest
  rw [← hexpr, ← hexprBelow, ← hcode, ← hcodeBelow] at hfind
  rw [hnamesBelow, ← hcount] at hcountBelow
  simp only [captures?, Regex.captures?, String.toList_ofList, hfind, hnamesBelow, hcountBelow,
    Option.map_map, Function.comp_def, groupText?_moved]

/-! ## Entries -/

/-- A pattern that was compiled is registered with its compiled form. -/
theorem RoutePattern.lenient_of_compile {compiler : PatternCompiler} {source : String}
    {coverage : Coverage} {compiled : CompiledPattern}
    (h : compiler.compile source coverage = .ok compiled) :
    (lenient compiler (some source) coverage).1 = ⟨some source, coverage, .compiled compiled⟩ := by
  simp [lenient, strict, h, Except.map]

/-- Entries of a router that is mounted at a place whose segments are literals fit as they did.
Every entry with a pattern that was compiled as the outer router compiles patterns, and whose
constraints are expressions on their own and capture nothing, is there again below the place, unless
the pattern is too large or nests too deeply. For every method, and every path that begins with a
slash, the entry below the place fits the path behind the text of the place if and only if the entry
fits the path, and binds the same parameters. -/
theorem Router.mounted_fits {ρ : Type} {router inner : Router ρ} {place source : String}
    {coverage : Coverage} {entry : RouteEntry ρ} {texts : List (List Char)} {i : Nat}
    (hplace : patternSegments place = texts.map .literal)
    (hentry : inner.entries[i]? = some entry)
    (hpattern : entry.pattern = (RoutePattern.lenient router.compiler (some source) coverage).1)
    (alone : ∀ segment ∈ patternSegments source,
      segment.StandsAlone (!router.compiler.caseSensitive))
    (room : ∀ text ∈ [source, patternBelow place source], router.compiler.HasRoom text coverage) :
    ∃ mounted, (router.mount place inner).entries[router.entries.length + i]? = some mounted ∧
      entry.pattern.isValid = true ∧ mounted.pattern.isValid = true ∧
      ∀ method rest,
        mounted.fit method (String.ofList (literalText texts ++ '/' :: rest)) =
          entry.fit method (String.ofList ('/' :: rest)) := by
  obtain ⟨compiled, hcompile, -⟩ := PatternCompiler.exists_compiled alone
    (room source List.mem_cons_self)
  obtain ⟨below, hbelow, -⟩ := PatternCompiler.exists_compiled (standsAlone_below hplace alone)
    (room _ (List.mem_cons_of_mem _ List.mem_cons_self))
  rw [RoutePattern.lenient_of_compile hcompile] at hpattern
  have hmounted : (entry.below router.compiler place).pattern =
      ⟨some (patternBelow place source), coverage, .compiled below⟩ := by
    rw [← RoutePattern.lenient_of_compile hbelow]
    simp [RouteEntry.below, hpattern, joined]
  have hmethods : (entry.below router.compiler place).methods = entry.methods := rfl
  refine ⟨entry.below router.compiler place, ?_, by simp [hpattern, RoutePattern.isValid],
    by simp [hmounted, RoutePattern.isValid], fun method rest => ?_⟩
  · rw [(router.gains_mount place inner).entries_eq,
      List.getElem?_append_right (Nat.le_add_right ..), Nat.add_sub_cancel_left, List.getElem?_map,
      hentry]
    rfl
  · have hcaptures := CompiledPattern.captures?_below hplace alone hcompile hbelow rest
    simp only [RouteEntry.fit, hmethods, hmounted, hpattern, RoutePattern.fit, hcaptures]

/-- An entry for some digits fits the same below `/api`. -/
theorem Router.mounted_fits_of_digits :
    let entry : RouteEntry Unit :=
      ⟨.any, (RoutePattern.lenient {} (some "/:id([0-9]+)") .whole).1, .handler, .drop⟩
    let inner : Router Unit := { entries := [entry] }
    let outer : Router Unit := {}
    ∃ mounted, (outer.mount "/api" inner).entries[0]? = some mounted ∧
      mounted.fit .get "/api/42" = entry.fit .get "/42" ∧
      entry.fit .get "/42" = .binds ⟨[("id", "42")]⟩ := by
  intro entry inner outer
  have hplace : patternSegments "/api" = [['a', 'p', 'i']].map .literal := by decide
  have room : ∀ text ∈ ["/:id([0-9]+)", patternBelow "/api" "/:id([0-9]+)"],
      PatternCompiler.HasRoom {} text .whole := by
    intro text mem
    refine PatternCompiler.hasRoom_of_compile ?_
    simp only [List.mem_cons, List.not_mem_nil, or_false] at mem
    rcases mem with rfl | rfl <;> exact ⟨_, rfl⟩
  have hentry : inner.entries[0]? = some entry := rfl
  have hpattern : entry.pattern =
      (RoutePattern.lenient outer.compiler (some "/:id([0-9]+)") .whole).1 := rfl
  obtain ⟨mounted, hmounted, -, -, hfits⟩ :=
    Router.mounted_fits hplace hentry hpattern standsAlone_digits room
  exact ⟨mounted, hmounted, hfits .get ['4', '2'], rfl⟩

end RouteChain
