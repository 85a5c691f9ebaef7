import RouteChain.Proofs.Pattern.Captures
import RouteChain.Proofs.Regex.Numbering

/-!
# What the expression of a pattern denotes

The text of the expression of a pattern is read as the parts of the expression: a literal stands for
itself, whatever operators it holds, and each capture is a group of its own. What a constraint
writes is taken from its own text, with its groups numbered from its place on, so this holds of
every pattern whose constraints are read within the expression as they are read by themselves. Of a
pattern without constraints it always holds.

## Main definitions

* `pieceExpr` — the expression of one piece of a capture.
* `Segment.spelling`, `spelledParts` — the parts of the expressions of a segment and of a pattern,
  with or without regard to case, where the captures alone are numbered.
* `Segment.numbered`, `numberedParts` — the same, where the groups in the constraints are numbered
  too.
* `Segment.Legible` — the constraint of a segment is read as it is read by itself.

The main results are `denotes_expressionText`, `exprOf_of_legible` and `exprOf_of_isPlain`.
-/

namespace RouteChain

open Regex

/-! ## The parts of the expression -/

def spelledChar (ignoreCase : Bool) (c : Char) : Expr :=
  .letter (Flags.charSet { ignoreCase } c)

/-- A slash has no cases. -/
theorem spelledChar_slash (ignoreCase : Bool) : spelledChar ignoreCase '/' = charExpr '/' := by
  cases ignoreCase <;> rfl

/-- A slash with a text behind it, character by character. -/
def slashSpelling (ignoreCase : Bool) (text : List Char) : List Expr :=
  charExpr '/' :: text.map (spelledChar ignoreCase)

/-- The expression of one piece of a capture: that of its constraint, if it has one. -/
def pieceExpr (ignoreCase : Bool) : Option (List Char) → Expr
  | none => runExpr
  | some body => (exprOf ignoreCase body).toOption.getD .empty

/-- What takes the value of a capture whose pieces are taken by `x`. -/
def Modifier.valueOf (x : Expr) : Modifier → Expr
  | .one | .optional => x
  | .oneOrMore | .zeroOrMore =>
    .sequence [x, .repetition 0 none true (.sequence [charExpr '/', x])]

theorem Modifier.valueOf_runExpr (modifier : Modifier) :
    modifier.valueOf runExpr = modifier.valueExpr := by
  cases modifier <;> rfl

/-- The parts of the expression of a capture, of which `value` takes the value. -/
def captureSpelling (ignoreCase : Bool) (stem : List Char) (value : Expr) (modifier : Modifier) :
    List Expr :=
  if modifier.isOptional then
    if stem.isEmpty then [optionExpr (.cat (charExpr '/') value)]
    else slashSpelling ignoreCase stem ++ [optionExpr value]
  else slashSpelling ignoreCase stem ++ [value]

/-- The parts of the expression of a segment whose captures are numbered from `index`. -/
def Segment.spelling (ignoreCase : Bool) (index : Nat) : Segment → List Expr
  | .wildcard => slashSpelling ignoreCase [] ++ [lineExpr]
  | .literal text => slashSpelling ignoreCase text
  | .capture stem _ constraint modifier =>
    captureSpelling ignoreCase stem
      (.group index (modifier.valueOf (pieceExpr ignoreCase constraint))) modifier

def segmentsSpelling (ignoreCase : Bool) : (index : Nat) → List Segment → List Expr
  | _, [] => []
  | index, segment :: segments =>
    segment.spelling ignoreCase index ++
      segmentsSpelling ignoreCase (index + segment.captureCount) segments

/-- The parts of the expression of a pattern behind the assertion that the path begins there. -/
def spelledParts (ignoreCase : Bool) (segments : List Segment) (coverage : Coverage) : List Expr :=
  if segments.isEmpty then coverage.rootParts
  else segmentsSpelling ignoreCase 1 segments ++ coverage.endingParts

/-! ## Groups of the constraints

A constraint may open groups of its own. Then the groups behind them are numbered higher, and so are
its own, by what comes before it. -/

def constraintCount : Option (List Char) → Nat
  | none => 0
  | some body => Token.captureCount (tokensOf body)

def constraintNames : Option (List Char) → List String
  | none => []
  | some body => Ast.groupNames (tokensOf body)

/-- How often the constraint of a capture is written. -/
def Modifier.pieceCount : Modifier → Nat
  | .one | .optional => 1
  | .oneOrMore | .zeroOrMore => 2

/-- What takes the value of a capture behind `index` groups. Each of its pieces is taken by `x`, in
which there are `count` groups. -/
def Modifier.valueBehind (x : Expr) (count index : Nat) : Modifier → Expr
  | .one | .optional => x.shift index
  | .oneOrMore | .zeroOrMore =>
    .sequence [x.shift index,
      .repetition 0 none true (.sequence [charExpr '/', x.shift (index + count)])]

def Segment.innerCount : Segment → Nat
  | .wildcard | .literal _ => 0
  | .capture _ _ constraint _ => constraintCount constraint

def Segment.openedCount : Segment → Nat
  | .wildcard | .literal _ => 0
  | .capture _ _ constraint modifier =>
    modifier.pieceCount * constraintCount constraint + 1

def Segment.groupNames : Segment → List String
  | .wildcard | .literal _ => []
  | .capture _ _ constraint modifier =>
    (List.replicate modifier.pieceCount (constraintNames constraint)).flatten

/-- The parts of the expression of a segment behind `index` groups. -/
def Segment.numbered (ignoreCase : Bool) (index : Nat) : Segment → List Expr
  | .capture stem _ constraint modifier =>
    captureSpelling ignoreCase stem (.group (index + 1) (modifier.valueBehind
      (pieceExpr ignoreCase constraint) (constraintCount constraint) (index + 1))) modifier
  | segment => segment.spelling ignoreCase (index + 1)

def numberedSegments (ignoreCase : Bool) : (index : Nat) → List Segment → List Expr
  | _, [] => []
  | index, segment :: segments =>
    segment.numbered ignoreCase index ++
      numberedSegments ignoreCase (index + segment.openedCount) segments

def openedCount (segments : List Segment) : Nat :=
  (segments.map Segment.openedCount).sum

/-- The parts of the expression of a pattern behind the assertion that the path begins there. -/
def numberedParts (ignoreCase : Bool) (segments : List Segment) (coverage : Coverage) : List Expr :=
  if segments.isEmpty then coverage.rootParts
  else numberedSegments ignoreCase 0 segments ++ coverage.endingParts

/-- What takes one piece of a capture has no groups of its own. -/
def Segment.Captureless (ignoreCase : Bool) : Segment → Prop
  | .wildcard | .literal _ => True
  | .capture _ _ constraint _ => (pieceExpr ignoreCase constraint).groups = []

theorem of_mem_groups_pieceExpr {ignoreCase : Bool} {constraint : Option (List Char)} {index : Nat}
    (mem : index ∈ (pieceExpr ignoreCase constraint).groups) :
    0 < index ∧ index ≤ constraintCount constraint := by
  cases constraint with
  | none => cases mem
  | some body =>
    cases hx : exprOf ignoreCase body with
    | error cause =>
      rw [pieceExpr, hx] at mem
      cases mem
    | ok x =>
      obtain ⟨tokens, tree, options, after, written, -⟩ := exists_written hx
      rw [pieceExpr, hx] at mem
      rw [constraintCount, tokensOf, written.tokens_eq]
      exact of_mem_groups_exprOf hx written.tokens_eq mem

theorem Segment.captureless_of_innerCount {segment : Segment} (h : segment.innerCount = 0)
    (ignoreCase : Bool) : segment.Captureless ignoreCase := by
  cases segment with
  | wildcard | literal text => trivial
  | capture stem name constraint modifier =>
    refine List.eq_nil_iff_forall_not_mem.mpr fun index mem => ?_
    have hbounds := of_mem_groups_pieceExpr mem
    rw [Segment.innerCount] at h
    omega

theorem Modifier.valueBehind_eq {x : Expr} (h : x.groups = []) (count index : Nat)
    (modifier : Modifier) : modifier.valueBehind x count index = modifier.valueOf x := by
  cases modifier <;> simp only [valueBehind, valueOf, Expr.shift_eq_self _ h]

/-- Where a constraint has no groups, only that of the capture is numbered. -/
theorem Segment.numbered_eq_spelling {ignoreCase : Bool} {segment : Segment}
    (h : segment.Captureless ignoreCase) (index : Nat) :
    segment.numbered ignoreCase index = segment.spelling ignoreCase (index + 1) := by
  cases segment with
  | wildcard | literal text => rfl
  | capture stem name constraint modifier =>
    rw [numbered, spelling, Modifier.valueBehind_eq h]

theorem Segment.openedCount_eq {segment : Segment} (h : segment.innerCount = 0) :
    segment.openedCount = segment.captureCount := by
  cases segment with
  | wildcard | literal text => rfl
  | capture stem name constraint modifier =>
    rw [Segment.innerCount] at h
    rw [openedCount, h, Nat.mul_zero, captureCount]

theorem numberedSegments_eq {segments : List Segment}
    (h : ∀ segment ∈ segments, segment.innerCount = 0) (ignoreCase : Bool) (index : Nat) :
    numberedSegments ignoreCase index segments =
      segmentsSpelling ignoreCase (index + 1) segments := by
  induction segments generalizing index with
  | nil => rfl
  | cons segment segments ih =>
    have hsegment := h segment List.mem_cons_self
    rw [numberedSegments, segmentsSpelling,
      Segment.numbered_eq_spelling (Segment.captureless_of_innerCount hsegment ignoreCase),
      Segment.openedCount_eq hsegment,
      ih fun other mem => h other (List.mem_cons_of_mem segment mem), Nat.add_right_comm]

/-- Where no constraint opens a group, the groups are numbered as the captures are. -/
theorem numberedParts_eq {segments : List Segment}
    (h : ∀ segment ∈ segments, segment.innerCount = 0) (ignoreCase : Bool) (coverage : Coverage) :
    numberedParts ignoreCase segments coverage = spelledParts ignoreCase segments coverage := by
  rw [numberedParts, spelledParts, numberedSegments_eq h]

theorem flatMap_groupNames_eq_nil {segments : List Segment}
    (h : ∀ segment ∈ segments, segment.innerCount = 0) :
    segments.flatMap Segment.groupNames = [] := by
  refine List.flatMap_eq_nil_iff.mpr fun segment mem => ?_
  have hcount := h segment mem
  cases segment with
  | wildcard | literal text => rfl
  | capture stem name constraint modifier =>
    have hnames : constraintNames constraint = [] := by
      cases constraint with
      | none => rfl
      | some body => exact Ast.groupNames_eq_nil hcount
    simp [Segment.groupNames, hnames]

/-! ## Plain segments -/

/-- Where case counts and nothing is constrained, these are the parts that take what the segments
take. -/
theorem Segment.spelling_of_isPlain {segment : Segment} (h : segment.isPlain = true) (index : Nat) :
    segment.spelling false index = segment.parts index := by
  cases segment with
  | wildcard | literal => rfl
  | capture stem name constraint modifier =>
    obtain rfl : constraint = none := by cases constraint <;> first | rfl | cases h
    rw [Segment.spelling, pieceExpr, Modifier.valueOf_runExpr]
    rfl

theorem spelledParts_of_isPlain {segments : List Segment} (coverage : Coverage)
    (h : ∀ segment ∈ segments, segment.isPlain = true) :
    .assertion .textStart :: spelledParts false segments coverage =
      expressionParts segments coverage := by
  have hparts (index : Nat) :
      segmentsSpelling false index segments = segmentParts index segments := by
    induction segments generalizing index with
    | nil => rfl
    | cons segment segments ih =>
      rw [segmentsSpelling, segmentParts,
        Segment.spelling_of_isPlain (h segment List.mem_cons_self),
        ih fun other mem => h other (List.mem_cons_of_mem segment mem)]
  rw [spelledParts, expressionParts, hparts]

/-! ## Literals -/

section

variable (ignoreCase : Bool)

theorem denotes_char (depth index : Nat) (c : Char) :
    Denotes ignoreCase false depth index index (escape [c]) [spelledChar ignoreCase c] := by
  have hatom : Expr.ofAtom { ignoreCase } (.literal c false) = .ok (spelledChar ignoreCase c) := rfl
  by_cases hc : isMeta c
  · have hescape : escape [c] = ['\\', c] := by simp [escape, hc]
    have hmem : c ∈ metaCharacters := by simpa [isMeta] using hc
    rw [hescape]
    refine .atom (a := .literal c false) (fun rest => ?_) (List.cons_ne_nil _ _) (Nat.zero_le _)
      hatom
    simp only [metaCharacters, List.mem_cons, List.not_mem_nil, or_false] at hmem
    rcases hmem with rfl | rfl | rfl | rfl | rfl | rfl | rfl | rfl | rfl | rfl | rfl | rfl | rfl |
      rfl | rfl | rfl | rfl | rfl <;> rfl
  · have hescape : escape [c] = [c] := by simp [escape, hc]
    rw [hescape]
    refine .atom (a := .literal c false) (fun rest => ?_) (List.cons_ne_nil _ _) (Nat.zero_le _)
      hatom
    rw [List.singleton_append]
    unfold Token.next
    split <;> simp_all [isMeta, metaCharacters]

/-- A question mark is escaped, so no literal begins with one. -/
theorem head?_escape (text : List Char) : (escape text).head? ≠ some '?' := by
  cases text with
  | nil => simp [escape]
  | cons c text =>
    by_cases hc : isMeta c
    · simp [escape, hc]
    · have hne : c ≠ '?' := by
        rintro rfl
        exact hc rfl
      simp [escape, hc, hne]

/-- Each character of a literal stands for itself. -/
theorem denotes_text (depth index : Nat) (text : List Char) :
    Denotes ignoreCase true depth index index (escape text)
      (text.map (spelledChar ignoreCase)) := by
  induction text with
  | nil => exact Denotes.nil.mono _ (Nat.le_refl _)
  | cons c text ih =>
    have hescape : escape (c :: text) = escape [c] ++ escape text := by simp [escape]
    rw [hescape]
    exact (denotes_char ignoreCase depth index c).append ih (head?_escape text)

theorem denotes_slash (depth index : Nat) :
    Denotes ignoreCase false depth index index ['/'] [charExpr '/'] := by
  rw [← spelledChar_slash ignoreCase]
  exact denotes_char ignoreCase depth index '/'

theorem denotes_behindSlash (depth index : Nat) (text : List Char) :
    Denotes ignoreCase true depth index index ('/' :: escape text)
      (slashSpelling ignoreCase text) :=
  (denotes_slash ignoreCase depth index).append (denotes_text ignoreCase depth index text)
    (head?_escape text)

/-! ## Values -/

theorem denotes_run (index : Nat) :
    Denotes ignoreCase true 2 index index defaultConstraint [runExpr] := by
  have hset : Denotes ignoreCase false 1 index index ['[', '^', '/', ']'] [.letter noSlash] :=
    .atom (a := .bracketed true (.range '/' '/')) (fun _ => rfl) (List.cons_ne_nil _ _)
      (Nat.le_refl _) (by cases ignoreCase <;> rfl)
  exact hset.lazySome rfl

theorem denotes_line (index : Nat) :
    Denotes ignoreCase true 1 index index ['.', '*'] [lineExpr] := by
  have hdot : Denotes ignoreCase false 0 index index ['.'] [.letter .dot] :=
    .atom (a := .dot) (fun _ => rfl) (List.cons_ne_nil _ _) (Nat.le_refl _) rfl
  exact hdot.many rfl

end

/-! ## Captures -/

/-- A slash with something behind it takes a character. -/
theorem onlyEmpty_slash (x : Expr) : (Expr.sequence [charExpr '/', x]).onlyEmpty = false := by
  have happend : Expr.sequence [charExpr '/', x] = (charExpr '/').append x := by
    rw [Expr.sequence, List.foldr_cons, List.foldr_cons, List.foldr_nil, Expr.append_empty]
  rw [happend]
  cases x <;> rfl

def Modifier.valueText (piece : List Char) : Modifier → List Char
  | .one | .optional => piece
  | .oneOrMore | .zeroOrMore => piecesText piece

section

variable {ignoreCase : Bool} {depth index after count : Nat} {piece : List Char} {x : Expr}
  {names : List String} {modifier : Modifier}

/-- Pieces with slashes between them. -/
theorem denotes_pieces
    (h : ∀ index, Denotes ignoreCase true depth index (index + count) piece [x.shift index] names)
    (hpiece : piece.head? ≠ some '?') (index : Nat) :
    Denotes ignoreCase true (depth + 4) index (index + 2 * count) (piecesText piece)
      [x.shift index,
        .repetition 0 none true (.sequence [charExpr '/', x.shift (index + count)])]
      (names ++ names) := by
  have hround : Denotes ignoreCase true depth (index + count) (index + count + count)
      ('/' :: piece) [charExpr '/', x.shift (index + count)] names :=
    (denotes_slash ignoreCase depth (index + count)).append (h (index + count)) hpiece
  have hrounds := hround.group.many (onlyEmpty_slash _)
  have hall := ((h index).mono (depth + 4) (by omega)).append (hrounds.mono (depth + 4) (by omega))
    (by simp)
  have hafter : index + count + count = index + 2 * count := by omega
  rw [hafter] at hall
  simpa [piecesText] using hall

/-- The group of a capture takes its value. -/
theorem denotes_group
    (h : ∀ index, Denotes ignoreCase true depth index (index + count) piece [x.shift index] names)
    (hpiece : piece.head? ≠ some '?') (index : Nat) (modifier : Modifier) :
    Denotes ignoreCase false (depth + 6) index (index + (modifier.pieceCount * count + 1))
      (['('] ++ modifier.valueText piece ++ [')'])
      [.group (index + 1) (modifier.valueBehind x count (index + 1))]
      (List.replicate modifier.pieceCount names).flatten := by
  have hpieces : (piecesText piece).head? ≠ some '?' := by
    have hrounds : (['(', '?', ':', '/'] ++ piece ++ [')', '*']).head? ≠ some '?' := by simp
    simpa [piecesText] using head?_append_ne hpiece hrounds
  have hafter (inner : Nat) : index + (inner + 1) = index + 1 + inner := by omega
  rw [hafter]
  cases modifier with
  | one | optional =>
    have hgroup := ((h (index + 1)).mono (depth + 4) (by omega)).capture hpiece
    rw [Expr.sequence_singleton] at hgroup
    simpa [Modifier.pieceCount, Modifier.valueText, Modifier.valueBehind] using hgroup
  | oneOrMore | zeroOrMore =>
    have hgroup := (denotes_pieces h hpiece (index + 1)).capture hpieces
    simpa [Modifier.pieceCount, Modifier.valueText, Modifier.valueBehind] using hgroup

/-- A capture that has to be there. -/
theorem denotes_required {value : Expr}
    (hgroup : Denotes ignoreCase false (depth + 6) index after
      (['('] ++ modifier.valueText piece ++ [')']) [value] names)
    (stem : List Char) (hmodifier : modifier.isOptional = false) :
    Denotes ignoreCase true (depth + 9) index after (captureFragment (escape stem) piece modifier)
      (slashSpelling ignoreCase stem ++ [value]) names := by
  have hslash := denotes_behindSlash ignoreCase (depth + 9) index stem
  cases modifier with
  | one =>
    have hplain := hgroup.group.mono (depth + 9) (by omega)
    rw [Expr.sequence_singleton] at hplain
    simpa [captureFragment, Modifier.valueText] using hslash.append hplain (by simp)
  | oneOrMore =>
    have hplain := hgroup.mono (depth + 9) (by omega)
    simpa [captureFragment, Modifier.valueText] using hslash.append hplain (by simp)
  | optional | zeroOrMore => cases hmodifier

/-- A capture that may be absent, and leaves its stem behind. -/
theorem denotes_optional {value : Expr}
    (hgroup : Denotes ignoreCase false (depth + 6) index after
      (['('] ++ modifier.valueText piece ++ [')']) [value] names)
    {stem : List Char} (hstem : stem.isEmpty = false) (hmodifier : modifier.isOptional = true) :
    Denotes ignoreCase true (depth + 9) index after (captureFragment (escape stem) piece modifier)
      (slashSpelling ignoreCase stem ++ [optionExpr value]) names := by
  have hslash := denotes_behindSlash ignoreCase (depth + 9) index stem
  have hoption := hgroup.group.optional
  rw [Expr.sequence_singleton] at hoption
  have hescape : (escape stem).isEmpty = false := by
    cases stem with
    | nil => cases hstem
    | cons c stem => cases hc : isMeta c <;> simp [escape, hc]
  have hboth := hslash.append hoption (by simp)
  cases modifier with
  | one | oneOrMore => cases hmodifier
  | optional | zeroOrMore =>
    simpa [captureFragment, hescape, Modifier.valueText, optionExpr] using hboth

/-- A capture that may be absent, and leaves nothing behind. -/
theorem denotes_bare {number : Nat} {value : Expr}
    (hgroup : Denotes ignoreCase false (depth + 6) index after
      (['('] ++ modifier.valueText piece ++ [')']) [.group number value] names)
    (hmodifier : modifier.isOptional = true) :
    Denotes ignoreCase true (depth + 9) index after (captureFragment [] piece modifier)
      [optionExpr (.cat (charExpr '/') (.group number value))] names := by
  have hboth := (denotes_slash ignoreCase (depth + 6) index).append hgroup (by simp)
  have hsequence : Expr.sequence ([charExpr '/'] ++ [.group number value]) =
      .cat (charExpr '/') (.group number value) := rfl
  have hoption := hboth.group.optional
  rw [hsequence] at hoption
  cases modifier with
  | one | oneOrMore => cases hmodifier
  | optional | zeroOrMore => simpa [captureFragment, Modifier.valueText, optionExpr] using hoption

end

/-! ## Segments -/

/-- The constraint of a capture is read within an expression as it is read by itself, only that its
groups are numbered from there on. -/
def Segment.Legible (ignoreCase : Bool) (depth : Nat) : Segment → Prop
  | .wildcard | .literal _ => True
  | .capture _ _ constraint _ => ∀ index,
    Denotes ignoreCase true depth index (index + constraintCount constraint)
      (pieceText constraint) [(pieceExpr ignoreCase constraint).shift index]
      (constraintNames constraint)

theorem Segment.innerCount_of_isPlain {segment : Segment} (h : segment.isPlain = true) :
    segment.innerCount = 0 := by
  cases segment with
  | wildcard | literal => rfl
  | capture stem name constraint modifier =>
    obtain rfl : constraint = none := by cases constraint <;> first | rfl | cases h
    rfl

/-- Without a constraint there is nothing to be read. -/
theorem Segment.legible_of_isPlain {segment : Segment} (ignoreCase : Bool)
    (h : segment.isPlain = true) : segment.Legible ignoreCase 2 := by
  cases segment with
  | wildcard | literal => trivial
  | capture stem name constraint modifier =>
    obtain rfl : constraint = none := by cases constraint <;> first | rfl | cases h
    exact fun index => denotes_run ignoreCase index

theorem head?_pieceText (constraint : Option (List Char)) :
    (pieceText constraint).head? ≠ some '?' := by
  cases constraint <;> simp [pieceText, defaultConstraint]

section

variable {ignoreCase : Bool} {depth : Nat}

/-- The fragment of a segment. -/
theorem denotes_fragment (index : Nat) {segment : Segment} (h : segment.Legible ignoreCase depth) :
    Denotes ignoreCase true (depth + 9) index (index + segment.openedCount) segment.fragment
      (segment.numbered ignoreCase index) segment.groupNames := by
  cases segment with
  | wildcard =>
    exact (denotes_behindSlash ignoreCase (depth + 9) index []).append
      ((denotes_line ignoreCase index).mono _ (by omega)) (by decide)
  | literal text => exact denotes_behindSlash ignoreCase (depth + 9) index text
  | capture stem name constraint modifier =>
    have hgroup := denotes_group h (head?_pieceText constraint) index modifier
    simp only [Segment.fragment, Segment.openedCount, Segment.numbered, captureSpelling]
    cases hoptional : modifier.isOptional with
    | false => exact denotes_required hgroup stem hoptional
    | true =>
      cases hstem : stem.isEmpty with
      | false => exact denotes_optional hgroup hstem hoptional
      | true =>
        obtain rfl := List.isEmpty_iff.mp hstem
        exact denotes_bare hgroup hoptional

/-- A fragment begins with a slash, or with the group that makes it optional. -/
theorem head?_fragment (segment : Segment) : segment.fragment.head? ≠ some '?' := by
  cases segment with
  | wildcard | literal => simp [Segment.fragment]
  | capture stem name constraint modifier =>
    simp only [Segment.fragment]
    cases modifier with
    | one | oneOrMore => simp [captureFragment]
    | optional | zeroOrMore =>
      simp only [captureFragment]
      split <;> simp

theorem head?_fragments (segments : List Segment) :
    (segments.flatMap Segment.fragment).head? ≠ some '?' := by
  induction segments with
  | nil => simp
  | cons segment segments ih =>
    rw [List.flatMap_cons]
    exact head?_append_ne (head?_fragment segment) ih

theorem denotes_fragments (index : Nat) {segments : List Segment}
    (h : ∀ segment ∈ segments, segment.Legible ignoreCase depth) :
    Denotes ignoreCase true (depth + 9) index (index + openedCount segments)
      (segments.flatMap Segment.fragment) (numberedSegments ignoreCase index segments)
      (segments.flatMap Segment.groupNames) := by
  induction segments generalizing index with
  | nil => exact Denotes.nil.mono _ (Nat.le_refl _)
  | cons segment segments ih =>
    have hfirst := denotes_fragment index (h segment List.mem_cons_self)
    have hrest := ih (index + segment.openedCount) fun other mem =>
      h other (List.mem_cons_of_mem segment mem)
    rw [List.flatMap_cons, List.flatMap_cons, numberedSegments, openedCount, List.map_cons,
      List.sum_cons, ← Nat.add_assoc]
    exact hfirst.append hrest (head?_fragments segments)

/-! ## The whole expression -/

theorem denotes_textEnd (index : Nat) :
    Denotes ignoreCase false depth index index ['$'] [.assertion .textEnd] :=
  .atom (a := .anchor .dollar) (fun _ => rfl) (List.cons_ne_nil _ _) (Nat.zero_le _) rfl

theorem denotes_rootParts (index : Nat) (coverage : Coverage) :
    Denotes ignoreCase true (depth + 9) index index coverage.root coverage.rootParts := by
  have hend : Denotes ignoreCase false (depth + 9) index index ['$'] [.assertion .textEnd] :=
    denotes_textEnd index
  have hslash := denotes_slash ignoreCase (depth + 9) index
  cases coverage with
  | whole => exact hslash.append hend (by decide)
  | leading =>
    have hline := (denotes_line ignoreCase index).mono (depth + 9) (by omega)
    exact hslash.append (hline.append hend (by decide)) (by decide)

theorem denotes_endingParts (index : Nat) (coverage : Coverage) :
    Denotes ignoreCase true (depth + 9) index index coverage.ending coverage.endingParts := by
  have hend : Denotes ignoreCase false (depth + 9) index index ['$'] [.assertion .textEnd] :=
    denotes_textEnd index
  cases coverage with
  | whole => exact (denotes_slash ignoreCase (depth + 8) index).optional.append hend (by decide)
  | leading =>
    have hline := (denotes_slash ignoreCase 1 index).append (denotes_line ignoreCase index)
      (by decide)
    exact (hline.group.optional.mono (depth + 9) (by omega)).append hend (by decide)

theorem denotes_expressionText {segments : List Segment} (coverage : Coverage)
    (h : ∀ segment ∈ segments, segment.Legible ignoreCase depth) :
    Denotes ignoreCase true (depth + 9) 0 (openedCount segments) (expressionText segments coverage)
      (.assertion .textStart :: numberedParts ignoreCase segments coverage)
      (segments.flatMap Segment.groupNames) := by
  have hstart : Denotes ignoreCase false (depth + 9) 0 0 ['^'] [.assertion .textStart] :=
    .atom (a := .anchor .caret) (fun _ => rfl) (List.cons_ne_nil _ _) (Nat.zero_le _) rfl
  rw [expressionText, numberedParts]
  cases segments with
  | nil => exact hstart.append (denotes_rootParts 0 coverage) (by cases coverage <;> decide)
  | cons segment segments =>
    have hall := denotes_fragments 0 h
    rw [Nat.zero_add] at hall
    have hends := hall.append (denotes_endingParts _ coverage) (by cases coverage <;> decide)
    rw [List.append_nil] at hends
    exact hstart.append hends
      (head?_append_ne (head?_fragments _) (by cases coverage <;> simp [Coverage.ending]))

end

/-- The expression of a pattern whose constraints are read within it as they are read by themselves,
and open no groups, unless it nests too deeply. -/
theorem exprOf_of_legible {ignoreCase : Bool} {depth : Nat} {segments : List Segment}
    (coverage : Coverage) (h : ∀ segment ∈ segments, segment.Legible ignoreCase depth)
    (hcount : ∀ segment ∈ segments, segment.innerCount = 0) :
    exprOf ignoreCase (expressionText segments coverage) =
        .ok (.sequence (.assertion .textStart :: spelledParts ignoreCase segments coverage)) ∨
      Ast.maxDepth ≤ depth + 9 ∧
        exprOf ignoreCase (expressionText segments coverage) = .error .tooDeep := by
  have hdenotes := denotes_expressionText coverage h
  rw [flatMap_groupNames_eq_nil hcount, numberedParts_eq hcount] at hdenotes
  exact exprOf_of_denotes hdenotes

/-! ## Parts -/

theorem steady_valueExpr (modifier : Modifier) : modifier.valueExpr.Steady := by
  have hrun : runExpr.Steady := ⟨fun _ => rfl, trivial⟩
  cases modifier with
  | one | optional => exact hrun
  | oneOrMore | zeroOrMore => exact ⟨hrun, fun _ => rfl, trivial, hrun⟩

/-- What may be left out is not repeated. -/
theorem steady_optionExpr {x : Expr} (h : x.Steady) : (optionExpr x).Steady :=
  ⟨by simp, h⟩

theorem part_of_mem_slashSpelling {ignoreCase : Bool} {text : List Char} {x : Expr}
    (h : x ∈ slashSpelling ignoreCase text) : x.isPart = true ∧ x.Steady := by
  rcases List.mem_cons.mp h with rfl | h
  · exact ⟨rfl, trivial⟩
  · obtain ⟨c, -, rfl⟩ := List.mem_map.mp h
    exact ⟨rfl, trivial⟩

/-- The parts of a capture are no sequences, and are steady if what takes the value is. -/
theorem part_of_mem_captureSpelling {ignoreCase : Bool} {stem : List Char} {index : Nat}
    {value : Expr} {modifier : Modifier} (hvalue : value.Steady) {x : Expr}
    (h : x ∈ captureSpelling ignoreCase stem (.group index value) modifier) :
    x.isPart = true ∧ x.Steady := by
  simp only [captureSpelling] at h
  split at h
  · split at h
    · obtain rfl := List.mem_singleton.mp h
      exact ⟨rfl, steady_optionExpr ⟨trivial, hvalue⟩⟩
    · rcases List.mem_append.mp h with h | h
      · exact part_of_mem_slashSpelling h
      · obtain rfl := List.mem_singleton.mp h
        exact ⟨rfl, steady_optionExpr hvalue⟩
  · rcases List.mem_append.mp h with h | h
    · exact part_of_mem_slashSpelling h
    · obtain rfl := List.mem_singleton.mp h
      exact ⟨rfl, hvalue⟩

/-- The parts of a segment without a constraint are no sequences, and what they repeat takes a
character. -/
theorem part_of_mem_spelling {ignoreCase : Bool} {segment : Segment}
    (plain : segment.isPlain = true) {index : Nat} {x : Expr}
    (h : x ∈ segment.spelling ignoreCase index) :
    x.isPart = true ∧ x.Steady := by
  cases segment with
  | wildcard =>
    rcases List.mem_append.mp h with h | h
    · exact part_of_mem_slashSpelling h
    · obtain rfl := List.mem_singleton.mp h
      exact ⟨rfl, fun _ => rfl, trivial⟩
  | literal text => exact part_of_mem_slashSpelling h
  | capture stem name constraint modifier =>
    obtain rfl : constraint = none := by cases constraint <;> first | rfl | cases plain
    rw [Segment.spelling, pieceExpr, Modifier.valueOf_runExpr] at h
    exact part_of_mem_captureSpelling (steady_valueExpr modifier) h

theorem part_of_mem_parts {segment : Segment} {index : Nat} {x : Expr}
    (h : x ∈ segment.parts index) : x.isPart = true ∧ x.Steady := by
  cases segment with
  | wildcard | literal =>
    rw [← Segment.spelling_of_isPlain rfl] at h
    exact part_of_mem_spelling rfl h
  | capture stem name constraint modifier =>
    change x ∈ captureSpelling false stem (.group index modifier.valueExpr) modifier at h
    exact part_of_mem_captureSpelling (steady_valueExpr modifier) h

theorem part_of_mem_segmentsSpelling {ignoreCase : Bool} {segments : List Segment}
    (plain : ∀ segment ∈ segments, segment.isPlain = true) {index : Nat} {x : Expr}
    (h : x ∈ segmentsSpelling ignoreCase index segments) : x.isPart = true ∧ x.Steady := by
  induction segments generalizing index with
  | nil => cases h
  | cons segment segments ih =>
    rcases List.mem_append.mp h with h | h
    · exact part_of_mem_spelling (plain segment List.mem_cons_self) h
    · exact ih (fun other mem => plain other (List.mem_cons_of_mem segment mem)) h

theorem part_of_mem_segmentParts {segments : List Segment} {index : Nat} {x : Expr}
    (h : x ∈ segmentParts index segments) : x.isPart = true ∧ x.Steady := by
  induction segments generalizing index with
  | nil => cases h
  | cons segment segments ih =>
    rcases List.mem_append.mp h with h | h
    · exact part_of_mem_parts h
    · exact ih h

theorem part_of_mem_rootParts {coverage : Coverage} {x : Expr} (h : x ∈ coverage.rootParts) :
    x.isPart = true ∧ x.Steady := by
  cases coverage <;>
    simp only [Coverage.rootParts, List.mem_cons, List.not_mem_nil, or_false] at h
  · rcases h with rfl | rfl <;> exact ⟨rfl, trivial⟩
  · rcases h with rfl | rfl | rfl
    · exact ⟨rfl, trivial⟩
    · exact ⟨rfl, fun _ => rfl, trivial⟩
    · exact ⟨rfl, trivial⟩

theorem part_of_mem_endingParts {coverage : Coverage} {x : Expr} (h : x ∈ coverage.endingParts) :
    x.isPart = true ∧ x.Steady := by
  cases coverage <;>
    simp only [Coverage.endingParts, List.mem_cons, List.not_mem_nil, or_false] at h
  · rcases h with rfl | rfl
    · exact ⟨rfl, steady_optionExpr trivial⟩
    · exact ⟨rfl, trivial⟩
  · rcases h with rfl | rfl
    · exact ⟨rfl, steady_optionExpr ⟨trivial, fun _ => rfl, trivial⟩⟩
    · exact ⟨rfl, trivial⟩

theorem part_of_mem_expressionParts {segments : List Segment} {coverage : Coverage} {x : Expr}
    (h : x ∈ expressionParts segments coverage) : x.isPart = true ∧ x.Steady := by
  rcases List.mem_cons.mp h with rfl | h
  · exact ⟨rfl, trivial⟩
  · split at h
    · exact part_of_mem_rootParts h
    · exact (List.mem_append.mp h).elim part_of_mem_segmentParts part_of_mem_endingParts

theorem part_of_mem_spelledParts {ignoreCase : Bool} {segments : List Segment} {coverage : Coverage}
    (plain : ∀ segment ∈ segments, segment.isPlain = true) {x : Expr}
    (h : x ∈ spelledParts ignoreCase segments coverage) : x.isPart = true ∧ x.Steady := by
  unfold spelledParts at h
  split at h
  · exact part_of_mem_rootParts h
  · exact (List.mem_append.mp h).elim (part_of_mem_segmentsSpelling plain)
      part_of_mem_endingParts

/-- The expression of a pattern without constraints, with or without regard to case. -/
theorem exprOf_of_isPlain (ignoreCase : Bool) {segments : List Segment} (coverage : Coverage)
    (plain : ∀ segment ∈ segments, segment.isPlain = true) :
    exprOf ignoreCase (expressionText segments coverage) =
      .ok (.ofParts (.assertion .textStart :: spelledParts ignoreCase segments coverage)) := by
  have hparts : ∀ x ∈ Expr.assertion .textStart :: spelledParts ignoreCase segments coverage,
      x.isPart = true := fun x mem => by
    rcases List.mem_cons.mp mem with rfl | mem
    · rfl
    · exact (part_of_mem_spelledParts plain mem).1
  have hwritten := exprOf_of_legible coverage
    (fun segment mem => Segment.legible_of_isPlain ignoreCase (plain segment mem))
    (fun segment mem => Segment.innerCount_of_isPlain (plain segment mem))
  rcases hwritten with hexpr | ⟨hdeep, -⟩
  · rw [hexpr, Expr.sequence_eq_ofParts hparts]
  · exact absurd hdeep (by decide)

end RouteChain
