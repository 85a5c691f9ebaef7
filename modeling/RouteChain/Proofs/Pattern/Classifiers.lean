import RouteChain.Proofs.Pattern.Grammar
import RouteChain.Proofs.Pattern.Shapes

/-!
# Reading segments with expressions

The two forms in which captures are written are regular, so two expressions describe them. To read
a segment is to search it for the one with a name, then for the one without, and to take what the
groups of the first that is found have taken.

## Main definitions

* `namedForm`, `unnamedForm` — the two expressions.
* `Segment.classifyWith` — reading a segment with two expressions.
* `nameWords`, `bodyWords`, `signSet` — what stands for a name, a constraint and a sign.
* `namedParts`, `unnamedParts` — the parts of the expressions behind the stem.
* `Describes` — the parts behind a stem take what is read there.

The main results are `Segment.classify_eq_classifyWith` and `Segment.classify_grammar`.
-/

namespace RouteChain

open Regex Regex.Way
open scoped Computability

/-! ## Two expressions -/

def namedForm : String :=
  "^(.*)?:(\\w+)(?:\\(((?:\\\\.|[^()])+)\\))?([+*?])?$"

def unnamedForm : String :=
  "^(.*)?\\(((?:\\\\.|[^()])+)\\)([+*?])?$"

/-- The modifier that a group for its sign has taken, if it took part in the match. -/
def Modifier.ofGroup : Option (List Char) → Modifier
  | some ['?'] => .optional
  | some ['+'] => .oneOrMore
  | some ['*'] => .zeroOrMore
  | _ => .one

namespace Segment

def ofNamedGroups (groups : List (Option (List Char))) : Segment :=
  .capture (groups[0]?.join.getD []) groups[1]?.join groups[2]?.join (.ofGroup groups[3]?.join)

def ofUnnamedGroups (groups : List (Option (List Char))) : Segment :=
  .capture (groups[0]?.join.getD []) none groups[1]?.join (.ofGroup groups[2]?.join)

/-- The meaning of the text of a segment, read with two expressions for captures. -/
def classifyWith (named unnamed : Regex) (text : String) : Segment :=
  let groups? (form : Regex) := (form.captures? text).map (·.map (·.map String.toList))
  if text = "*" then .wildcard
  else (((groups? named).map ofNamedGroups).or ((groups? unnamed).map ofUnnamedGroups)).getD
    (.literal text.toList)

end Segment

/-! ## Names, constraints and signs -/

def nameExpr : Expr :=
  .repetition 1 none true (.letter (.named .word))

def nameWords : Language Char :=
  (CharSet.named .word).words * (CharSet.named .word).words∗

theorem mem_nameWords {text : List Char} : text ∈ nameWords ↔ IsName text := by
  rw [nameWords, mem_mul_kstar nil_notMem_words, mem_kstar_words]
  rfl

theorem takes_nameExpr : nameExpr.Takes nameWords :=
  (Expr.takes_letter _).oneOrMore nil_notMem_words true

def noParen : CharSet :=
  .compl (.union (.char '(') (.char ')'))

theorem contains_noParen {c : Char} : noParen.contains c = true ↔ c ≠ '(' ∧ c ≠ ')' := by
  simp [noParen, CharSet.contains, contains_char, eq_comm (b := c)]

/-- A backslash with what it escapes, or a character that is no parenthesis. -/
def pieceWords : Language Char :=
  (CharSet.char '\\').words * CharSet.dot.words + noParen.words

def bodyExpr : Expr :=
  .repetition 1 none true (.alt (.cat (charExpr '\\') (.letter .dot)) (.letter noParen))

theorem escape_mem_pieceWords {c : Char} (h : c ≠ '\n') : ['\\', c] ∈ pieceWords :=
  .inl (Language.append_mem_mul (mem_words_char.mpr rfl) ⟨c, by simp [contains_dot, h], rfl⟩)

theorem singleton_mem_pieceWords {c : Char} (h : c ≠ '(' ∧ c ≠ ')') : [c] ∈ pieceWords :=
  .inr ⟨c, contains_noParen.mpr h, rfl⟩

theorem cases_of_mem_pieceWords {text : List Char} (mem : text ∈ pieceWords) :
    (∃ c, text = ['\\', c]) ∨ ∃ c, (c ≠ '(' ∧ c ≠ ')') ∧ text = [c] := by
  rcases mem with mem | ⟨c, hc, rfl⟩
  · obtain ⟨first, hfirst, last, ⟨c, -, rfl⟩, rfl⟩ := Language.mem_mul.mp mem
    rw [mem_words_char.mp hfirst]
    exact .inl ⟨c, rfl⟩
  · exact .inr ⟨c, contains_noParen.mp hc, rfl⟩

theorem nil_notMem_pieceWords : [] ∉ pieceWords := fun mem => by
  rcases cases_of_mem_pieceWords mem with ⟨c, h⟩ | ⟨c, -, h⟩ <;> cases h

namespace Segment

theorem parensEscaped_of_not {text : List Char} (h : parensEscaped false text = true)
    (escaped : Bool) : parensEscaped escaped text = true := by
  cases text with
  | nil => rfl
  | cons c text =>
    rw [parensEscaped, Bool.and_eq_true] at h ⊢
    exact ⟨by grind, h.2⟩

/-- Pieces of constraints, put together, have a backslash before each parenthesis. -/
theorem parensEscaped_of_mem {text : List Char} (mem : text ∈ pieceWords∗) :
    parensEscaped false text = true := by
  obtain ⟨pieces, rfl, hpieces⟩ := Language.mem_kstar.mp mem
  clear mem
  induction pieces with
  | nil => rfl
  | cons piece pieces ih =>
    have hrest := ih fun other mem => hpieces other (List.mem_cons_of_mem piece mem)
    rcases cases_of_mem_pieceWords (hpieces piece List.mem_cons_self) with
      ⟨c, rfl⟩ | ⟨c, hc, rfl⟩
    · simp [parensEscaped, parensEscaped_of_not hrest]
    · simp [parensEscaped, parensEscaped_of_not hrest, hc]

/-- A text with a backslash before each parenthesis falls into pieces of constraints. A backslash
goes with the parenthesis behind it, and stands for itself where there is none. -/
theorem mem_of_parensEscaped {text : List Char} {escaped : Bool}
    (h : parensEscaped escaped text = true) :
    (if escaped then '\\' :: text else text) ∈ pieceWords∗ := by
  have hback : ['\\'] ∈ pieceWords := singleton_mem_pieceWords (by decide)
  induction text generalizing escaped with
  | nil =>
    cases escaped with
    | false => exact Language.nil_mem_kstar _
    | true => exact append_mem_kstar hback (Language.nil_mem_kstar _)
  | cons c text ih =>
    rw [parensEscaped, Bool.and_eq_true] at h
    have hrest := ih h.2
    by_cases hc : c = '\\'
    · subst hc
      cases escaped with
      | false => exact hrest
      | true => exact append_mem_kstar hback hrest
    · rw [beq_false_of_ne hc] at hrest
      cases escaped with
      | false => exact append_mem_kstar (singleton_mem_pieceWords (by grind)) hrest
      | true =>
        by_cases hfeed : c = '\n'
        · subst hfeed
          exact append_mem_kstar hback
            (append_mem_kstar (singleton_mem_pieceWords (by decide)) hrest)
        · exact append_mem_kstar (escape_mem_pieceWords hfeed) hrest

end Segment

def bodyWords : Language Char :=
  pieceWords * pieceWords∗

theorem mem_bodyWords {text : List Char} : text ∈ bodyWords ↔ Admissible text := by
  rw [bodyWords, mem_mul_kstar nil_notMem_pieceWords, ← Segment.isConstraint_iff,
    Segment.isConstraint, Bool.and_eq_true]
  refine and_congr (by simp) ⟨Segment.parensEscaped_of_mem, fun h => ?_⟩
  exact Segment.mem_of_parensEscaped h

theorem takes_bodyExpr : bodyExpr.Takes bodyWords :=
  (((Expr.takes_letter _).cat (Expr.takes_letter _)).alt (Expr.takes_letter _)).oneOrMore
    nil_notMem_pieceWords true

def signSet : CharSet :=
  .union (.char '+') (.union (.char '*') (.char '?'))

theorem contains_signSet {c : Char} : signSet.contains c = true ↔ c = '+' ∨ c = '*' ∨ c = '?' := by
  simp [signSet, CharSet.contains, contains_char, eq_comm (b := c)]

/-! ## The two forms -/

def signPart (index : Nat) : Expr :=
  optionExpr (.group index (.letter signSet))

def bodyParts (index : Nat) : List Expr :=
  [charExpr '(', .group index bodyExpr, charExpr ')']

def namedParts : List Expr :=
  [charExpr ':', .group 2 nameExpr, optionExpr (.ofParts (bodyParts 3)), signPart 4]

def unnamedParts : List Expr :=
  bodyParts 2 ++ [signPart 3]

/-- A stem with parts behind it up to the end. -/
def formParts (parts : List Expr) : List Expr :=
  optionExpr (.group 1 lineExpr) :: (parts ++ [.assertion .textEnd])

def formRegex (text : String) (parts : List Expr) : Regex :=
  let x := Expr.ofParts (.assertion .textStart :: formParts parts)
  ⟨text, x, .ofExpr (anywhere x)⟩

theorem parse_namedForm : Regex.parse false namedForm = .ok (formRegex namedForm namedParts) := rfl

theorem parse_unnamedForm :
    Regex.parse false unnamedForm = .ok (formRegex unnamedForm unnamedParts) := rfl

/-! ## What the forms describe -/

def Modifier.signGroup (modifier : Modifier) : Option (List Char) :=
  if modifier.sign.isEmpty then none else some modifier.sign

theorem Modifier.ofGroup_signGroup (modifier : Modifier) :
    Modifier.ofGroup modifier.signGroup = modifier := by
  cases modifier <;> rfl

theorem reads_signPart (index : Nat) : Reads (signPart index).ways index 1 (fun taken values =>
    ∃ modifier : Modifier, taken = modifier.sign ∧ values = [modifier.signGroup]) := by
  refine (Reads.group (Expr.takes_letter signSet) rfl index).option.congr fun taken values => ?_
  constructor
  · rintro (⟨⟨c, hc, rfl⟩, rfl⟩ | ⟨rfl, rfl⟩)
    · rcases contains_signSet.mp hc with rfl | rfl | rfl
      · exact ⟨.oneOrMore, rfl, rfl⟩
      · exact ⟨.zeroOrMore, rfl, rfl⟩
      · exact ⟨.optional, rfl, rfl⟩
    · exact ⟨.one, rfl, rfl⟩
  · rintro ⟨modifier, rfl, rfl⟩
    cases modifier with
    | one => exact .inr ⟨rfl, rfl⟩
    | optional => exact .inl ⟨⟨'?', contains_signSet.mpr (by decide), rfl⟩, rfl⟩
    | oneOrMore => exact .inl ⟨⟨'+', contains_signSet.mpr (by decide), rfl⟩, rfl⟩
    | zeroOrMore => exact .inl ⟨⟨'*', contains_signSet.mpr (by decide), rfl⟩, rfl⟩

theorem reads_bodyParts (index : Nat) : Reads (sequenceWays (bodyParts index)) index 1
    (fun taken values => ∃ body, Admissible body ∧ taken = constraintText (some body) ∧
      values = [some body]) := by
  refine ((reads_charExpr '(' index).andThen ((Reads.group takes_bodyExpr rfl index).andThen
    ((reads_charExpr ')' (index + 1)).andThen (.stay (index + 1))))).congr fun taken values => ?_
  simp [Shape.andThen, mem_bodyWords, constraintText, and_assoc]

/-- What a constraint that may be left out takes. -/
theorem reads_optionalBody (index : Nat) :
    Reads (optionExpr (.ofParts (bodyParts index))).ways index 1 (fun taken values =>
      ∃ constraint : Option (List Char), (∀ body ∈ constraint, Admissible body) ∧
        taken = constraintText constraint ∧ values = [constraint]) := by
  have hbody := reads_bodyParts index
  rw [← Expr.ways_ofParts] at hbody
  refine hbody.option.congr fun taken values => ?_
  constructor
  · rintro (⟨body, hbody, rfl, rfl⟩ | ⟨rfl, rfl⟩)
    · exact ⟨some body, by simpa using hbody, rfl, rfl⟩
    · exact ⟨none, by simp, rfl, rfl⟩
  · rintro ⟨constraint, hconstraint, rfl, rfl⟩
    cases constraint with
    | some body => exact .inl ⟨body, hconstraint body rfl, rfl, rfl⟩
    | none => exact .inr ⟨rfl, rfl⟩

section

variable {text name body : List Char} {constraint : Option (List Char)} {modifier : Modifier}

theorem writes_named_iff : Writes text [] (some name) constraint modifier ↔
    IsName name ∧ (∀ body ∈ constraint, Admissible body) ∧
      text = ':' :: (name ++ (constraintText constraint ++ modifier.sign)) := by
  constructor
  · intro h
    exact ⟨h.isName name rfl, h.admissible, h.text_eq⟩
  · rintro ⟨hname, hconstraint, htext⟩
    exact ⟨htext, by simp, by simpa using hname, hconstraint, by simp⟩

theorem writes_unnamed_iff : Writes text [] none (some body) modifier ↔
    Admissible body ∧ text = constraintText (some body) ++ modifier.sign := by
  constructor
  · intro h
    exact ⟨h.admissible body rfl, h.text_eq⟩
  · rintro ⟨hbody, htext⟩
    exact ⟨htext, by simp, by simp, by simpa using hbody, by simp⟩

end

def namedShape : Shape := fun taken values =>
  ∃ name constraint modifier, Writes taken [] (some name) constraint modifier ∧
    values = [some name, constraint, modifier.signGroup]

def unnamedShape : Shape := fun taken values =>
  ∃ body modifier, Writes taken [] none (some body) modifier ∧
    values = [some body, modifier.signGroup]

theorem reads_namedParts : Reads (sequenceWays namedParts) 2 3 namedShape := by
  refine ((reads_charExpr ':' 2).andThen ((Reads.group takes_nameExpr rfl 2).andThen
    ((reads_optionalBody 3).andThen ((reads_signPart 4).andThen (.stay 5))))).congr
    fun taken values => ?_
  simp [Shape.andThen, namedShape, mem_nameWords, writes_named_iff, and_assoc]

theorem reads_unnamedParts : Reads (sequenceWays unnamedParts) 2 2 unnamedShape := by
  have hparts : sequenceWays unnamedParts = fun s =>
      andThen (sequenceWays (bodyParts 2) s) (sequenceWays [signPart 3]) :=
    funext (sequenceWays_append _ _)
  rw [hparts]
  refine ((reads_bodyParts 2).andThen ((reads_signPart 3).andThen (.stay 4))).congr
    fun taken values => ?_
  simp [Shape.andThen, unnamedShape, writes_unnamed_iff, and_assoc]

/-! ## Stems -/

/-- What is read behind a stem is found by trying the stems in turn, the longest first. -/
theorem Segment.afterStem_eq_findSome? (read : List Char → Option Segment) (text : List Char) :
    afterStem read text = (takeLine text).findSome? (fun taken =>
      (read taken.2).map (taken.1.foldr withStem)) := by
  induction text with
  | nil => cases h : read [] <;> simp [afterStem, takeLine, h]
  | cons c text ih =>
    rw [afterStem, takeLine]
    split
    · cases h : read (c :: text) <;> simp [h]
    · rw [ih, List.findSome?_append, List.findSome?_map, List.map_findSome?]
      congr 1
      · congr 1
        funext taken
        cases h : read taken.2 <;> simp [h]
      · cases h : read (c :: text) <;> simp [h]

/-- What is read at once is also read behind no stem. -/
theorem Segment.afterStem_or_read (read : List Char → Option Segment) (text : List Char) :
    (afterStem read text).or (read text) = afterStem read text := by
  cases text with
  | nil => exact Option.or_self
  | cons c text => rw [afterStem, Option.or_assoc, Option.or_self]

def groupValues (text : List Char) (count : Nat) (marks : List Mark) : List (Option (List Char)) :=
  (List.range count).map (fun i => (groupText? text marks (i + 1)).map String.toList)

theorem Binds.groupValues_eq {text : List Char} {count : Nat} {way : Way}
    {taken : List (Option (List Char)) × List Char} (h : Binds text 1 count way taken) :
    groupValues text count way.1 = taken.1 := by
  have hmap := congrArg (List.map (Option.map String.toList)) h.groups_eq
  simpa [groupValues, Function.comp_def] using hmap

/-- A form of captures: behind a stem its parts take what is read there, and the capture is made of
what the groups for the stem and behind it have taken. -/
structure Describes (parts : List Expr) (count : Nat) (shape : Shape)
    (read : List Char → Option Segment) (capture : List (Option (List Char)) → Segment) :
    Prop where
  steady : ∀ x ∈ parts, x.Steady
  reads : Reads (sequenceWays parts) 2 count shape
  read_iff : ∀ rest segment, read rest = some segment ↔
    ∃ values, shape rest values ∧ segment = capture (none :: values)
  capture_stem : ∀ stem values, capture (some stem :: values) =
    stem.foldr Segment.withStem (capture (none :: values))

section

variable {parts : List Expr} {count : Nat} {shape : Shape} {read : List Char → Option Segment}
  {capture : List (Option (List Char)) → Segment}

/-- Behind a stem, or none, the parts take what is read there, up to the end. -/
theorem Describes.head?_behind (h : Describes parts count shape read capture)
    {text rest : List Char} {first : Way} {stem : Option (List Char)}
    (binds : Binds text 1 1 first ([stem], rest)) :
    (sequenceWays (parts ++ [.assertion .textEnd]) first.2).head?.map (fun last =>
        capture (groupValues text (1 + count) (last.1 ++ first.1))) =
      (read rest).map ((stem.getD []).foldr Segment.withStem) := by
  rw [sequenceWays_append, andThen_textEnd]
  have hcapture (values : List (Option (List Char))) : capture (stem :: values) =
      (stem.getD []).foldr Segment.withStem (capture (none :: values)) := by
    cases stem with
    | none => rfl
    | some stem => exact h.capture_stem stem values
  have hfirst : first.2.rest = rest := binds.rest_eq
  cases hhead : ((sequenceWays parts first.2).filter fun way => way.2.rest.isEmpty).head? with
  | some last =>
    obtain ⟨mem, hend⟩ := List.mem_filter.mp (List.mem_of_mem_head? hhead)
    obtain ⟨taken, values, hshape, hrest, hvalues⟩ := h.reads.sound binds.drop_eq mem
    rw [List.isEmpty_iff.mp hend, List.append_nil, hfirst] at hrest
    subst hrest
    have hinner := (h.read_iff _ _).mpr ⟨values, hshape, rfl⟩
    have hgroups := (binds.append hvalues).groupValues_eq
    rw [Option.map_some, hgroups, hinner, Option.map_some]
    exact congrArg some (hcapture values)
  | none =>
    have hnone : read rest = none := by
      refine Option.eq_none_iff_forall_ne_some.mpr fun segment hsome => ?_
      obtain ⟨values, hshape, -⟩ := (h.read_iff _ _).mp hsome
      have hall : first.2.rest = rest ++ [] := by rw [hfirst, List.append_nil]
      obtain ⟨marks, mem⟩ := h.reads.complete hshape hall
      have hmem : (marks, first.2.skip rest) ∈
          (sequenceWays parts first.2).filter (fun way => way.2.rest.isEmpty) :=
        List.mem_filter.mpr ⟨mem, List.isEmpty_iff.mpr (Spot.rest_skip hall)⟩
      rw [List.head?_eq_none_iff.mp hhead] at hmem
      cases hmem
    rw [hnone]
    rfl

/-- Of several stems the first counts behind which something is read. -/
theorem Describes.head?_andThen (h : Describes parts count shape read capture)
    {text : List Char} {ways : List Way} {takes : List (Option (List Char) × List Char)}
    (hstems : List.Forall₂ (fun way taken => Binds text 1 1 way ([taken.1], taken.2)) ways takes) :
    (andThen ways (sequenceWays (parts ++ [.assertion .textEnd]))).head?.map (fun way =>
        capture (groupValues text (1 + count) way.1)) =
      takes.findSome? (fun taken =>
        (read taken.2).map ((taken.1.getD []).foldr Segment.withStem)) := by
  induction hstems with
  | nil => rfl
  | cons binds _ ih =>
    have hfirst := h.head?_behind binds
    rw [cons_andThen, List.head?_append, Option.map_or, List.head?_map, Option.map_map, ih,
      List.findSome?_cons, ← hfirst]
    cases (sequenceWays (parts ++ [.assertion .textEnd]) _).head? <;> rfl

/-- A form describes what is read behind the longest stem. -/
theorem Describes.head?_formParts (h : Describes parts count shape read capture)
    (text : List Char) :
    (sequenceWays (formParts parts) (.start text)).head?.map (fun way =>
      capture (groupValues text (1 + count) way.1)) = Segment.afterStem read text := by
  have hstems : List.Forall₂ (fun way taken => Binds text 1 1 way ([taken.1], taken.2))
      ((optionExpr (.group 1 lineExpr)).ways (.start text))
      ((takeLine text).map (fun taken => (some taken.1, taken.2)) ++ [(none, text)]) := by
    rw [ways_optionExpr, Expr.ways, ways_lineExpr, enclose, List.map_map]
    have hnone : Binds text 1 1 ([], (Spot.start text).skip []) ([none], text) :=
      .absent 1 rfl rfl
    refine List.rel_append ?_ (.cons hnone .nil)
    rw [List.forall₂_map_left_iff, List.forall₂_map_right_iff]
    exact List.forall₂_same.mpr fun taken mem => .present 1 rfl (eq_append_of_mem_takeLine mem)
  rw [formParts, sequenceWays, h.head?_andThen hstems,
    List.findSome?_append, List.findSome?_map, ← Segment.afterStem_or_read read text,
    Segment.afterStem_eq_findSome?]
  congr 1
  cases h : read text <;> simp [h]

end

/-! ## Searching -/

/-- What is searched with a form is what is read behind the longest stem. -/
theorem Describes.map_captures? {parts : List Expr} {count : Nat} {shape : Shape}
    {read : List Char → Option Segment} {capture : List (Option (List Char)) → Segment}
    (h : Describes parts count shape read capture) (form : String)
    (hcount : (formRegex form parts).groupCount = 1 + count) (text : String) :
    ((formRegex form parts).captures? text).map (fun groups =>
      capture (groups.map (·.map String.toList))) = Segment.afterStem read text.toList := by
  have hsteady : ∀ x ∈ formParts parts, x.Steady := by
    rw [formParts, List.forall_mem_cons, List.forall_mem_append]
    exact ⟨⟨by simp, fun _ => rfl, trivial⟩, h.steady, by simp [Expr.Steady]⟩
  have hfind : (formRegex form parts).code.find? text.toList =
      (sequenceWays (formParts parts) (.start text.toList)).head?.map Prod.fst :=
    Code.find?_anywhere hsteady text.toList
  rw [Regex.captures?, hfind, hcount, ← h.head?_formParts, Option.map_map, Option.map_map]
  simp only [groupValues, Function.comp_def, List.map_map]

theorem describes_namedParts :
    Describes namedParts 3 namedShape Segment.named? Segment.ofNamedGroups where
  steady := by
    simp [namedParts, bodyParts, signPart, optionExpr, charExpr, nameExpr, bodyExpr, Expr.ofParts,
      Expr.Steady, Expr.consumes]
  reads := reads_namedParts
  read_iff rest segment := by
    rw [Segment.named?_eq_some_iff]
    constructor
    · rintro ⟨name, constraint, modifier, rfl, writes⟩
      refine ⟨_, ⟨name, constraint, modifier, writes, rfl⟩, ?_⟩
      simp [Segment.ofNamedGroups, Modifier.ofGroup_signGroup]
    · rintro ⟨_, ⟨name, constraint, modifier, writes, rfl⟩, rfl⟩
      refine ⟨name, constraint, modifier, ?_, writes⟩
      simp [Segment.ofNamedGroups, Modifier.ofGroup_signGroup]
  capture_stem stem values := by
    simp [Segment.ofNamedGroups, Segment.foldr_withStem]

theorem describes_unnamedParts :
    Describes unnamedParts 2 unnamedShape Segment.unnamed? Segment.ofUnnamedGroups where
  steady := by
    simp [unnamedParts, bodyParts, signPart, optionExpr, charExpr, bodyExpr, Expr.Steady,
      Expr.consumes]
  reads := reads_unnamedParts
  read_iff rest segment := by
    rw [Segment.unnamed?_eq_some_iff]
    constructor
    · rintro ⟨constraint, modifier, rfl, writes⟩
      obtain ⟨body, rfl⟩ := Option.ne_none_iff_exists'.mp (writes.marked rfl)
      refine ⟨_, ⟨body, modifier, writes, rfl⟩, ?_⟩
      simp [Segment.ofUnnamedGroups, Modifier.ofGroup_signGroup]
    · rintro ⟨_, ⟨body, modifier, writes, rfl⟩, rfl⟩
      refine ⟨some body, modifier, ?_, writes⟩
      simp [Segment.ofUnnamedGroups, Modifier.ofGroup_signGroup]
  capture_stem stem values := by
    simp [Segment.ofUnnamedGroups, Segment.foldr_withStem]

namespace Segment

/-- To read a segment is to search it for the two forms. -/
theorem classify_eq_classifyWith (text : String) : classify text.toList =
    classifyWith (formRegex namedForm namedParts) (formRegex unnamedForm unnamedParts) text := by
  have hnamed := describes_namedParts.map_captures? namedForm rfl text
  have hunnamed := describes_unnamedParts.map_captures? unnamedForm rfl text
  have hstar : text.toList = ['*'] ↔ text = "*" := by
    rw [← String.toList_inj]
    rfl
  simp only [classify, classifyWith, hstar, Option.map_map, Function.comp_def, hnamed, hunnamed]

/-- The meaning of a text, which is what a search for the two forms finds, is a capture with a name
exactly if the text can be written as one, and otherwise a capture without a name exactly if it can
be written as one of those. It is then the one with the longest stem. All other texts but a lone
star are literals. The pieces of what is read, put together, are the text. -/
theorem classify_grammar :
    (∃ named unnamed, Regex.parse false namedForm = .ok named ∧
      Regex.parse false unnamedForm = .ok unnamed ∧
      ∀ text : String, classify text.toList = classifyWith named unnamed text) ∧
    ∀ text : List Char,
      (∀ segment, classify text = segment ↔ Means text segment) ∧
      ((∃ stem name constraint modifier,
        classify text = .capture stem (some name) constraint modifier) ↔ CanBeCapture true text) ∧
      ((∃ stem constraint modifier, classify text = .capture stem none constraint modifier) ↔
        ¬ CanBeCapture true text ∧ CanBeCapture false text) ∧
      (classify text).text = text :=
  ⟨⟨_, _, parse_namedForm, parse_unnamedForm, classify_eq_classifyWith⟩, fun text =>
    ⟨fun _ => classify_eq_iff, exists_named_iff, exists_unnamed_iff, text_classify text⟩⟩

end Segment

end RouteChain
