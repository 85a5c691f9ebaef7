import Mathlib.Data.List.Infix
import Mathlib.Data.List.TakeWhile
import RouteChain.Proofs.Pattern.Classify

/-!
# The grammar of segments

A text is read as a capture exactly if it can be written as one: a stem without line feeds, a colon
with a name, a constraint between parentheses, and the sign of a modifier, where the constraint may
be left out behind a name, and the name before a constraint. Of several ways to write it the one
with the longest stem counts, and a name counts more than none. No character gets lost.

## Main definitions

* `captureWriting`, `Segment.text` — how a capture and any other segment are written.
* `IsName`, `Admissible` — what may stand for a name and for a constraint.
* `Writes`, `LongestWriting` — the ways to write a text as a capture, and the one that counts.

The main result is `Segment.classify_eq_iff`.
-/

namespace RouteChain

/-! ## Writing -/

def Modifier.sign : Modifier → List Char
  | .one => []
  | .optional => ['?']
  | .oneOrMore => ['+']
  | .zeroOrMore => ['*']

def nameText : Option (List Char) → List Char
  | some name => ':' :: name
  | none => []

def constraintText : Option (List Char) → List Char
  | some body => '(' :: (body ++ [')'])
  | none => []

/-- The text of a capture: its pieces, put together. -/
def captureWriting (stem : List Char) (name constraint : Option (List Char)) (modifier : Modifier) :
    List Char :=
  stem ++ (nameText name ++ (constraintText constraint ++ modifier.sign))

def Segment.text : Segment → List Char
  | .wildcard => ['*']
  | .literal text => text
  | .capture stem name constraint modifier => captureWriting stem name constraint modifier

/-- One or more word characters. -/
def IsName (name : List Char) : Prop :=
  name ≠ [] ∧ ∀ c ∈ name, Unicode.isWord c = true

/-- What may stand between the parentheses of a constraint: some text in which a backslash stands
right before each parenthesis. -/
def Admissible (body : List Char) : Prop :=
  body ≠ [] ∧ ∀ before c behind, body = before ++ c :: behind → c = '(' ∨ c = ')' →
    ['\\'] <:+ before

/-- The text is the given pieces of a capture, put together. A capture has a name or a
constraint. -/
structure Writes (text stem : List Char) (name constraint : Option (List Char))
    (modifier : Modifier) : Prop where
  text_eq : text = captureWriting stem name constraint modifier
  stem_line : '\n' ∉ stem
  isName : ∀ word ∈ name, IsName word
  admissible : ∀ body ∈ constraint, Admissible body
  marked : name = none → constraint ≠ none

namespace Segment

/-! ## Constraints -/

theorem parensEscaped_iff {escaped : Bool} {text : List Char} :
    parensEscaped escaped text = true ↔
      ∀ before c behind, text = before ++ c :: behind → c = '(' ∨ c = ')' →
        (escaped = true ∧ before = []) ∨ ['\\'] <:+ before := by
  induction text generalizing escaped with
  | nil => simp [parensEscaped]
  | cons d text ih =>
    rw [parensEscaped, Bool.and_eq_true, ih]
    constructor
    · rintro ⟨hd, hrest⟩ before c behind heq hc
      cases before with
      | nil => grind
      | cons e before =>
        obtain ⟨rfl, hbehind⟩ := List.cons.inj heq
        rcases hrest before c behind hbehind hc with ⟨hback, rfl⟩ | ⟨front, rfl⟩
        · exact .inr ⟨[], by simpa using (beq_iff_eq.mp hback).symm⟩
        · exact .inr ⟨d :: front, rfl⟩
    · intro h
      refine ⟨?_, fun before c behind heq hc => ?_⟩
      · have hfirst := h [] d text rfl
        by_cases hparen : d = '(' ∨ d = ')'
        · have := hfirst hparen
          grind
        · grind
      · rcases h (d :: before) c behind (by rw [heq]; rfl) hc with ⟨-, hnil⟩ | hsuffix
        · cases hnil
        · rcases List.suffix_cons_iff.mp hsuffix with heq | hsuffix
          · obtain ⟨rfl, rfl⟩ := List.cons.inj heq
            exact .inl ⟨rfl, rfl⟩
          · exact .inr hsuffix

theorem isConstraint_iff {text : List Char} : isConstraint text = true ↔ Admissible text := by
  simp [isConstraint, Admissible, parensEscaped_iff]

theorem ofSign?_eq_some_iff {sign : Char} {modifier : Modifier} :
    Modifier.ofSign? sign = some modifier ↔ modifier.sign = [sign] := by
  constructor
  · intro h
    unfold Modifier.ofSign? at h
    split at h <;> cases h <;> rfl
  · intro h
    cases modifier <;> cases h <;> rfl

theorem ofText?_eq_some_iff {text : List Char} {modifier : Modifier} :
    Modifier.ofText? text = some modifier ↔ text = modifier.sign := by
  constructor
  · intro h
    unfold Modifier.ofText? at h
    split at h
    · cases h
      rfl
    · exact (ofSign?_eq_some_iff.mp h).symm
    · cases h
  · rintro rfl
    cases modifier <;> rfl

/-- Behind an opening parenthesis stand a constraint, a closing parenthesis, and maybe a sign. -/
theorem constraint?_eq_some_iff {text body : List Char} {modifier : Modifier} :
    constraint? text = some (body, modifier) ↔
      Admissible body ∧ text = body ++ ')' :: modifier.sign := by
  constructor
  · intro h
    unfold constraint? at h
    split at h
    · rename_i behind hreverse
      split at h
      · rename_i hbody
        cases h
        have htext := List.reverse_eq_iff.mp hreverse
        exact ⟨isConstraint_iff.mp hbody, by simpa [Modifier.sign] using htext⟩
      · cases h
    · rename_i sign behind _ hreverse
      split at h
      · rename_i hbody
        obtain ⟨_, hsign, heq⟩ := Option.map_eq_some_iff.mp h
        cases heq
        have htext := List.reverse_eq_iff.mp hreverse
        exact ⟨isConstraint_iff.mp hbody, by simp [htext, ofSign?_eq_some_iff.mp hsign]⟩
      · cases h
    · cases h
  · rintro ⟨hbody, rfl⟩
    have hconstraint := isConstraint_iff.mpr hbody
    cases modifier <;> simp [constraint?, Modifier.sign, Modifier.ofSign?, hconstraint]

/-! ## Captures without a stem -/

theorem isWord_head_constraintText (constraint : Option (List Char)) (modifier : Modifier) :
    ∀ c ∈ (constraintText constraint ++ modifier.sign).head?, Unicode.isWord c = false := by
  have hsigns : Unicode.isWord '(' = false ∧ Unicode.isWord '?' = false ∧
      Unicode.isWord '+' = false ∧ Unicode.isWord '*' = false := by decide
  cases constraint with
  | some body => simp [constraintText, hsigns]
  | none => cases modifier <;> simp [constraintText, Modifier.sign, hsigns]

/-- A name ends where no word character follows. -/
theorem span_isWord {name rest : List Char} (hname : ∀ c ∈ name, Unicode.isWord c = true)
    (hrest : ∀ c ∈ rest.head?, Unicode.isWord c = false) :
    (name ++ rest).span Unicode.isWord = (name, rest) := by
  rw [List.span_eq_takeWhile_dropWhile, List.takeWhile_append_of_pos hname,
    List.dropWhile_append_of_pos hname]
  cases rest with
  | nil => simp
  | cons c rest =>
    have hc := hrest c rfl
    simp [hc]

theorem named?_eq_some_iff {text : List Char} {segment : Segment} :
    named? text = some segment ↔ ∃ name constraint modifier,
      segment = .capture [] (some name) constraint modifier ∧
        Writes text [] (some name) constraint modifier := by
  constructor
  · intro h
    unfold named? at h
    split at h
    · rename_i text
      rw [List.span_eq_takeWhile_dropWhile] at h
      have hsplit : text.takeWhile Unicode.isWord ++ text.dropWhile Unicode.isWord = text :=
        List.takeWhile_append_dropWhile
      split at h
      · cases h
      · rename_i name rest hname hspan
        obtain ⟨rfl, hrest⟩ := Prod.mk.inj hspan
        obtain ⟨⟨body, modifier⟩, hbody, rfl⟩ := Option.map_eq_some_iff.mp h
        obtain ⟨hadmissible, rfl⟩ := constraint?_eq_some_iff.mp hbody
        refine ⟨_, some body, modifier, rfl, ?_, by simp, ?_, ?_, by simp⟩
        · simp [captureWriting, nameText, constraintText, ← hrest, hsplit]
        · rintro word hword
          obtain rfl := Option.some.inj hword
          exact ⟨hname, fun c mem => List.mem_takeWhile_imp mem⟩
        · rintro other hother
          obtain rfl := Option.some.inj hother
          exact hadmissible
      · rename_i name rest hname hparen hspan
        obtain ⟨rfl, rfl⟩ := Prod.mk.inj hspan
        obtain ⟨modifier, hmodifier, rfl⟩ := Option.map_eq_some_iff.mp h
        have hrest := ofText?_eq_some_iff.mp hmodifier
        refine ⟨_, none, modifier, rfl, ?_, by simp, ?_, by simp, by simp⟩
        · simp [captureWriting, nameText, constraintText, ← hrest, hsplit]
        · rintro word hword
          obtain rfl := Option.some.inj hword
          exact ⟨hname, fun c mem => List.mem_takeWhile_imp mem⟩
    · cases h
  · rintro ⟨name, constraint, modifier, rfl, writes⟩
    obtain ⟨hname, hword⟩ := writes.isName name rfl
    have hspan := span_isWord hword (isWord_head_constraintText constraint modifier)
    rw [writes.text_eq, captureWriting, nameText, List.nil_append, List.cons_append, named?, hspan]
    cases name with
    | nil => exact absurd rfl hname
    | cons c name =>
      cases constraint with
      | some body =>
        have hbody : constraint? (body ++ ')' :: modifier.sign) = some (body, modifier) :=
          constraint?_eq_some_iff.mpr ⟨writes.admissible body rfl, rfl⟩
        simp [constraintText, hbody]
      | none =>
        have hsign : Modifier.ofText? modifier.sign = some modifier := ofText?_eq_some_iff.mpr rfl
        cases modifier <;> simpa [constraintText, Modifier.sign] using hsign

theorem unnamed?_eq_some_iff {text : List Char} {segment : Segment} :
    unnamed? text = some segment ↔ ∃ constraint modifier,
      segment = .capture [] none constraint modifier ∧
        Writes text [] none constraint modifier := by
  constructor
  · intro h
    unfold unnamed? at h
    split at h
    · obtain ⟨⟨body, modifier⟩, hbody, rfl⟩ := Option.map_eq_some_iff.mp h
      obtain ⟨hadmissible, rfl⟩ := constraint?_eq_some_iff.mp hbody
      refine ⟨some body, modifier, rfl, ?_, by simp, by simp, ?_, by simp⟩
      · simp [captureWriting, nameText, constraintText]
      · rintro other hother
        obtain rfl := Option.some.inj hother
        exact hadmissible
    · cases h
  · rintro ⟨constraint, modifier, rfl, writes⟩
    cases constraint with
    | none => exact absurd rfl (writes.marked rfl)
    | some body =>
      have hbody : constraint? (body ++ ')' :: modifier.sign) = some (body, modifier) :=
        constraint?_eq_some_iff.mpr ⟨writes.admissible body rfl, rfl⟩
      simp [writes.text_eq, captureWriting, nameText, constraintText, unnamed?, hbody]

/-! ## Stems -/

section

variable {read : List Char → Option Segment} {text : List Char}

/-- What can be read behind some stem is read, if not behind that one then behind a longer one. -/
theorem isSome_afterStem {stem rest : List Char} (hstem : '\n' ∉ stem)
    (h : (read rest).isSome = true) : (afterStem read (stem ++ rest)).isSome = true := by
  have hrest : (afterStem read rest).isSome = true := by
    cases rest <;> simp [afterStem, h]
  obtain ⟨segment, hsegment⟩ := Option.isSome_iff_exists.mp hrest
  rw [afterStem_append hstem hsegment]
  rfl

/-- A stem behind which something can be read, such that nothing can be read behind a longer one. -/
structure LongestStem (read : List Char → Option Segment) (text stem rest : List Char) : Prop where
  text_eq : text = stem ++ rest
  line : '\n' ∉ stem
  isSome : (read rest).isSome = true
  longest : ∀ other behind, text = other ++ behind → '\n' ∉ other → (read behind).isSome = true →
    other.length ≤ stem.length

/-- There is one longest stem only. -/
theorem LongestStem.unique {stem rest other behind : List Char}
    (h : LongestStem read text stem rest) (h' : LongestStem read text other behind) :
    stem = other ∧ rest = behind := by
  have hlength : stem.length = other.length :=
    Nat.le_antisymm (h'.longest stem rest h.text_eq h.line h.isSome)
      (h.longest other behind h'.text_eq h'.line h'.isSome)
  exact List.append_inj (h.text_eq.symm.trans h'.text_eq) hlength

/-- What is read behind a stem is read behind the longest one. -/
theorem exists_longestStem {segment : Segment} (h : afterStem read text = some segment) :
    ∃ stem rest inner, LongestStem read text stem rest ∧ read rest = some inner ∧
      segment = stem.foldr withStem inner := by
  induction text generalizing segment with
  | nil =>
    refine ⟨[], [], segment, ⟨rfl, by simp, Option.isSome_of_eq_some h, ?_⟩, h, rfl⟩
    intro other behind heq _ _
    rw [(List.append_eq_nil_iff.mp heq.symm).1]
  | cons c text ih =>
    rw [afterStem, Option.or_eq_some_iff] at h
    rcases h with h | ⟨hnone, h⟩
    · split at h
      · cases h
      · rename_i hc
        obtain ⟨behind, hbehind, rfl⟩ := Option.map_eq_some_iff.mp h
        obtain ⟨stem, rest, inner, hstem, hinner, rfl⟩ := ih hbehind
        refine ⟨c :: stem, rest, inner, ⟨?_, ?_, hstem.isSome, ?_⟩, hinner, rfl⟩
        · rw [hstem.text_eq, List.cons_append]
        · simp [hstem.line, Ne.symm hc]
        · intro other behind heq hother hread
          cases other with
          | nil => exact Nat.zero_le _
          | cons d other =>
            have hother' : '\n' ∉ other := fun mem => hother (List.mem_cons_of_mem d mem)
            have := hstem.longest other behind (List.cons.inj heq).2 hother' hread
            exact Nat.succ_le_succ this
    · refine ⟨[], c :: text, segment, ⟨rfl, by simp, Option.isSome_of_eq_some h, ?_⟩, h, rfl⟩
      -- behind a longer stem the rest of the text would have been read
      intro other behind heq hother hread
      cases other with
      | nil => exact Nat.le_refl _
      | cons d other =>
        obtain ⟨rfl, rfl⟩ := List.cons.inj heq
        obtain ⟨hc, hother⟩ := not_or.mp (mt List.mem_cons.mpr hother)
        obtain ⟨inner, hinner⟩ := Option.isSome_iff_exists.mp (isSome_afterStem hother hread)
        simp only [List.append_eq, if_neg (Ne.symm hc), hinner] at hnone
        cases hnone

theorem afterStem_eq_some_iff {segment : Segment} : afterStem read text = some segment ↔
    ∃ stem rest inner, LongestStem read text stem rest ∧ read rest = some inner ∧
      segment = stem.foldr withStem inner := by
  refine ⟨exists_longestStem, ?_⟩
  rintro ⟨stem, rest, inner, hstem, hinner, rfl⟩
  have hsome : (afterStem read text).isSome = true := by
    rw [hstem.text_eq]
    exact isSome_afterStem hstem.line hstem.isSome
  obtain ⟨segment, hsegment⟩ := Option.isSome_iff_exists.mp hsome
  obtain ⟨other, behind, found, hother, hfound, rfl⟩ := exists_longestStem hsegment
  obtain ⟨rfl, rfl⟩ := hstem.unique hother
  obtain rfl := Option.some.inj (hinner.symm.trans hfound)
  exact hsegment

end

end Segment

/-! ## Writings -/

section

variable {text stem : List Char} {name constraint : Option (List Char)} {modifier : Modifier}

/-- To write a text is to write what stands behind the stem. -/
theorem writes_iff : Writes text stem name constraint modifier ↔
    ∃ rest, text = stem ++ rest ∧ '\n' ∉ stem ∧ Writes rest [] name constraint modifier := by
  constructor
  · intro h
    exact ⟨_, h.text_eq, h.stem_line, rfl, by simp, h.isName, h.admissible, h.marked⟩
  · rintro ⟨rest, rfl, hstem, h⟩
    refine ⟨?_, hstem, h.isName, h.admissible, h.marked⟩
    rw [h.text_eq, captureWriting, captureWriting, List.nil_append]

/-- The writing of a text that counts among those with a name, or among those without one: its stem
is the longest. -/
structure LongestWriting (text stem : List Char) (name constraint : Option (List Char))
    (modifier : Modifier) : Prop extends Writes text stem name constraint modifier where
  longest : ∀ other name' constraint' modifier', Writes text other name' constraint' modifier' →
    name'.isSome = name.isSome → other.length ≤ stem.length

/-- The text can be written as a capture, with a name or without. -/
def CanBeCapture (hasName : Bool) (text : List Char) : Prop :=
  ∃ stem name constraint modifier, name.isSome = hasName ∧
    Writes text stem name constraint modifier

theorem canBeCapture_iff {hasName : Bool} {text : List Char} : CanBeCapture hasName text ↔
    ∃ stem rest, text = stem ++ rest ∧ '\n' ∉ stem ∧ ∃ name constraint modifier,
      name.isSome = hasName ∧ Writes rest [] name constraint modifier := by
  constructor
  · rintro ⟨stem, name, constraint, modifier, hname, writes⟩
    obtain ⟨rest, htext, hline, hrest⟩ := writes_iff.mp writes
    exact ⟨stem, rest, htext, hline, name, constraint, modifier, hname, hrest⟩
  · rintro ⟨stem, rest, htext, hline, name, constraint, modifier, hname, writes⟩
    exact ⟨stem, name, constraint, modifier, hname, writes_iff.mpr ⟨rest, htext, hline, writes⟩⟩

end

namespace Segment

/-- What is read are the captures without a stem that have a name, or those that have none. -/
def ReadsCaptures (hasName : Bool) (read : List Char → Option Segment) : Prop :=
  ∀ text segment, read text = some segment ↔ ∃ name constraint modifier,
    segment = .capture [] name constraint modifier ∧ name.isSome = hasName ∧
      Writes text [] name constraint modifier

theorem readsCaptures_named? : ReadsCaptures true named? := by
  intro text segment
  rw [named?_eq_some_iff]
  constructor
  · rintro ⟨name, constraint, modifier, h⟩
    exact ⟨some name, constraint, modifier, h.1, rfl, h.2⟩
  · rintro ⟨name, constraint, modifier, h, hname, writes⟩
    obtain ⟨name, rfl⟩ := Option.isSome_iff_exists.mp hname
    exact ⟨name, constraint, modifier, h, writes⟩

theorem readsCaptures_unnamed? : ReadsCaptures false unnamed? := by
  intro text segment
  rw [unnamed?_eq_some_iff]
  constructor
  · rintro ⟨constraint, modifier, h⟩
    exact ⟨none, constraint, modifier, h.1, rfl, h.2⟩
  · rintro ⟨name, constraint, modifier, h, hname, writes⟩
    obtain rfl := Option.isNone_iff_eq_none.mp (Option.isSome_eq_false_iff.mp hname)
    exact ⟨constraint, modifier, h, writes⟩

section

variable {read : List Char → Option Segment} {hasName : Bool} {text : List Char}

theorem ReadsCaptures.isSome_iff (h : ReadsCaptures hasName read) :
    (read text).isSome = true ↔ ∃ name constraint modifier, name.isSome = hasName ∧
      Writes text [] name constraint modifier := by
  rw [Option.isSome_iff_exists]
  constructor
  · rintro ⟨segment, hread⟩
    obtain ⟨name, constraint, modifier, -, hwrites⟩ := (h text segment).mp hread
    exact ⟨name, constraint, modifier, hwrites⟩
  · rintro ⟨name, constraint, modifier, hwrites⟩
    exact ⟨_, (h text _).mpr ⟨name, constraint, modifier, rfl, hwrites⟩⟩

/-- The longest writing is what is read behind the longest stem. -/
theorem ReadsCaptures.afterStem_eq_some_iff (h : ReadsCaptures hasName read) {segment : Segment} :
    afterStem read text = some segment ↔ ∃ stem name constraint modifier,
      segment = .capture stem name constraint modifier ∧ name.isSome = hasName ∧
        LongestWriting text stem name constraint modifier := by
  rw [Segment.afterStem_eq_some_iff]
  constructor
  · rintro ⟨stem, rest, inner, hstem, hinner, rfl⟩
    obtain ⟨name, constraint, modifier, rfl, hname, writes⟩ := (h rest inner).mp hinner
    have hwrites := writes_iff.mpr ⟨rest, hstem.text_eq, hstem.line, writes⟩
    refine ⟨stem, name, constraint, modifier, foldr_withStem .., hname, hwrites, ?_⟩
    intro other name' constraint' modifier' hother hname'
    obtain ⟨behind, htext, hline, hbehind⟩ := writes_iff.mp hother
    have hread := h.isSome_iff.mpr ⟨name', constraint', modifier', hname'.trans hname, hbehind⟩
    exact hstem.longest other behind htext hline hread
  · rintro ⟨stem, name, constraint, modifier, rfl, hname, writes⟩
    obtain ⟨rest, htext, hline, hrest⟩ := writes_iff.mp writes.toWrites
    have hinner := (h rest _).mpr ⟨name, constraint, modifier, rfl, hname, hrest⟩
    refine ⟨stem, rest, _, ⟨htext, hline, Option.isSome_of_eq_some hinner, ?_⟩, hinner,
      (foldr_withStem ..).symm⟩
    intro other behind heq hother hread
    obtain ⟨name', constraint', modifier', hname', hbehind⟩ := h.isSome_iff.mp hread
    exact writes.longest other name' constraint' modifier'
      (writes_iff.mpr ⟨behind, heq, hother, hbehind⟩) (hname'.trans hname.symm)

/-- Nothing is read of what cannot be written as such a capture. -/
theorem ReadsCaptures.afterStem_eq_none_iff (h : ReadsCaptures hasName read) :
    afterStem read text = none ↔ ¬ CanBeCapture hasName text := by
  constructor
  · intro hnone hcan
    obtain ⟨stem, rest, rfl, hline, hrest⟩ := canBeCapture_iff.mp hcan
    have hsome := isSome_afterStem hline (h.isSome_iff.mpr hrest)
    rw [hnone] at hsome
    cases hsome
  · intro hcannot
    refine Option.eq_none_iff_forall_ne_some.mpr fun segment hsome => hcannot ?_
    obtain ⟨stem, name, constraint, modifier, -, hname, writes⟩ := h.afterStem_eq_some_iff.mp hsome
    exact ⟨stem, name, constraint, modifier, hname, writes.toWrites⟩

end

/-! ## Meanings -/

/-- A longest writing is the only one with a name, or the only one without. -/
theorem afterStem_of_longestWriting {text stem : List Char}
    {name constraint : Option (List Char)} {modifier : Modifier}
    (h : LongestWriting text stem name constraint modifier) :
    afterStem (if name.isSome then named? else unnamed?) text =
      some (.capture stem name constraint modifier) := by
  split
  · rename_i hname
    exact readsCaptures_named?.afterStem_eq_some_iff.mpr ⟨_, _, _, _, rfl, hname, h⟩
  · rename_i hname
    exact readsCaptures_unnamed?.afterStem_eq_some_iff.mpr
      ⟨_, _, _, _, rfl, Bool.eq_false_iff.mpr hname, h⟩

theorem canBeCapture_of_longestWriting {text stem : List Char}
    {name constraint : Option (List Char)} {modifier : Modifier}
    (h : LongestWriting text stem name constraint modifier) : CanBeCapture name.isSome text :=
  ⟨stem, name, constraint, modifier, rfl, h.toWrites⟩

/-- What a text means, by how it can be written. -/
inductive Means (text : List Char) : Segment → Prop
  | wildcard (text_eq : text = ['*']) : Means text .wildcard
  | named {stem name : List Char} {constraint : Option (List Char)} {modifier : Modifier}
      (writes : LongestWriting text stem (some name) constraint modifier) :
      Means text (.capture stem (some name) constraint modifier)
  | unnamed {stem : List Char} {constraint : Option (List Char)} {modifier : Modifier}
      (nameless : ¬ CanBeCapture true text)
      (writes : LongestWriting text stem none constraint modifier) :
      Means text (.capture stem none constraint modifier)
  | literal (no_wildcard : text ≠ ['*']) (nameless : ¬ CanBeCapture true text)
      (unconstrained : ¬ CanBeCapture false text) : Means text (.literal text)

theorem means_classify (text : List Char) : Means text (classify text) := by
  unfold classify
  split
  · rename_i htext
    exact .wildcard htext
  · rename_i htext
    cases hnamed : afterStem named? text with
    | some segment =>
      obtain ⟨stem, name, constraint, modifier, rfl, hname, writes⟩ :=
        readsCaptures_named?.afterStem_eq_some_iff.mp hnamed
      obtain ⟨name, rfl⟩ := Option.isSome_iff_exists.mp hname
      exact .named writes
    | none =>
      have nameless := readsCaptures_named?.afterStem_eq_none_iff.mp hnamed
      cases hunnamed : afterStem unnamed? text with
      | some segment =>
        obtain ⟨stem, name, constraint, modifier, rfl, hname, writes⟩ :=
          readsCaptures_unnamed?.afterStem_eq_some_iff.mp hunnamed
        obtain rfl := Option.isNone_iff_eq_none.mp (Option.isSome_eq_false_iff.mp hname)
        exact .unnamed nameless writes
      | none =>
        exact .literal htext nameless (readsCaptures_unnamed?.afterStem_eq_none_iff.mp hunnamed)

/-- A lone star is no capture. -/
theorem not_canBeCapture_star (hasName : Bool) : ¬ CanBeCapture hasName ['*'] := by
  cases hasName
  · exact readsCaptures_unnamed?.afterStem_eq_none_iff.mp rfl
  · exact readsCaptures_named?.afterStem_eq_none_iff.mp rfl

/-- Of two longest writings with names, or two without, there is only one. -/
theorem capture_eq_of_longestWriting {text stem stem' : List Char}
    {name constraint name' constraint' : Option (List Char)} {modifier modifier' : Modifier}
    (h : LongestWriting text stem name constraint modifier)
    (h' : LongestWriting text stem' name' constraint' modifier')
    (hname : name.isSome = name'.isSome) :
    capture stem name constraint modifier = capture stem' name' constraint' modifier' := by
  have hread := afterStem_of_longestWriting h
  rw [hname, afterStem_of_longestWriting h'] at hread
  exact (Option.some.inj hread).symm

theorem Means.unique {text : List Char} {segment other : Segment} (h : Means text segment)
    (h' : Means text other) : segment = other := by
  have star {hasName : Bool} (hcan : CanBeCapture hasName text) : text ≠ ['*'] := by
    rintro rfl
    exact not_canBeCapture_star hasName hcan
  cases h with
  | wildcard htext =>
    cases h' with
    | wildcard => rfl
    | named writes => exact absurd htext (star (canBeCapture_of_longestWriting writes))
    | unnamed _ writes => exact absurd htext (star (canBeCapture_of_longestWriting writes))
    | literal hne => exact absurd htext hne
  | named writes =>
    have hcan := canBeCapture_of_longestWriting writes
    cases h' with
    | wildcard htext => exact absurd htext (star hcan)
    | named writes' => exact capture_eq_of_longestWriting writes writes' rfl
    | unnamed nameless | literal _ nameless => exact absurd hcan nameless
  | unnamed nameless writes =>
    have hcan := canBeCapture_of_longestWriting writes
    cases h' with
    | wildcard htext => exact absurd htext (star hcan)
    | named writes' => exact absurd (canBeCapture_of_longestWriting writes') nameless
    | unnamed _ writes' => exact capture_eq_of_longestWriting writes writes' rfl
    | literal _ _ unconstrained => exact absurd hcan unconstrained
  | literal hne nameless unconstrained =>
    cases h' with
    | wildcard htext => exact absurd htext hne
    | named writes => exact absurd (canBeCapture_of_longestWriting writes) nameless
    | unnamed _ writes => exact absurd (canBeCapture_of_longestWriting writes) unconstrained
    | literal => rfl

theorem Means.text_eq {text : List Char} {segment : Segment} (h : Means text segment) :
    segment.text = text := by
  cases h with
  | wildcard htext => exact htext.symm
  | named writes | unnamed _ writes => exact writes.text_eq.symm
  | literal => rfl

theorem classify_eq_iff {text : List Char} {segment : Segment} :
    classify text = segment ↔ Means text segment := by
  have means := means_classify text
  exact ⟨fun h => h ▸ means, means.unique⟩

/-- The meaning of a text is a capture with a name exactly if the text can be written as one. -/
theorem exists_named_iff {text : List Char} :
    (∃ stem name constraint modifier,
      classify text = .capture stem (some name) constraint modifier) ↔ CanBeCapture true text := by
  have means := means_classify text
  constructor
  · rintro ⟨stem, name, constraint, modifier, h⟩
    cases classify_eq_iff.mp h with
    | named writes => exact canBeCapture_of_longestWriting writes
  · intro hcan
    generalize classify text = segment at means ⊢
    cases means with
    | wildcard htext => exact absurd (htext ▸ hcan) (not_canBeCapture_star true)
    | named => exact ⟨_, _, _, _, rfl⟩
    | unnamed nameless | literal _ nameless => exact absurd hcan nameless

/-- It is one without a name exactly if the text can only be written as one of those. -/
theorem exists_unnamed_iff {text : List Char} :
    (∃ stem constraint modifier, classify text = .capture stem none constraint modifier) ↔
      ¬ CanBeCapture true text ∧ CanBeCapture false text := by
  have means := means_classify text
  constructor
  · rintro ⟨stem, constraint, modifier, h⟩
    cases classify_eq_iff.mp h with
    | unnamed nameless writes => exact ⟨nameless, canBeCapture_of_longestWriting writes⟩
  · rintro ⟨nameless, hcan⟩
    generalize classify text = segment at means ⊢
    cases means with
    | wildcard htext => exact absurd (htext ▸ hcan) (not_canBeCapture_star false)
    | named writes => exact absurd (canBeCapture_of_longestWriting writes) nameless
    | unnamed => exact ⟨_, _, _, rfl⟩
    | literal _ _ unconstrained => exact absurd hcan unconstrained

/-- The pieces of what is read, put together, are the text. -/
theorem text_classify (text : List Char) : (classify text).text = text :=
  (means_classify text).text_eq

end Segment

end RouteChain
