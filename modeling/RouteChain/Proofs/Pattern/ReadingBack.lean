import RouteChain.Proofs.Pattern.Grammar

/-!
# Reading back what was written

A capture that is written down with its constraint is read back as it was written, if it has a name:
no colon in the constraint can be taken for the one before the name, since a name and a parenthesis
would have to follow it and every parenthesis in a constraint stands behind a backslash.

Without a name this fails. An escaped parenthesis in the constraint is taken for the one that opens
it, as long as anything stands behind it in the constraint, and all that stands before it becomes
part of the stem.

The main result is `Segment.classify_captureWriting`.
-/

namespace RouteChain

/-! ## Stems -/

section

variable {stem rest : List Char} {name constraint : Option (List Char)} {modifier : Modifier}

/-- A writing counts if what stands behind its first character behind the stem cannot be written so
too. -/
theorem longestWriting_iff {c : Char} (hc : c ≠ '\n')
    (writes : Writes (stem ++ c :: rest) stem name constraint modifier) :
    LongestWriting (stem ++ c :: rest) stem name constraint modifier ↔
      ¬ CanBeCapture name.isSome rest := by
  constructor
  · rintro h ⟨other, name', constraint', modifier', hname, hother⟩
    obtain ⟨behind, rfl, hline, hbehind⟩ := writes_iff.mp hother
    have hlonger := h.longest (stem ++ c :: other) name' constraint' modifier'
      (writes_iff.mpr ⟨behind, by simp, ?_, hbehind⟩) hname
    · rw [List.length_append, List.length_cons] at hlonger
      omega
    · have := writes.stem_line
      grind
  · intro hcannot
    refine ⟨writes, fun other name' constraint' modifier' hother hname => ?_⟩
    obtain ⟨behind, htext, hline, hbehind⟩ := writes_iff.mp hother
    by_contra hlonger
    rcases List.append_eq_append_iff.mp htext with ⟨more, rfl, hmore⟩ | ⟨more, rfl, -⟩
    · cases more with
      | nil => simp at hlonger
      | cons d more =>
        obtain ⟨rfl, rfl⟩ := List.cons.inj hmore
        refine hcannot ⟨more, name', constraint', modifier', hname, ?_⟩
        exact writes_iff.mpr ⟨behind, rfl, by grind, hbehind⟩
    · simp at hlonger

/-- No name begins within a text without colons. -/
theorem canBeCapture_of_append {text : List Char} (hcolon : ':' ∉ text)
    (h : CanBeCapture true (text ++ rest)) : CanBeCapture true rest := by
  obtain ⟨stem, behind, htext, hline, name, constraint, modifier, hname, writes⟩ :=
    canBeCapture_iff.mp h
  obtain ⟨name, rfl⟩ := Option.isSome_iff_exists.mp hname
  rcases List.append_eq_append_iff.mp htext with ⟨more, rfl, hmore⟩ | ⟨more, rfl, hmore⟩
  · refine ⟨more, some name, constraint, modifier, rfl, ?_⟩
    exact writes_iff.mpr ⟨behind, hmore, by grind, writes⟩
  · have hhead : behind = ':' :: (name ++ (constraintText constraint ++ modifier.sign)) :=
      writes.text_eq
    cases more with
    | nil =>
      obtain rfl : behind = rest := hmore
      exact ⟨[], some name, constraint, modifier, rfl, writes⟩
    | cons c more =>
      obtain ⟨rfl, -⟩ := List.cons.inj (hmore.symm.trans hhead)
      simp at hcolon

end

/-! ## Constraints -/

/-- What stands at the end of a constraint is one itself, unless it begins with a parenthesis. -/
theorem Admissible.of_append {before behind : List Char} (h : Admissible (before ++ behind))
    (hne : behind ≠ []) (hhead : ∀ c ∈ behind.head?, c ≠ '(' ∧ c ≠ ')') : Admissible behind := by
  refine ⟨hne, fun front c back heq hparen => ?_⟩
  cases front with
  | nil =>
    have := hhead c (by simp [heq])
    grind
  | cons d front =>
    have hsuffix := h.2 (before ++ d :: front) c back (by simp [heq]) hparen
    rw [List.singleton_suffix_iff_getLast?_eq_some] at hsuffix ⊢
    simpa using hsuffix

theorem Modifier.mem_sign {modifier : Modifier} {c : Char} (h : c ∈ modifier.sign) :
    c = '?' ∨ c = '+' ∨ c = '*' := by
  cases modifier <;> simp_all [Modifier.sign]

section

variable {body front behind : List Char} {modifier : Modifier}

/-- An opening parenthesis before the end of a constraint stands within it. -/
theorem exists_body_of_paren (heq : body ++ ')' :: modifier.sign = front ++ '(' :: behind) :
    ∃ inner, body = front ++ '(' :: inner ∧ behind = inner ++ ')' :: modifier.sign := by
  rcases List.append_eq_append_iff.mp heq with ⟨more, rfl, hmore⟩ | ⟨more, rfl, hmore⟩
  · have hmem : '(' ∈ ')' :: modifier.sign := by simp [hmore]
    have := @Modifier.mem_sign modifier '('
    grind
  · cases more with
    | nil => cases hmore
    | cons c more =>
      obtain ⟨rfl, rfl⟩ := List.cons.inj hmore
      exact ⟨more, rfl, rfl⟩

/-- No name is followed by a constraint, or by the end of the text, within a constraint. -/
theorem not_canBeCapture_constraint (hbody : Admissible body) (modifier : Modifier) :
    ¬ CanBeCapture true ('(' :: (body ++ ')' :: modifier.sign)) := by
  rintro ⟨stem, name, constraint, modifier', hname, writes⟩
  obtain ⟨name, rfl⟩ := Option.isSome_iff_exists.mp hname
  obtain ⟨hne, hword⟩ := writes.isName name rfl
  have htext := writes.text_eq
  -- the colon stands behind the opening parenthesis
  obtain ⟨stem, rfl⟩ : ∃ inner, stem = '(' :: inner := by
    cases stem with
    | nil => simp [captureWriting, nameText] at htext
    | cons c stem => exact ⟨stem, by simpa [captureWriting] using (List.cons.inj htext).1.symm⟩
  cases constraint with
  | some inner =>
    have heq : body ++ ')' :: modifier.sign =
        (stem ++ ':' :: name) ++ '(' :: (inner ++ ')' :: modifier'.sign) := by
      simpa [captureWriting, nameText, constraintText] using htext
    obtain ⟨rest, hrest, -⟩ := exists_body_of_paren heq
    have hback := hbody.2 _ '(' rest hrest (.inl rfl)
    rw [List.singleton_suffix_iff_getLast?_eq_some, List.append_cons,
      List.getLast?_append_of_ne_nil _ hne] at hback
    exact absurd (hword _ (List.mem_of_getLast? hback)) (by decide)
  | none =>
    have heq : body ++ ')' :: modifier.sign = stem ++ ':' :: (name ++ modifier'.sign) := by
      simpa [captureWriting, nameText, constraintText] using htext
    have hclose : ')' ∉ name ++ modifier'.sign := by
      intro mem
      rcases List.mem_append.mp mem with mem | mem
      · exact absurd (hword _ mem) (by decide)
      · exact absurd (Modifier.mem_sign mem) (by decide)
    have hcolon : ':' ∉ modifier.sign := fun mem => absurd (Modifier.mem_sign mem) (by decide)
    rcases List.append_eq_append_iff.mp heq with ⟨more, rfl, hmore⟩ | ⟨more, rfl, hmore⟩
    · cases more <;> grind
    · cases more <;> grind

end

/-! ## Captures -/

theorem captureWriting_unnamed (stem body : List Char) (modifier : Modifier) :
    captureWriting stem none (some body) modifier =
      stem ++ '(' :: (body ++ ')' :: modifier.sign) := by
  simp [captureWriting, nameText, constraintText]

namespace Segment

section

variable {stem body : List Char}

/-- A name with a constraint behind it is read as it is written. -/
theorem classify_captureWriting_named {name : List Char} (hstem : '\n' ∉ stem)
    (hname : IsName name) (hbody : Admissible body) (modifier : Modifier) :
    classify (captureWriting stem (some name) (some body) modifier) =
      .capture stem (some name) (some body) modifier := by
  have writes : Writes (captureWriting stem (some name) (some body) modifier) stem (some name)
      (some body) modifier :=
    ⟨rfl, hstem, by simpa using hname, by simpa using hbody, by simp⟩
  refine classify_eq_iff.mpr (.named ((longestWriting_iff (by decide) writes).mpr fun hcan => ?_))
  have hcolon : ':' ∉ name := fun mem => absurd (hname.2 _ mem) (by decide)
  rw [constraintText, List.cons_append, List.append_assoc] at hcan
  exact not_canBeCapture_constraint hbody modifier (canBeCapture_of_append hcolon hcan)

/-- Behind the parenthesis that opens a constraint a capture without a name can be read if another
one follows in the same line, with something behind it. -/
theorem canBeCapture_constraint_iff (hbody : Admissible body) (modifier : Modifier) :
    CanBeCapture false (body ++ ')' :: modifier.sign) ↔
      ∃ before behind, body = before ++ '(' :: behind ∧ behind ≠ [] ∧ '\n' ∉ before := by
  constructor
  · rintro ⟨before, name, constraint, modifier', hname, writes⟩
    obtain rfl : name = none := by simpa using hname
    obtain ⟨inner, rfl⟩ := Option.ne_none_iff_exists'.mp (writes.marked rfl)
    have htext := writes.text_eq
    rw [captureWriting_unnamed] at htext
    obtain ⟨rest, hrest, hinner⟩ := exists_body_of_paren htext
    refine ⟨before, rest, hrest, ?_, writes.stem_line⟩
    rintro rfl
    obtain ⟨hne, hescaped⟩ := writes.admissible inner rfl
    cases inner with
    | nil => exact hne rfl
    | cons c inner =>
      obtain ⟨rfl, -⟩ := List.cons.inj hinner
      simpa using hescaped [] ')' inner rfl (.inr rfl)
  · rintro ⟨before, behind, rfl, hne, hline⟩
    have hbehind : Admissible behind := by
      rw [List.append_cons] at hbody
      refine hbody.of_append hne fun c hc => ?_
      obtain ⟨rest, rfl⟩ := List.head?_eq_some_iff.mp hc
      have hescaped := hbody.2 (before ++ ['(']) c rest rfl
      simp only [List.singleton_suffix_append_singleton_iff] at hescaped
      grind
    refine ⟨before, none, some behind, modifier, rfl, ?_, hline, by simp, by simpa, by simp⟩
    simp [captureWriting_unnamed]

/-- A constraint without a name before it is read as it is written if no parenthesis in it has
something behind it. -/
theorem classify_captureWriting_unnamed_iff (hstem : '\n' ∉ stem) (hcolon : ':' ∉ stem)
    (hbody : Admissible body) (modifier : Modifier) :
    classify (captureWriting stem none (some body) modifier) =
        .capture stem none (some body) modifier ↔
      ∀ before behind, body = before ++ '(' :: behind → behind = [] ∨ '\n' ∈ before := by
  have writes : Writes (captureWriting stem none (some body) modifier) stem none (some body)
      modifier :=
    ⟨rfl, hstem, by simp, by simpa using hbody, by simp⟩
  rw [captureWriting_unnamed] at writes ⊢
  have nameless : ¬ CanBeCapture true (stem ++ '(' :: (body ++ ')' :: modifier.sign)) :=
    fun hcan => not_canBeCapture_constraint hbody modifier (canBeCapture_of_append hcolon hcan)
  have hlongest := longestWriting_iff (by decide) writes
  rw [Option.isSome_none, canBeCapture_constraint_iff hbody modifier] at hlongest
  rw [classify_eq_iff]
  constructor
  · intro h
    cases h with
    | unnamed _ writes =>
      have := hlongest.mp writes
      grind
  · intro h
    refine .unnamed nameless (hlongest.mpr ?_)
    grind

/-- A capture with a constraint is read back as it was written if it has a name. Without a name it
is exactly if every opening parenthesis in its constraint has nothing behind it or a line feed
before it. -/
theorem classify_captureWriting (hline : '\n' ∉ stem) (hcolon : ':' ∉ stem)
    (hbody : Admissible body) (modifier : Modifier) :
    (∀ name, IsName name → classify (captureWriting stem (some name) (some body) modifier) =
      .capture stem (some name) (some body) modifier) ∧
    (classify (captureWriting stem none (some body) modifier) =
        .capture stem none (some body) modifier ↔
      ∀ before behind, body = before ++ '(' :: behind → behind = [] ∨ '\n' ∈ before) :=
  ⟨fun _ hname => classify_captureWriting_named hline hname hbody modifier,
    classify_captureWriting_unnamed_iff hline hcolon hbody modifier⟩

end

theorem classify_captureWriting_escaped :
    '\n' ∉ ['v'] ∧ ':' ∉ ['v'] ∧ Admissible ['\\', '(', 'x'] ∧ IsName ['i', 'd'] ∧
    classify (captureWriting ['v'] (some ['i', 'd']) (some ['\\', '(', 'x']) .optional) =
      .capture ['v'] (some ['i', 'd']) (some ['\\', '(', 'x']) .optional ∧
    classify (captureWriting ['v'] none (some ['\\', '(', 'x']) .optional) ≠
      .capture ['v'] none (some ['\\', '(', 'x']) .optional := by
  have hbody : Admissible ['\\', '(', 'x'] := isConstraint_iff.mp (by decide)
  have hname : IsName ['i', 'd'] := ⟨by decide, List.all_eq_true.mp (by decide)⟩
  have hline : '\n' ∉ ['v'] := by decide
  have hread := classify_captureWriting hline (by decide) hbody .optional
  refine ⟨hline, by decide, hbody, hname, hread.1 _ hname, fun h => ?_⟩
  have := hread.2.mp h ['\\'] ['x'] rfl
  revert this
  decide

/-- Without a name the escaped parenthesis is taken for the one that opens the constraint. -/
theorem classify_escaped_paren :
    Admissible ['\\', '(', 'x'] ∧
    classify (captureWriting [] none (some ['\\', '(', 'x']) .one) =
      .capture ['(', '\\'] none (some ['x']) .one ∧
    classify (captureWriting [] none (some ['\\', '(', 'x']) .one) ≠
      .capture [] none (some ['\\', '(', 'x']) .one :=
  ⟨isConstraint_iff.mp (by decide), by decide, by decide⟩

end Segment

end RouteChain
