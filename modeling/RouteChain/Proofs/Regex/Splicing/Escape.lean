import Mathlib.Data.List.TakeDrop
import RouteChain.Regex.Token.Escape

/-!
# Reading an escape before a closing parenthesis

A reader takes what it reads from the front of a text, and does not look at a closing parenthesis
behind what it takes. There is one exception. In a verbose stretch the parenthesis may stand in a
comment that the text has left open, so there something has to be left behind what is read.

## Main definitions

* `Splices` — a reader takes what it reads from the front of a text, and reads the same if a closing
  parenthesis follows the text.
* `Unfinished` — where blanks do not count something is left behind what was read.

The main result is `splices_ofEscape`.
-/

namespace RouteChain.Regex

theorem bind_eq_ok {ε α β : Type} {x : Except ε α} {f : α → Except ε β} {b : β} :
    (x >>= f) = .ok b ↔ ∃ a, x = .ok a ∧ f a = .ok b := by
  cases x <;> simp [bind, Except.bind]

/-- A reader takes what it reads from the front of a text, and reads the same, if what it leaves
passes `known`, when a closing parenthesis follows the text. -/
structure Splices {α : Type} (read : List Char → Except Error (α × List Char))
    (known : α → List Char → Prop) : Prop where
  suffix : ∀ {text a rest}, read text = .ok (a, rest) → rest <:+ text
  splice : ∀ {text a rest}, read text = .ok (a, rest) → known a rest → ∀ more,
    read (text ++ ')' :: more) = .ok (a, rest ++ ')' :: more)

/-- Where blanks do not count, something is left. -/
def Unfinished (verbose : Bool) (rest : List Char) : Prop :=
  verbose = true → rest ≠ []

/-! ## Blanks -/

theorem dropBlank_suffix (inComment : Bool) (text : List Char) :
    dropBlank inComment text <:+ text := by
  induction text generalizing inComment with
  | nil => cases inComment <;> exact List.suffix_refl _
  | cons c text ih =>
    have hrest (inComment : Bool) : dropBlank inComment text <:+ c :: text :=
      (ih inComment).trans (List.suffix_cons c text)
    cases inComment with
    | true => exact hrest _
    | false =>
      simp only [dropBlank]
      split
      · exact hrest false
      · split
        · exact hrest true
        · exact List.suffix_refl _

theorem dropBlank_append {inComment : Bool} {text : List Char} (h : dropBlank inComment text ≠ [])
    (more : List Char) : dropBlank inComment (text ++ more) = dropBlank inComment text ++ more := by
  induction text generalizing inComment with
  | nil => cases inComment <;> exact absurd rfl h
  | cons c text ih =>
    cases inComment with
    | true => exact ih h
    | false =>
      simp only [dropBlank, List.cons_append] at h ⊢
      split
      · rename_i hspace
        rw [if_pos hspace] at h
        exact ih h
      · rename_i hspace
        rw [if_neg hspace] at h
        split
        · rename_i hsign
          rw [if_pos hsign] at h
          exact ih h
        · rfl

theorem skipBlank_suffix (verbose : Bool) (text : List Char) : skipBlank verbose text <:+ text := by
  cases verbose with
  | true => exact dropBlank_suffix false text
  | false => exact List.suffix_refl text

theorem skipBlank_append {verbose : Bool} {text : List Char}
    (h : Unfinished verbose (skipBlank verbose text)) (more : List Char) :
    skipBlank verbose (text ++ more) = skipBlank verbose text ++ more := by
  cases verbose with
  | true => exact dropBlank_append (h rfl) more
  | false => rfl

theorem unfinished_of_skipBlank {verbose : Bool} {text rest : List Char} {c : Char}
    (h : skipBlank verbose text = c :: rest) : Unfinished verbose text := by
  rintro - rfl
  cases verbose <;> cases h

/-- What stands behind blanks is left by them. -/
theorem skipBlank_append_of_eq {verbose : Bool} {text rest : List Char} {c : Char}
    (h : skipBlank verbose text = c :: rest) (more : List Char) :
    skipBlank verbose (text ++ more) = c :: (rest ++ more) := by
  rw [skipBlank_append (fun _ => h ▸ List.cons_ne_nil c rest), h, List.cons_append]

theorem collectFrom_suffix (verbose : Bool) (stop : Char → Bool) (inComment : Bool)
    (text : List Char) : (collectFrom verbose stop inComment text).2 <:+ text := by
  induction text generalizing inComment with
  | nil => cases inComment <;> exact List.suffix_refl _
  | cons c text ih =>
    have hrest (inComment : Bool) : (collectFrom verbose stop inComment text).2 <:+ c :: text :=
      (ih inComment).trans (List.suffix_cons c text)
    cases inComment with
    | true => exact hrest _
    | false =>
      simp only [collectFrom]
      split
      · exact hrest false
      · split
        · exact hrest true
        · split
          · exact List.suffix_refl _
          · exact hrest false

theorem collectFrom_append {verbose : Bool} {stop : Char → Bool} {inComment : Bool}
    {text taken rest : List Char} {c : Char}
    (h : collectFrom verbose stop inComment text = (taken, c :: rest)) (more : List Char) :
    collectFrom verbose stop inComment (text ++ more) = (taken, c :: (rest ++ more)) := by
  induction text generalizing inComment taken with
  | nil => cases inComment <;> cases h
  | cons d text ih =>
    cases inComment with
    | true => exact ih h
    | false =>
      simp only [collectFrom, List.cons_append] at h ⊢
      split
      · rename_i hspace
        rw [if_pos hspace] at h
        exact ih h
      · rename_i hspace
        rw [if_neg hspace] at h
        split
        · rename_i hsign
          rw [if_pos hsign] at h
          exact ih h
        · rename_i hsign
          rw [if_neg hsign] at h
          split
          · rename_i hstop
            rw [if_pos hstop] at h
            cases h
            rfl
          · rename_i hstop
            rw [if_neg hstop] at h
            obtain ⟨htaken, hrest⟩ := Prod.mk.inj h
            have hall : collectFrom verbose stop false text = (_, c :: rest) := Prod.ext rfl hrest
            have hmore := ih hall
            simp only [hmore, htaken]

/-- Where nothing is collected and nothing left, there are only blanks. -/
theorem eq_nil_of_collectFrom {verbose : Bool} {stop : Char → Bool} {inComment : Bool}
    {text : List Char} (hcomment : inComment = true → verbose = true)
    (h : collectFrom verbose stop inComment text = ([], [])) :
    (if verbose then dropBlank inComment text else text) = [] := by
  induction text generalizing inComment with
  | nil => cases verbose <;> cases inComment <;> rfl
  | cons c text ih =>
    cases inComment with
    | true =>
      obtain rfl := hcomment rfl
      exact ih (fun _ => rfl) h
    | false =>
      simp only [collectFrom] at h
      cases verbose with
      | false =>
        simp only [Bool.false_and, Bool.false_eq_true, if_false] at h
        split at h <;> cases h
      | true =>
        simp only [Bool.true_and, beq_iff_eq] at h
        simp only [dropBlank, if_true]
        split at h
        · rename_i hspace
          rw [if_pos hspace]
          exact ih (fun _ => rfl) h
        · rename_i hspace
          rw [if_neg hspace]
          split at h
          · rename_i hsign
            rw [if_pos hsign]
            exact ih (fun _ => rfl) h
          · split at h <;> cases h

/-- A closing parenthesis at which collecting stops adds nothing to what is collected. -/
theorem collect_nil_append {verbose : Bool} {stop : Char → Bool} {text left : List Char}
    (h : collect verbose stop text = ([], left))
    (known : Unfinished verbose (skipBlank verbose text)) (hstop : stop ')' = true)
    (more : List Char) :
    (collect verbose stop (text ++ ')' :: more)).1 = [] := by
  cases left with
  | cons c left =>
    have hmore := collectFrom_append h (')' :: more)
    rw [collect, hmore]
  | nil =>
    have hcomment : false = true → verbose = true := nofun
    have hblank : skipBlank verbose text = [] := eq_nil_of_collectFrom hcomment h
    cases verbose with
    | true => exact absurd hblank (known rfl)
    | false =>
      obtain rfl : text = [] := hblank
      simp [collect, collectFrom, hstop]

theorem collectCount_suffix {verbose : Bool} {count : Nat} {text taken rest : List Char}
    (h : collectCount verbose count text = some (taken, rest)) : rest <:+ text := by
  induction count generalizing text taken with
  | zero =>
    cases h
    exact List.suffix_refl _
  | succ count ih =>
    rw [collectCount] at h
    split at h
    · cases h
    · rename_i c shown hshown
      obtain ⟨⟨inner, left⟩, hinner, heq⟩ := Option.map_eq_some_iff.mp h
      cases heq
      have hskip := skipBlank_suffix verbose text
      rw [hshown] at hskip
      exact (ih hinner).trans ((List.suffix_cons c shown).trans hskip)

theorem collectCount_append {verbose : Bool} {count : Nat} {text taken rest : List Char}
    (h : collectCount verbose count text = some (taken, rest)) (more : List Char) :
    collectCount verbose count (text ++ more) = some (taken, rest ++ more) := by
  induction count generalizing text taken with
  | zero =>
    cases h
    rfl
  | succ count ih =>
    rw [collectCount] at h ⊢
    split at h
    · cases h
    · rename_i c shown hshown
      obtain ⟨⟨inner, left⟩, hinner, heq⟩ := Option.map_eq_some_iff.mp h
      cases heq
      simp only [skipBlank_append_of_eq hshown, ih hinner, Option.map_some]

theorem span_append {p : Char → Bool} {text name rest : List Char} {c : Char}
    (h : text.span p = (name, c :: rest)) (more : List Char) :
    (text ++ more).span p = (name, c :: (rest ++ more)) := by
  rw [List.span_eq_takeWhile_dropWhile] at h ⊢
  obtain ⟨htake, hdrop⟩ := Prod.mk.inj h
  have hsplit := congrArg List.length (List.takeWhile_append_dropWhile (p := p) (l := text))
  rw [hdrop, List.length_append, List.length_cons] at hsplit
  rw [List.dropWhile_append, hdrop, if_neg (by simp), List.takeWhile_append, if_neg (by omega),
    htake, List.cons_append]

theorem span_suffix (p : Char → Bool) (text : List Char) : (text.span p).2 <:+ text := by
  rw [List.span_eq_takeWhile_dropWhile]
  exact List.dropWhile_suffix p

/-! ## Escapes -/

theorem splices_hexEscape (verbose : Bool) (count : Nat) :
    Splices (hexEscape verbose count) (fun _ rest => Unfinished verbose rest) where
  suffix {text a rest} h := by
    have hskip := skipBlank_suffix verbose text
    unfold hexEscape at h
    split at h
    · rename_i inner hshown
      rw [hshown] at hskip
      have hcollect := collectFrom_suffix verbose (· == '\x7d') false inner
      split at h
      · rename_i digits c left hinner
        obtain ⟨d, -, heq⟩ := bind_eq_ok.mp h
        cases heq
        rw [collect] at hinner
        rw [hinner] at hcollect
        exact (((skipBlank_suffix verbose left).trans (List.suffix_cons c left)).trans
          hcollect).trans ((List.suffix_cons _ inner).trans hskip)
      · cases h
    · split at h
      · rename_i digits left hcount
        obtain ⟨d, -, heq⟩ := bind_eq_ok.mp h
        cases heq
        exact ((skipBlank_suffix verbose left).trans (collectCount_suffix hcount)).trans hskip
      · cases h
  splice {text a rest} h known more := by
    unfold hexEscape at h ⊢
    split at h
    · rename_i inner hshown
      rw [skipBlank_append_of_eq hshown]
      split at h
      · rename_i digits c left hinner
        obtain ⟨d, hd, heq⟩ := bind_eq_ok.mp h
        cases heq
        have hmore : collect verbose (· == '\x7d') (inner ++ ')' :: more) =
            (digits, c :: (left ++ ')' :: more)) := collectFrom_append hinner _
        simp only [hmore, hd, skipBlank_append known]
        rfl
      · cases h
    · rename_i hother
      split at h
      · rename_i digits left hcount
        obtain ⟨d, hd, heq⟩ := bind_eq_ok.mp h
        cases heq
        have hne : skipBlank verbose text ≠ [] := by
          intro hnil
          rw [hnil] at hcount
          cases count with
          | zero =>
            cases hcount
            cases hd
          | succ count => cases verbose <;> cases hcount
        obtain ⟨c, shown, hshown⟩ := List.exists_cons_of_ne_nil hne
        rw [hshown] at hcount
        have hmore := collectCount_append hcount (')' :: more)
        have hbrace : c ≠ '\x7b' := fun hc => hother shown (by rw [hshown, hc])
        rw [skipBlank_append_of_eq hshown]
        split
        · rename_i heq
          exact absurd (List.cons.inj heq).1 hbrace
        · rw [List.cons_append] at hmore
          simp only [hmore, hd, skipBlank_append known]
          rfl
      · cases h

theorem splices_propertyEscape (verbose negated : Bool) :
    Splices (propertyEscape verbose negated) (fun _ rest => Unfinished verbose rest) where
  suffix {text a rest} h := by
    have hskip := skipBlank_suffix verbose text
    unfold propertyEscape at h
    split at h
    · cases h
    · rename_i inner hshown
      rw [hshown] at hskip
      have hcollect := collectFrom_suffix verbose (· == '\x7d') false inner
      split at h
      · rename_i body c left hinner
        rw [collect] at hinner
        rw [hinner] at hcollect
        split at h
        · cases h
          exact ((List.suffix_cons c _).trans hcollect).trans
            ((List.suffix_cons _ inner).trans hskip)
        · cases h
      · cases h
    · rename_i c left _ hshown
      rw [hshown] at hskip
      split at h
      · cases h
      · split at h
        · cases h
          exact (skipBlank_suffix verbose left).trans ((List.suffix_cons c left).trans hskip)
        · cases h
  splice {text a rest} h known more := by
    unfold propertyEscape at h ⊢
    split at h
    · cases h
    · rename_i inner hshown
      rw [skipBlank_append_of_eq hshown]
      split at h
      · rename_i body c left hinner
        have hmore : collect verbose (· == '\x7d') (inner ++ ')' :: more) =
            (body, c :: (left ++ ')' :: more)) := collectFrom_append hinner _
        split at h
        · rename_i query hquery
          cases h
          simp only [hmore, hquery]
        · cases h
      · cases h
    · rename_i c left hbrace hshown
      rw [skipBlank_append_of_eq hshown]
      split at h
      · cases h
      · rename_i hescape
        split at h
        · rename_i query hquery
          cases h
          split
          · rename_i heq
            cases heq
          · rename_i heq
            exact absurd (List.cons.inj heq).1 hbrace
          · rename_i heq
            obtain ⟨rfl, rfl⟩ := List.cons.inj heq
            rw [if_neg hescape]
            simp only [hquery, skipBlank_append known]
        · cases h

/-- Behind a word boundary a brace is left that has more than blanks behind it: a name of a boundary
is looked for there. -/
def BoundaryKept (verbose : Bool) (a : Atom) (rest : List Char) : Prop :=
  a = .anchor .wordBoundary → ∀ inner, rest = '\x7b' :: inner →
    Unfinished verbose (skipBlank verbose inner)

theorem splices_boundaryEscape (verbose : Bool) :
    Splices (boundaryEscape verbose) (BoundaryKept verbose) where
  suffix {text a rest} h := by
    unfold boundaryEscape at h
    split at h
    · rename_i inner
      have hcollect := collectFrom_suffix verbose (fun c => !isBoundaryNameChar c) false inner
      split at h
      · cases h
        exact List.suffix_refl _
      · rename_i name left hne hinner
        rw [collect] at hinner
        rw [hinner] at hcollect
        split at h
        · cases h
          exact ((List.suffix_cons _ _).trans hcollect).trans (List.suffix_cons _ inner)
        · cases h
      · cases h
    · cases h
      exact List.suffix_refl _
  splice {text a rest} h known more := by
    unfold boundaryEscape at h
    split at h
    · rename_i inner
      split at h
      · rename_i left hinner
        cases h
        have hnone := collect_nil_append hinner (known rfl inner rfl) (by decide) more
        obtain ⟨left', hmore⟩ : ∃ left', collect verbose (fun c => !isBoundaryNameChar c)
            (inner ++ ')' :: more) = ([], left') := ⟨_, Prod.ext hnone rfl⟩
        simp only [boundaryEscape, List.cons_append, hmore]
      · rename_i name left hne hinner
        have hmore : collect verbose (fun c => !isBoundaryNameChar c) (inner ++ ')' :: more) =
            (name, '\x7d' :: (left ++ ')' :: more)) := collectFrom_append hinner _
        split at h
        · rename_i place hplace
          cases h
          cases name with
          | nil => exact absurd rfl hne
          | cons d name => simp only [boundaryEscape, List.cons_append, hmore, hplace]
        · cases h
      · cases h
    · rename_i hother
      cases h
      unfold boundaryEscape
      split
      · rename_i inner heq
        cases text with
        | nil => cases heq
        | cons c text => exact absurd (by rw [(List.cons.inj heq).1]) (hother text)
      · rfl

theorem splices_ofEscape (verbose : Bool) : Splices (Atom.ofEscape verbose)
    (fun a rest => Unfinished verbose rest ∧ BoundaryKept verbose a rest) where
  suffix {text a rest} h := by
    cases text with
    | nil => cases h
    | cons c text =>
      have hbehind {other : List Char} (hother : other <:+ text) : other <:+ c :: text :=
        hother.trans (List.suffix_cons c text)
      unfold Atom.ofEscape at h
      split at h <;> rename_i heq
      · cases heq
      all_goals obtain ⟨rfl, rfl⟩ := List.cons.inj heq
      · exact hbehind ((splices_hexEscape verbose 2).suffix h)
      · exact hbehind ((splices_hexEscape verbose 4).suffix h)
      · exact hbehind ((splices_hexEscape verbose 8).suffix h)
      · exact hbehind ((splices_propertyEscape verbose false).suffix h)
      · exact hbehind ((splices_propertyEscape verbose true).suffix h)
      · exact hbehind ((splices_boundaryEscape verbose).suffix h)
      · split at h
        · cases h
        · split at h
          · cases h
            exact hbehind (List.suffix_refl _)
          · split at h <;> cases h <;> exact hbehind (List.suffix_refl _)
  splice {text a rest} h known more := by
    cases text with
    | nil => cases h
    | cons c text =>
      rw [List.cons_append]
      unfold Atom.ofEscape at h ⊢
      split at h <;> rename_i heq
      · cases heq
      all_goals obtain ⟨rfl, rfl⟩ := List.cons.inj heq
      · exact (splices_hexEscape verbose 2).splice h known.1 more
      · exact (splices_hexEscape verbose 4).splice h known.1 more
      · exact (splices_hexEscape verbose 8).splice h known.1 more
      · exact (splices_propertyEscape verbose false).splice h known.1 more
      · exact (splices_propertyEscape verbose true).splice h known.1 more
      · exact (splices_boundaryEscape verbose).splice h known.2 more
      · rename_i hx hu hU hp hP hb
        split <;> rename_i heq
        · cases heq
        · exact absurd (List.cons.inj heq).1 hx
        · exact absurd (List.cons.inj heq).1 hu
        · exact absurd (List.cons.inj heq).1 hU
        · exact absurd (List.cons.inj heq).1 hp
        · exact absurd (List.cons.inj heq).1 hP
        · exact absurd (List.cons.inj heq).1 hb
        · obtain ⟨rfl, rfl⟩ := List.cons.inj heq
          split at h
          · cases h
          · rename_i hdigit
            rw [if_neg hdigit]
            split at h
            · rename_i hescaped
              cases h
              rw [if_pos hescaped]
            · rename_i hescaped
              rw [if_neg hescaped]
              split at h <;> cases h <;> simp_all

end RouteChain.Regex
