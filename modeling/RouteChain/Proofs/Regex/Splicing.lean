import RouteChain.Proofs.Regex.Splicing.Bracket
import RouteChain.Regex.Token.OfText

/-!
# Reading before a closing parenthesis

A token ends where it ends by itself: behind a text that is read, a closing parenthesis is not
looked at. Where blanks do not count this needs something to be left behind the token, unless the
token closes a group itself.

## Main definitions

* `headOf` — what follows an opening parenthesis, behind the blanks there.
* `Token.Finished` — what has to be left behind a token.

The main result is `Token.splices_next`.
-/

namespace RouteChain.Regex

/-! ## Repetitions -/

theorem readGreed_suffix (text : List Char) : (readGreed text).2 <:+ text := by
  unfold readGreed
  split
  · exact List.suffix_cons _ _
  · exact List.suffix_refl _

theorem readGreed_append (text more : List Char) : readGreed (text ++ ')' :: more) =
    ((readGreed text).1, (readGreed text).2 ++ ')' :: more) := by
  cases text with
  | nil => rfl
  | cons c text =>
    by_cases hc : c = '?'
    · subst hc
      rfl
    · rw [List.cons_append]
      unfold readGreed
      split <;> split <;> simp_all

theorem ofRepetition_suffix (min : Nat) (max : Option Nat) (text : List Char) :
    (Token.ofRepetition min max text).2 <:+ text :=
  readGreed_suffix text

theorem ofRepetition_append (min : Nat) (max : Option Nat) (text more : List Char) :
    Token.ofRepetition min max (text ++ ')' :: more) =
      ((Token.ofRepetition min max text).1,
        (Token.ofRepetition min max text).2 ++ ')' :: more) := by
  simp only [Token.ofRepetition, readGreed_append]

theorem splices_readBound (verbose : Bool) :
    Splices (readBound verbose) (fun _ rest => rest ≠ []) where
  suffix {text n rest} h := by
    unfold readBound at h
    split at h
    rename_i digits left hdigits
    have hcollect := collectFrom_suffix verbose (fun c => !c.isDigit) false
      (text.dropWhile Unicode.isSpace)
    rw [collect] at hdigits
    rw [hdigits] at hcollect
    dsimp only at h
    split at h
    · cases h
    · cases h
      exact ((List.dropWhile_suffix _).trans hcollect).trans (List.dropWhile_suffix _)
  splice {text n rest} h known more := by
    unfold readBound at h ⊢
    split at h
    rename_i digits left hdigits
    dsimp only at h
    split at h
    · cases h
    · rename_i hbound
      cases h
      have hleft : left ≠ [] := by
        rintro rfl
        exact known rfl
      obtain ⟨c, left, rfl⟩ := List.exists_cons_of_ne_nil hleft
      have hspace : (text.dropWhile Unicode.isSpace).isEmpty = false := by
        cases hdrop : text.dropWhile Unicode.isSpace with
        | nil =>
          rw [hdrop] at hdigits
          cases hdigits
        | cons d dropped => rfl
      have hmore : collect verbose (fun c => !c.isDigit)
          ((text ++ ')' :: more).dropWhile Unicode.isSpace) =
            (digits, c :: (left ++ ')' :: more)) := by
        rw [List.dropWhile_append, hspace]
        exact collectFrom_append hdigits _
      have hbehind : (c :: (left ++ ')' :: more)).dropWhile Unicode.isSpace =
          (c :: left).dropWhile Unicode.isSpace ++ ')' :: more := by
        have hempty : ((c :: left).dropWhile Unicode.isSpace).isEmpty = false := by
          simpa using known
        rw [← List.cons_append, List.dropWhile_append, hempty]
        rfl
      simp only [hmore, if_neg hbound, hbehind]

theorem splices_closeBraces (verbose : Bool) (min : Nat) (max : Option Nat) :
    Splices (closeBraces verbose min max) (fun _ rest => Unfinished verbose rest) where
  suffix {text token rest} h := by
    unfold closeBraces at h
    split at h
    · rename_i left
      split at h
      · cases h
      · have heq := congrArg Prod.snd (Except.ok.inj h)
        have hrest := ofRepetition_suffix min max (skipBlank verbose left)
        rw [heq] at hrest
        exact (hrest.trans (skipBlank_suffix verbose left)).trans (List.suffix_cons _ left)
    · cases h
  splice {text token rest} h known more := by
    unfold closeBraces at h
    split at h
    · rename_i left
      split at h
      · cases h
      · rename_i hbounds
        have heq := Except.ok.inj h
        have hunfinished : Unfinished verbose (skipBlank verbose left) := by
          intro hverbose hnil
          rw [hnil] at heq
          exact known hverbose (congrArg Prod.snd heq).symm
        simp only [closeBraces, List.cons_append, if_neg hbounds, skipBlank_append hunfinished,
          ofRepetition_append, heq]
    · cases h

/-- Bounds are closed by something. -/
theorem ne_nil_of_closeBraces {verbose : Bool} {min : Nat} {max : Option Nat} {text : List Char}
    {result : Token × List Char} (h : closeBraces verbose min max text = .ok result) :
    text ≠ [] := by
  rintro rfl
  cases h

/-- A bound begins with something. -/
theorem ne_nil_of_readBound {verbose : Bool} {text : List Char} {result : Nat × List Char}
    (h : readBound verbose text = .ok result) : text ≠ [] := by
  rintro rfl
  cases h

theorem splices_ofBraces (verbose : Bool) :
    Splices (Token.ofBraces verbose) (fun _ rest => Unfinished verbose rest) where
  suffix {text token rest} h := by
    obtain ⟨⟨min, left⟩, hmin, h⟩ := bind_eq_ok.mp h
    have hleft := ((splices_readBound verbose).suffix hmin).trans (skipBlank_suffix verbose text)
    dsimp only at h
    split at h
    · rename_i behind
      have hbehind := (skipBlank_suffix verbose behind).trans (List.suffix_cons ',' behind)
      split at h
      · rename_i closed hclosed
        rw [hclosed] at hbehind
        exact (((splices_closeBraces verbose min none).suffix h).trans hbehind).trans hleft
      · obtain ⟨⟨max, other⟩, hmax, h⟩ := bind_eq_ok.mp h
        exact ((((splices_closeBraces verbose min max).suffix h).trans
          ((splices_readBound verbose).suffix hmax)).trans hbehind).trans hleft
    · exact ((splices_closeBraces verbose min (some min)).suffix h).trans hleft
  splice {text token rest} h known more := by
    obtain ⟨⟨min, left⟩, hmin, h⟩ := bind_eq_ok.mp h
    obtain ⟨d, shown, hshown⟩ := List.exists_cons_of_ne_nil (ne_nil_of_readBound hmin)
    have hskip : skipBlank verbose (text ++ ')' :: more) =
        skipBlank verbose text ++ ')' :: more :=
      skipBlank_append (fun _ => ne_nil_of_readBound hmin) _
    dsimp only at h
    unfold Token.ofBraces
    refine bind_eq_ok.mpr ?_
    split at h
    · rename_i behind
      refine ⟨(min, ',' :: (behind ++ ')' :: more)), ?_, ?_⟩
      · rw [hskip]
        exact (splices_readBound verbose).splice hmin (by simp) more
      · split at h
        · rename_i closed hclosed
          have hclose := (splices_closeBraces verbose min none).splice h known more
          rw [List.cons_append] at hclose
          simp only [skipBlank_append_of_eq hclosed]
          exact hclose
        · rename_i hother
          obtain ⟨⟨max, other⟩, hmax, h⟩ := bind_eq_ok.mp h
          have hclose := (splices_closeBraces verbose min max).splice h known more
          have hbound := (splices_readBound verbose).splice hmax (ne_nil_of_closeBraces h) more
          obtain ⟨e, behind', hbehind⟩ := List.exists_cons_of_ne_nil (ne_nil_of_readBound hmax)
          have he : e ≠ '\x7d' := fun he => hother behind' (by rw [hbehind, he])
          rw [hbehind, List.cons_append] at hbound
          simp only [skipBlank_append_of_eq hbehind]
          split
          · rename_i heq
            exact absurd (List.cons.inj heq).1 he
          · exact bind_eq_ok.mpr ⟨_, hbound, hclose⟩
    · rename_i hother
      refine ⟨(min, left ++ ')' :: more), ?_, ?_⟩
      · rw [hskip]
        exact (splices_readBound verbose).splice hmin (ne_nil_of_closeBraces h) more
      · have hclose := (splices_closeBraces verbose min (some min)).splice h known more
        obtain ⟨e, behind, rfl⟩ := List.exists_cons_of_ne_nil (ne_nil_of_closeBraces h)
        have he : e ≠ ',' := fun he => hother behind (by rw [he])
        rw [List.cons_append] at hclose ⊢
        dsimp only
        split
        · rename_i heq
          exact absurd (List.cons.inj heq).1 he
        · exact hclose

/-! ## Opening parentheses -/

theorem groupName_suffix {text rest : List Char} {name : String}
    (h : groupName text = .ok (name, rest)) : rest <:+ text := by
  have hspan := span_suffix (· ≠ '>') text
  unfold groupName at h
  split at h
  · rename_i first others c left heq
    rw [heq] at hspan
    split at h <;> cases h
    exact (List.suffix_cons c _).trans hspan
  · cases h

theorem groupName_append {text rest : List Char} {name : String}
    (h : groupName text = .ok (name, rest)) (more : List Char) :
    groupName (text ++ more) = .ok (name, rest ++ more) := by
  unfold groupName at h
  split at h
  · rename_i first others c left heq
    split at h
    · rename_i hname
      cases h
      simp only [groupName, span_append heq more, if_pos hname]
    · cases h
  · cases h

theorem readFlags_suffix {on dangling : Bool} {changes : List FlagChange} {text : List Char}
    {result : List FlagChange × FlagsEnd × List Char}
    (h : readFlags on dangling changes text = .ok result) : result.2.2 <:+ text := by
  induction text generalizing on dangling changes with
  | nil => cases h
  | cons c text ih =>
    have hrest {on dangling : Bool} {changes : List FlagChange}
        (h : readFlags on dangling changes text = .ok result) : result.2.2 <:+ c :: text :=
      (ih h).trans (List.suffix_cons c text)
    unfold readFlags at h
    split at h <;> rename_i heq
    · cases heq
    all_goals obtain ⟨rfl, rfl⟩ := List.cons.inj heq
    · split at h <;> cases h
      exact List.suffix_cons _ _
    · split at h <;> cases h
      exact List.suffix_cons _ _
    · split at h
      · exact hrest h
      · cases h
    · split at h
      · cases h
      · split at h
        · cases h
        · exact hrest h

theorem readFlags_append {on dangling : Bool} {changes changes' : List FlagChange}
    {ending : FlagsEnd} {text rest : List Char}
    (h : readFlags on dangling changes text = .ok (changes', ending, rest)) (more : List Char) :
    readFlags on dangling changes (text ++ more) = .ok (changes', ending, rest ++ more) := by
  induction text generalizing on dangling changes with
  | nil => cases h
  | cons c text ih =>
    rw [List.cons_append]
    unfold readFlags at h ⊢
    split at h <;> rename_i heq
    · cases heq
    all_goals obtain ⟨rfl, rfl⟩ := List.cons.inj heq
    · split at h <;> cases h
      simp_all
    · split at h <;> cases h
      simp_all
    · split at h
      · rename_i hon
        simp only [if_pos hon, ih h]
      · cases h
    · split at h
      · cases h
      · rename_i flag hflag
        split at h
        · cases h
        · rename_i hnew
          simp only [hflag, if_neg hnew, ih h]

/-- What follows an opening parenthesis, behind the blanks there. -/
def headOf : List Char → Except Error (Token × List Char)
  | '?' :: '=' :: _ | '?' :: '!' :: _ | '?' :: '<' :: '=' :: _ | '?' :: '<' :: '!' :: _ =>
    .error .lookAround
  | '?' :: 'P' :: '<' :: rest | '?' :: '<' :: rest => do
    let (name, rest) ← groupName rest
    return (.openGroup (.capturing (some name)), rest)
  | '?' :: rest => do
    match ← readFlags true false [] rest with
    | (changes, .colon, rest) => return (.openGroup (.flagged changes), rest)
    | ([], .parenthesis, _) => .error .nothingToRepeat
    | (changes, .parenthesis, rest) => return (.setFlags changes, rest)
  | rest => .ok (.openGroup (.capturing none), rest)

theorem ofParenthesis_eq (verbose : Bool) (text : List Char) :
    Token.ofParenthesis verbose text = headOf (skipBlank verbose text) :=
  rfl

theorem splices_headOf : Splices headOf (fun _ _ => True) where
  suffix {text token rest} h := by
    unfold headOf at h
    split at h
    any_goals cases h
    · obtain ⟨⟨name, behind⟩, hname, h⟩ := bind_eq_ok.mp h
      cases h
      exact (groupName_suffix hname).trans
        (((List.suffix_cons _ _).trans (List.suffix_cons _ _)).trans (List.suffix_cons _ _))
    · obtain ⟨⟨name, behind⟩, hname, h⟩ := bind_eq_ok.mp h
      cases h
      exact (groupName_suffix hname).trans ((List.suffix_cons _ _).trans (List.suffix_cons _ _))
    · obtain ⟨⟨changes, ending, behind⟩, hflags, h⟩ := bind_eq_ok.mp h
      have hbehind : behind <:+ _ := (readFlags_suffix hflags).trans (List.suffix_cons '?' _)
      split at h <;> rename_i heq <;> cases heq <;> cases h <;> exact hbehind
    · exact List.suffix_refl _
  splice {text token rest} h _ more := by
    unfold headOf at h
    split at h
    any_goals cases h
    · rename_i left
      obtain ⟨⟨name, behind⟩, hname, h⟩ := bind_eq_ok.mp h
      cases h
      exact bind_eq_ok.mpr ⟨_, groupName_append hname _, rfl⟩
    · rename_i left hpositive hnegative
      obtain ⟨⟨name, behind⟩, hname, h⟩ := bind_eq_ok.mp h
      cases h
      cases left with
      | nil => cases hname
      | cons c left =>
        have hmore := groupName_append hname (')' :: more)
        have hpositive' : c ≠ '=' := fun hc => hpositive left (by rw [hc])
        have hnegative' : c ≠ '!' := fun hc => hnegative left (by rw [hc])
        unfold headOf
        split <;> rename_i heq
        case h_6 =>
          cases heq
          exact bind_eq_ok.mpr ⟨_, hmore, rfl⟩
        case h_7 hname => exact absurd (List.cons.inj heq).2.symm (hname _)
        case h_8 => exact (heq _ rfl).elim
        case h_3 | h_4 =>
          exact absurd (List.cons.inj (List.cons.inj (List.cons.inj heq).2).2).1 (by assumption)
        all_goals exact absurd (List.cons.inj (List.cons.inj heq).2).1 (by decide)
    · rename_i left hpositive hnegative _ _ _ hname
      obtain ⟨⟨changes, ending, behind⟩, hflags, hend⟩ := bind_eq_ok.mp h
      have hmore := readFlags_append hflags (')' :: more)
      cases left with
      | nil => cases hflags
      | cons c left =>
        have hc : c ≠ 'P' := by
          rintro rfl
          cases hflags
        have hpositive' : c ≠ '=' := fun hc => hpositive left (by rw [hc])
        have hnegative' : c ≠ '!' := fun hc => hnegative left (by rw [hc])
        have hname' : c ≠ '<' := fun hc => hname left (by rw [hc])
        unfold headOf
        split <;> rename_i heq
        case h_7 =>
          cases heq
          refine bind_eq_ok.mpr ⟨_, hmore, ?_⟩
          cases ending with
          | colon =>
            cases hend
            rfl
          | parenthesis =>
            cases changes with
            | nil => cases hend
            | cons change changes =>
              cases hend
              rfl
        case h_8 => exact (heq _ rfl).elim
        all_goals exact absurd (List.cons.inj (List.cons.inj heq).2).1 (by assumption)
    · cases text with
      | nil => rfl
      | cons c text =>
        have hc : c ≠ '?' := by simp_all
        unfold headOf
        split <;> simp_all

theorem splices_ofParenthesis (verbose : Bool) :
    Splices (Token.ofParenthesis verbose) (fun _ rest => Unfinished verbose rest) where
  suffix {text token rest} h :=
    (splices_headOf.suffix h).trans (skipBlank_suffix verbose text)
  splice {text token rest} h known more := by
    have hshown : Unfinished verbose (skipBlank verbose text) := by
      intro hverbose hnil
      have hsuffix : rest <:+ skipBlank verbose text := splices_headOf.suffix h
      rw [hnil] at hsuffix
      exact known hverbose (List.suffix_nil.mp hsuffix)
    rw [ofParenthesis_eq, skipBlank_append hshown]
    exact splices_headOf.splice h trivial more

/-! ## Tokens -/

namespace Token

/-- A token that closes no group is read before a closing parenthesis as it is read at the end, if
something is left where blanks do not count. -/
def Finished (verbose : Bool) (token : Token) (rest : List Char) : Prop :=
  token ≠ .closeGroup → Unfinished verbose rest ∧
    ∀ a, token = .atom a → BoundaryKept verbose a rest

theorem ne_closeGroup_of_ofParenthesis {verbose : Bool} {text rest : List Char} {token : Token}
    (h : ofParenthesis verbose text = .ok (token, rest)) : token ≠ .closeGroup := by
  rintro rfl
  unfold ofParenthesis at h
  split at h
  any_goals cases h
  · obtain ⟨_, -, h⟩ := bind_eq_ok.mp h
    cases h
  · obtain ⟨_, -, h⟩ := bind_eq_ok.mp h
    cases h
  · obtain ⟨_, -, h⟩ := bind_eq_ok.mp h
    split at h <;> cases h

theorem repetition_of_closeBraces {verbose : Bool} {min : Nat} {max : Option Nat}
    {text rest : List Char} {token : Token}
    (h : closeBraces verbose min max text = .ok (token, rest)) :
    ∃ bounds, token = .repetition bounds := by
  unfold closeBraces at h
  split at h
  · split at h
    · cases h
    · exact ⟨_, (congrArg Prod.fst (Except.ok.inj h)).symm⟩
  · cases h

theorem repetition_of_ofBraces {verbose : Bool} {text rest : List Char} {token : Token}
    (h : ofBraces verbose text = .ok (token, rest)) : ∃ bounds, token = .repetition bounds := by
  obtain ⟨⟨min, left⟩, -, h⟩ := bind_eq_ok.mp h
  dsimp only at h
  split at h
  · split at h
    · exact repetition_of_closeBraces h
    · obtain ⟨⟨max, other⟩, -, h⟩ := bind_eq_ok.mp h
      exact repetition_of_closeBraces h
  · exact repetition_of_closeBraces h

/-- A token takes a character at least. -/
theorem shorter_of_next {verbose : Bool} {text rest : List Char} {token : Token}
    (h : next verbose text = .ok (token, rest)) : ∃ c left, text = c :: left ∧ rest <:+ left := by
  unfold next at h
  split at h
  · cases h
  all_goals refine ⟨_, _, rfl, ?_⟩
  case h_2 => exact (splices_ofParenthesis verbose).suffix h
  case h_5 | h_6 | h_7 =>
    have hrest : (ofRepetition _ _ _).2 = rest := congrArg Prod.snd (Except.ok.inj h)
    exact hrest ▸ ofRepetition_suffix _ _ _
  case h_8 => exact (splices_ofBraces verbose).suffix h
  case h_9 =>
    obtain ⟨⟨a, left⟩, ha, h⟩ := bind_eq_ok.mp h
    cases h
    exact (splices_ofBracket verbose).suffix ha
  case h_10 =>
    obtain ⟨⟨a, left⟩, ha, h⟩ := bind_eq_ok.mp h
    cases h
    exact (splices_ofEscape verbose).suffix ha
  all_goals
    cases h
    exact List.suffix_refl _

theorem splices_next (verbose : Bool) : Splices (next verbose) (Finished verbose) where
  suffix {text token rest} h := by
    obtain ⟨c, left, rfl, hleft⟩ := shorter_of_next h
    exact hleft.trans (List.suffix_cons c left)
  splice {text token rest} h known more := by
    have hrepetition {min : Nat} {max : Option Nat} {left : List Char}
        (h : (.ok (ofRepetition min max left) : Except Error _) = .ok (token, rest)) :
        (.ok (ofRepetition min max (left ++ ')' :: more)) : Except Error _) =
          .ok (token, rest ++ ')' :: more) := by
      rw [ofRepetition_append, Except.ok.inj h]
    unfold next at h
    split at h
    · cases h
    · have hclose := ne_closeGroup_of_ofParenthesis h
      exact (splices_ofParenthesis verbose).splice h (known hclose).1 more
    case h_5 | h_6 | h_7 => exact hrepetition h
    case h_8 =>
      obtain ⟨bounds, rfl⟩ := repetition_of_ofBraces h
      exact (splices_ofBraces verbose).splice h (known nofun).1 more
    case h_9 =>
      obtain ⟨⟨a, left⟩, ha, h⟩ := bind_eq_ok.mp h
      cases h
      exact bind_eq_ok.mpr ⟨_, (splices_ofBracket verbose).splice ha trivial more, rfl⟩
    case h_10 =>
      obtain ⟨⟨a, left⟩, ha, h⟩ := bind_eq_ok.mp h
      cases h
      obtain ⟨hunfinished, hkept⟩ := known nofun
      exact bind_eq_ok.mpr
        ⟨_, (splices_ofEscape verbose).splice ha ⟨hunfinished, hkept a rfl⟩ more, rfl⟩
    case h_14 c left _ _ _ _ _ _ _ _ _ _ _ _ =>
      cases h
      rw [List.cons_append]
      unfold next
      split <;> simp_all
    all_goals
      cases h
      rfl

end Token

end RouteChain.Regex
