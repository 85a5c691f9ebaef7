import RouteChain.Proofs.Regex.Splicing.Escape
import RouteChain.Regex.Token.Bracket

/-!
# Reading a bracketed class before a closing parenthesis

A class ends at its closing bracket, so nothing behind it is looked at.

## Main definitions

* `negationOf`, `hyphensOf`, `openingOf` — what a class starts with, piece by piece.
* `classOfName?` — a named class behind the sign of its negation.

The main result is `splices_ofBracket`.
-/

namespace RouteChain.Regex

/-! ## Items -/

theorem splices_classAtom (verbose : Bool) : Splices (classAtom verbose)
    (fun a rest => Unfinished verbose rest ∧ BoundaryKept verbose a rest) where
  suffix {text a rest} h := by
    unfold classAtom at h
    split at h
    · cases h
    · exact ((splices_ofEscape verbose).suffix h).trans (List.suffix_cons _ _)
    · cases h
      exact List.suffix_cons _ _
  splice {text a rest} h known more := by
    unfold classAtom at h
    split at h
    · cases h
    · exact (splices_ofEscape verbose).splice h known more
    · rename_i c left hescape
      cases h
      rw [List.cons_append]
      unfold classAtom
      split <;> rename_i heq
      · cases heq
      · exact absurd (List.cons.inj heq).1 hescape
      · obtain ⟨rfl, rfl⟩ := List.cons.inj heq
        rfl

/-- No assertion is an item of a class. -/
theorem boundaryKept_of_ofAtom {verbose : Bool} {a : Atom} {set : ClassSet}
    (h : ClassSet.ofAtom a = .ok set) (rest : List Char) : BoundaryKept verbose a rest := by
  rintro rfl
  cases h

theorem dropBlank_dropWhile (text : List Char) :
    dropBlank false (text.dropWhile Unicode.isSpace) = dropBlank false text := by
  induction text with
  | nil => rfl
  | cons c text ih =>
    rw [List.dropWhile_cons]
    split
    · rename_i hspace
      rw [ih, dropBlank, if_pos hspace]
    · rfl

theorem dropBlank_of_dropWhile {inComment : Bool} {text : List Char}
    (h : text.dropWhile Unicode.isSpace = []) : dropBlank inComment text = [] := by
  induction text generalizing inComment with
  | nil => cases inComment <;> rfl
  | cons c text ih =>
    rw [List.dropWhile_cons] at h
    split at h
    · rename_i hspace
      cases inComment with
      | true => exact ih h
      | false =>
        rw [dropBlank, if_pos hspace]
        exact ih h
    · cases h

/-- What decides about a hyphen is in the text, if that is more than blanks. -/
theorem peekPastBlank_append {verbose : Bool} {text : List Char} (h : skipBlank verbose text ≠ [])
    (more : List Char) : peekPastBlank verbose (text ++ more) = peekPastBlank verbose text := by
  have hne : text ≠ [] := by
    rintro rfl
    cases verbose <;> exact h rfl
  have hhead : (text ++ more).head? = text.head? := by
    obtain ⟨c, text, rfl⟩ := List.exists_cons_of_ne_nil hne
    rfl
  cases verbose with
  | false => exact hhead
  | true =>
    have hdrop : (text.dropWhile Unicode.isSpace).isEmpty = false := by
      cases hdrop : text.dropWhile Unicode.isSpace with
      | nil => exact absurd (dropBlank_of_dropWhile hdrop) h
      | cons c rest => rfl
    obtain ⟨c, rest, hrest⟩ := List.exists_cons_of_ne_nil (List.isEmpty_eq_false_iff.mp hdrop)
    simp only [peekPastBlank, if_true, List.dropWhile_append, hrest, List.cons_append, hhead]
    by_cases hc : c = '#'
    · subst hc
      have hcomment : (rest.dropWhile Unicode.isSpace).isEmpty = false := by
        cases hdrop' : rest.dropWhile Unicode.isSpace with
        | nil =>
          have hsign : dropBlank false ('#' :: rest) = dropBlank true rest := by
            rw [dropBlank, if_neg (by decide), if_pos rfl]
          have hblank := dropBlank_dropWhile text
          rw [hrest, hsign, dropBlank_of_dropWhile hdrop'] at hblank
          exact absurd hblank.symm h
        | cons d left => rfl
      obtain ⟨d, left, hleft⟩ := List.exists_cons_of_ne_nil (List.isEmpty_eq_false_iff.mp hcomment)
      simp [List.dropWhile_append, hleft]
    · split <;> simp_all

/-- What keeps a hyphen from starting a range is in the text, even if it is in a comment. -/
theorem peekPastBlank_append_of_stop {verbose : Bool} {text : List Char}
    (h : peekPastBlank verbose text = some ']' ∨ peekPastBlank verbose text = some '-')
    (more : List Char) : peekPastBlank verbose (text ++ more) = some ']' ∨
      peekPastBlank verbose (text ++ more) = some '-' := by
  obtain ⟨c, hc, hpeek⟩ : ∃ c, (c = ']' ∨ c = '-') ∧ peekPastBlank verbose text = some c := by
    rcases h with h | h
    · exact ⟨_, .inl rfl, h⟩
    · exact ⟨_, .inr rfl, h⟩
  have hspace : Unicode.isSpace c = false := by rcases hc with rfl | rfl <;> decide
  suffices hmore : peekPastBlank verbose (text ++ more) = some c by
    rcases hc with rfl | rfl
    · exact .inl hmore
    · exact .inr hmore
  cases verbose with
  | false =>
    obtain ⟨rest, rfl⟩ := List.head?_eq_some_iff.mp hpeek
    rfl
  | true =>
    -- A head that is looked at because there is nothing else is a blank or a number sign.
    have hhead (h : text.head? = some c) : text.dropWhile Unicode.isSpace = text := by
      obtain ⟨rest, rfl⟩ := List.head?_eq_some_iff.mp h
      simp [hspace]
    simp only [peekPastBlank, if_true] at hpeek ⊢
    cases hdrop : text.dropWhile Unicode.isSpace with
    | nil =>
      simp only [hdrop] at hpeek
      rw [hhead hpeek] at hdrop
      rw [hdrop] at hpeek
      cases hpeek
    | cons d rest =>
      rw [List.dropWhile_append, hdrop, if_neg (by simp), List.cons_append]
      by_cases hd : d = '#'
      · subst hd
        simp only [hdrop] at hpeek ⊢
        cases hrest : rest.dropWhile Unicode.isSpace with
        | nil =>
          rw [hrest, List.head?_nil, Option.none_or] at hpeek
          rw [hhead hpeek] at hdrop
          rw [hdrop] at hpeek
          rcases hc with rfl | rfl <;> cases hpeek
        | cons e left =>
          rw [hrest] at hpeek
          rw [List.dropWhile_append, hrest, if_neg (by simp), List.cons_append]
          exact hpeek
      · rw [hdrop] at hpeek
        split <;> simp_all

theorem splices_classItem (verbose : Bool) :
    Splices (classItem verbose) (fun _ rest => Unfinished verbose rest) where
  suffix {text item rest} h := by
    obtain ⟨⟨first, left⟩, hfirst, h⟩ := bind_eq_ok.mp h
    have hleft := (splices_classAtom verbose).suffix hfirst
    have hskip := skipBlank_suffix verbose left
    dsimp only at h
    split at h
    · cases h
    · rename_i behind hshown
      rw [hshown] at hskip
      split at h
      · obtain ⟨set, -, heq⟩ := bind_eq_ok.mp h
        cases heq
        exact hskip.trans hleft
      · have hbehind := (skipBlank_suffix verbose behind).trans (List.suffix_cons '-' behind)
        split at h
        · cases h
        · rename_i hlast
          obtain ⟨⟨last, other⟩, hother, h⟩ := bind_eq_ok.mp h
          have hsuffix := (splices_classAtom verbose).suffix hother
          dsimp only at h
          split at h
          · split at h
            · cases h
              exact ((hsuffix.trans hbehind).trans hskip).trans hleft
            · cases h
          · cases h
    · obtain ⟨set, -, heq⟩ := bind_eq_ok.mp h
      cases heq
      exact hskip.trans hleft
  splice {text item rest} h known more := by
    obtain ⟨⟨first, left⟩, hfirst, h⟩ := bind_eq_ok.mp h
    have hread (c : Char) (shown : List Char) (hshown : skipBlank verbose left = c :: shown)
        (hkept : BoundaryKept verbose first left) :
        classAtom verbose (text ++ ')' :: more) = .ok (first, left ++ ')' :: more) :=
      (splices_classAtom verbose).splice hfirst ⟨unfinished_of_skipBlank hshown, hkept⟩ more
    dsimp only at h
    unfold classItem
    refine bind_eq_ok.mpr ?_
    split at h
    · cases h
    · rename_i behind hshown
      split at h
      · rename_i hpeek
        obtain ⟨set, hset, heq⟩ := bind_eq_ok.mp h
        cases heq
        refine ⟨_, hread _ _ hshown (boundaryKept_of_ofAtom hset left), ?_⟩
        simp only [skipBlank_append_of_eq hshown, peekPastBlank_append_of_stop hpeek, if_true, hset]
        rfl
      · rename_i hpeek
        split at h
        · cases h
        · rename_i hlast
          obtain ⟨⟨last, other⟩, hother, h⟩ := bind_eq_ok.mp h
          dsimp only at h
          split at h
          · rename_i c b d b'
            split at h
            · rename_i hle
              cases h
              refine ⟨_, hread _ _ hshown nofun, ?_⟩
              obtain ⟨e, shown, hbehind⟩ := List.exists_cons_of_ne_nil hlast
              have hatom := (splices_classAtom verbose).splice hother ⟨known, nofun⟩ more
              rw [hbehind] at hatom
              simp only [skipBlank_append_of_eq hshown, peekPastBlank_append hlast, if_neg hpeek,
                skipBlank_append_of_eq hbehind]
              exact bind_eq_ok.mpr ⟨_, hatom, if_pos hle⟩
            · cases h
          · cases h
    · rename_i hnil hhyphen
      obtain ⟨set, hset, heq⟩ := bind_eq_ok.mp h
      cases heq
      obtain ⟨e, shown, hshown⟩ := List.exists_cons_of_ne_nil hnil
      refine ⟨_, hread _ _ hshown (boundaryKept_of_ofAtom hset left), ?_⟩
      have he : e ≠ '-' := fun he => hhyphen shown (by rw [hshown, he])
      simp only [skipBlank_append_of_eq hshown]
      split <;> rename_i heq
      · cases heq
      · exact absurd (List.cons.inj heq).1 he
      · rw [hset, hshown]
        rfl

/-! ## Named classes -/

/-- No class has a parenthesis in its name. -/
theorem not_mem_of_ofName? {name : List Char} {cls : AsciiClass}
    (h : AsciiClass.ofName? (String.ofList name) = some cls) : ')' ∉ name := by
  have hname (text : String) (heq : String.ofList name = text) (hparen : ')' ∉ text.toList) :
      ')' ∉ name := by
    rwa [← heq, String.toList_ofList] at hparen
  unfold AsciiClass.ofName? at h
  split at h
  case h_15 => cases h
  all_goals
    rename_i heq
    exact hname _ heq (by decide)

/-- Is a class negated, and what follows that? -/
def negationOf (verbose : Bool) : List Char → Bool × List Char
  | '^' :: rest => (true, skipBlank verbose rest)
  | text => (false, text)

theorem negationOf_of_ne (verbose : Bool) {text : List Char} (h : text.head? ≠ some '^') :
    negationOf verbose text = (false, text) := by
  unfold negationOf
  split
  · exact absurd rfl h
  · rfl

theorem negationOf_suffix (verbose : Bool) (text : List Char) :
    (negationOf verbose text).2 <:+ text := by
  by_cases hc : text.head? = some '^'
  · obtain ⟨text, rfl⟩ := List.head?_eq_some_iff.mp hc
    exact (skipBlank_suffix verbose text).trans (List.suffix_cons '^' text)
  · simp [negationOf_of_ne verbose hc]

theorem negationOf_append {verbose : Bool} {text : List Char}
    (h : Unfinished verbose (negationOf verbose text).2) (more : List Char) :
    negationOf verbose (text ++ ')' :: more) =
      ((negationOf verbose text).1, (negationOf verbose text).2 ++ ')' :: more) := by
  by_cases hc : text.head? = some '^'
  · obtain ⟨text, rfl⟩ := List.head?_eq_some_iff.mp hc
    exact Prod.ext rfl (skipBlank_append h _)
  · have hmore : (text ++ ')' :: more).head? ≠ some '^' := by
      cases text with
      | nil => simp
      | cons c text => exact hc
    rw [negationOf_of_ne verbose hc, negationOf_of_ne verbose hmore]

/-- The named class that begins with its name, the colon and the negation before it aside. -/
def classOfName? (negated : Bool) (text : List Char) : Option (ClassSet × List Char) :=
  match text.span (· ≠ ':') with
  | (name, ':' :: ']' :: rest) =>
    (AsciiClass.ofName? (String.ofList name)).map (fun cls => (.ascii negated cls, rest))
  | _ => none

theorem classOfName?_suffix {negated : Bool} {text rest : List Char} {set : ClassSet}
    (h : classOfName? negated text = some (set, rest)) : rest <:+ text := by
  have hspan := span_suffix (· ≠ ':') text
  unfold classOfName? at h
  split at h
  · rename_i name left heq
    rw [heq] at hspan
    obtain ⟨cls, -, heq⟩ := Option.map_eq_some_iff.mp h
    cases heq
    exact ((List.suffix_cons _ _).trans (List.suffix_cons _ _)).trans hspan
  · cases h

theorem classOfName?_append (negated : Bool) (text more : List Char) :
    classOfName? negated (text ++ ')' :: more) =
      (classOfName? negated text).map (fun (set, rest) => (set, rest ++ ')' :: more)) := by
  cases hspan : text.span (· ≠ ':') with
  | mk name rest =>
    cases rest with
    | nil =>
      -- The name goes on beyond the parenthesis, which no name has.
      have hleft : classOfName? negated text = none := by simp only [classOfName?, hspan]
      rw [hleft]
      unfold classOfName?
      split
      · rename_i other left heq
        refine Option.map_eq_none_iff.mpr (Option.eq_none_iff_forall_ne_some.mpr fun cls hcls => ?_)
        refine not_mem_of_ofName? hcls ?_
        rw [List.span_eq_takeWhile_dropWhile] at hspan heq
        obtain ⟨htake, hdrop⟩ := Prod.mk.inj hspan
        have hall := congrArg List.length
          (List.takeWhile_append_dropWhile (p := fun c => decide (c ≠ ':')) (l := text))
        rw [hdrop, List.append_nil] at hall
        rw [← (Prod.mk.inj heq).1, List.takeWhile_append, if_pos hall, List.takeWhile_cons,
          if_pos (by decide)]
        simp
      · rfl
    | cons c rest =>
      have hmore := span_append hspan (')' :: more)
      unfold classOfName?
      rw [hmore, hspan]
      cases rest with
      | nil =>
        split
        · rename_i heq
          simp at heq
        · split
          · rename_i heq
            simp at heq
          · rfl
      | cons d rest =>
        by_cases hcolon : c = ':' ∧ d = ']'
        · obtain ⟨rfl, rfl⟩ := hcolon
          simp [Function.comp_def]
        · split
          · rename_i heq
            exact absurd (by simp_all) hcolon
          · split
            · rename_i heq
              exact absurd (by simp_all) hcolon
            · rfl

theorem asciiClass?_eq (text : List Char) : asciiClass? (':' :: text) =
    classOfName? (negationOf false text).1 (negationOf false text).2 := by
  by_cases hc : text.head? = some '^'
  · obtain ⟨text, rfl⟩ := List.head?_eq_some_iff.mp hc
    rfl
  · rw [negationOf_of_ne false hc]
    unfold asciiClass?
    split
    · rename_i heq
      cases heq
      split
      rename_i hsign
      split at hsign
      · exact absurd rfl hc
      · cases hsign
        rfl
    · rename_i hcolon
      exact absurd rfl (hcolon text)

theorem asciiClass?_of_head? {text : List Char} (h : text.head? ≠ some ':') :
    asciiClass? text = none := by
  unfold asciiClass?
  split
  · exact absurd rfl h
  · rfl

theorem asciiClass?_suffix {text rest : List Char} {set : ClassSet}
    (h : asciiClass? text = some (set, rest)) : rest <:+ text := by
  by_cases hcolon : text.head? = some ':'
  · obtain ⟨text, rfl⟩ := List.head?_eq_some_iff.mp hcolon
    rw [asciiClass?_eq] at h
    exact ((classOfName?_suffix h).trans (negationOf_suffix false text)).trans
      (List.suffix_cons ':' text)
  · rw [asciiClass?_of_head? hcolon] at h
    cases h

theorem asciiClass?_append (text more : List Char) : asciiClass? (text ++ ')' :: more) =
    (asciiClass? text).map (fun (set, rest) => (set, rest ++ ')' :: more)) := by
  by_cases hcolon : text.head? = some ':'
  · obtain ⟨text, rfl⟩ := List.head?_eq_some_iff.mp hcolon
    rw [List.cons_append, asciiClass?_eq, asciiClass?_eq,
      negationOf_append (by simp [Unfinished])]
    exact classOfName?_append ..
  · have hmore : (text ++ ')' :: more).head? ≠ some ':' := by
      cases text with
      | nil => simp
      | cons c text => exact hcolon
    rw [asciiClass?_of_head? hcolon, asciiClass?_of_head? hmore]
    rfl

/-! ## The start of a class -/

/-- The hyphens that a class starts with, and what is left behind them. -/
def hyphensOf (verbose : Bool) (text : List Char) : List Char × List Char :=
  if verbose then collect true (· ≠ '-') text else text.span (· = '-')

theorem hyphensOf_suffix (verbose : Bool) (text : List Char) :
    (hyphensOf verbose text).2 <:+ text := by
  cases verbose with
  | true => exact collectFrom_suffix true (· ≠ '-') false text
  | false => exact span_suffix (· = '-') text

theorem hyphensOf_append {verbose : Bool} {text hyphens rest : List Char} {c : Char}
    (h : hyphensOf verbose text = (hyphens, c :: rest)) (more : List Char) :
    hyphensOf verbose (text ++ more) = (hyphens, c :: (rest ++ more)) := by
  cases verbose with
  | true => exact collectFrom_append h more
  | false => exact span_append h more

/-- What a class starts with, from the hyphens there and what is left behind them. -/
def openingOf (negated : Bool) (hyphens left : List Char) :
    Except Error (Bool × List ClassSet × List Char) :=
  match hyphens, left with
  | _, [] => .error .classUnclosed
  | [], ']' :: rest => .ok (negated, [.range ']' ']'], rest)
  | _, left => .ok (negated, hyphens.map (fun _ => .range '-' '-'), left)

theorem openingOf_cons (negated : Bool) (hyphens rest : List Char) (c : Char) :
    openingOf negated hyphens (c :: rest) =
      if hyphens = [] ∧ c = ']' then .ok (negated, [.range ']' ']'], rest)
      else .ok (negated, hyphens.map (fun _ => .range '-' '-'), c :: rest) := by
  unfold openingOf
  split <;> simp_all

theorem classStart_eq (verbose : Bool) (text : List Char) : classStart verbose text =
    openingOf (negationOf verbose (skipBlank verbose text)).1
      (hyphensOf verbose (negationOf verbose (skipBlank verbose text)).2).1
      (hyphensOf verbose (negationOf verbose (skipBlank verbose text)).2).2 :=
  rfl

theorem classStart_suffix {verbose negated : Bool} {text rest : List Char} {items : List ClassSet}
    (h : classStart verbose text = .ok (negated, items, rest)) : rest <:+ text := by
  refine List.IsSuffix.trans ?_ (((hyphensOf_suffix verbose _).trans
    (negationOf_suffix verbose (skipBlank verbose text))).trans (skipBlank_suffix verbose text))
  rw [classStart_eq] at h
  cases hleft : (hyphensOf verbose (negationOf verbose (skipBlank verbose text)).2).2 with
  | nil =>
    rw [hleft] at h
    cases h
  | cons c left =>
    rw [hleft, openingOf_cons] at h
    split at h <;> cases h
    · exact List.suffix_cons c _
    · exact List.suffix_refl _

theorem classStart_append {verbose negated : Bool} {text rest : List Char} {items : List ClassSet}
    (h : classStart verbose text = .ok (negated, items, rest)) (more : List Char) :
    classStart verbose (text ++ ')' :: more) = .ok (negated, items, rest ++ ')' :: more) := by
  rw [classStart_eq] at h ⊢
  cases hhyphens : hyphensOf verbose (negationOf verbose (skipBlank verbose text)).2 with
  | mk hyphens left =>
    rw [hhyphens] at h
    cases left with
    | nil => cases h
    | cons c left =>
      have hne : (negationOf verbose (skipBlank verbose text)).2 ≠ [] := by
        intro hnil
        have hsuffix := hyphensOf_suffix verbose (negationOf verbose (skipBlank verbose text)).2
        rw [hhyphens, hnil] at hsuffix
        exact List.cons_ne_nil c left (List.suffix_nil.mp hsuffix)
      have hne' : skipBlank verbose text ≠ [] := by
        intro hnil
        have hsuffix := negationOf_suffix verbose (skipBlank verbose text)
        rw [hnil] at hsuffix hne
        exact hne (List.suffix_nil.mp hsuffix)
      rw [skipBlank_append (fun _ => hne'), negationOf_append (fun _ => hne),
        hyphensOf_append hhyphens]
      simp only [openingOf_cons] at h ⊢
      split at h <;> rename_i hbracket <;> cases h
      · rw [if_pos hbracket]
      · rw [if_neg hbracket]
        rfl

/-! ## The body of a class -/

theorem setOperator?_suffix {text rest : List Char} {operator : SetOperator}
    (h : setOperator? text = some (operator, rest)) : rest <:+ text := by
  unfold setOperator? at h
  split at h <;> cases h <;> exact (List.suffix_cons _ _).trans (List.suffix_cons _ _)

theorem setOperator?_append {text : List Char} (h : text ≠ []) (more : List Char) :
    setOperator? (text ++ ')' :: more) =
      (setOperator? text).map (fun (operator, rest) => (operator, rest ++ ')' :: more)) := by
  obtain ⟨c, text, rfl⟩ := List.exists_cons_of_ne_nil h
  cases text with
  | nil => unfold setOperator?; split <;> simp_all
  | cons d text => unfold setOperator?; split <;> simp_all

theorem unfinished_of_classBody {verbose : Bool} {rounds : Nat}
    {pending : Option (SetOperator × ClassSet)} {items : List ClassSet} {text : List Char}
    {result : ClassSet × List Char}
    (h : classBody verbose rounds pending items text = .ok result) : Unfinished verbose text := by
  cases rounds with
  | zero => cases h
  | succ rounds =>
    rintro - rfl
    cases verbose <;> cases h

/-- As a class is read, what is left gets shorter, a closing parenthesis behind it is not looked at,
and rounds that are left over are not missed. -/
theorem classBody_splices (verbose : Bool) (rounds : Nat)
    (pending : Option (SetOperator × ClassSet)) (items : List ClassSet) (text : List Char)
    {body : ClassSet} {rest : List Char}
    (h : classBody verbose rounds pending items text = .ok (body, rest)) :
    rest <:+ text ∧ ∀ more rounds', rounds ≤ rounds' →
      classBody verbose rounds' pending items (text ++ ')' :: more) =
        .ok (body, rest ++ ')' :: more) := by
  induction rounds generalizing pending items text body rest with
  | zero => cases h
  | succ rounds ih =>
    have hskip := skipBlank_suffix verbose text
    rw [classBody] at h
    refine ⟨?_, fun more rounds' hrounds => ?_⟩
    · split at h
      · cases h
      · rename_i left hshown
        cases h
        rw [hshown] at hskip
        exact (List.suffix_cons _ _).trans hskip
      · rename_i left hshown
        rw [hshown] at hskip
        have hleft := (List.suffix_cons '[' left).trans hskip
        split at h
        · rename_i cls behind hcls
          exact ((ih _ _ _ h).1.trans (asciiClass?_suffix hcls)).trans hleft
        · obtain ⟨⟨negated, first, inner⟩, hstart, h⟩ := bind_eq_ok.mp h
          obtain ⟨⟨class', behind⟩, hbody, h⟩ := bind_eq_ok.mp h
          exact (((ih _ _ _ h).1.trans (ih _ _ _ hbody).1).trans (classStart_suffix hstart)).trans
            hleft
      · rename_i hbracket hopening
        split at h
        · rename_i operator behind hoperator
          exact ((ih _ _ _ h).1.trans (setOperator?_suffix hoperator)).trans hskip
        · obtain ⟨⟨item, behind⟩, hitem, h⟩ := bind_eq_ok.mp h
          exact ((ih _ _ _ h).1.trans ((splices_classItem verbose).suffix hitem)).trans hskip
    · obtain ⟨rounds', rfl⟩ : ∃ n, rounds' = n + 1 := ⟨rounds' - 1, by omega⟩
      replace hrounds := Nat.le_of_succ_le_succ hrounds
      rw [classBody]
      split at h
      · cases h
      · rename_i left hshown
        cases h
        simp only [skipBlank_append_of_eq hshown]
      · rename_i left hshown
        simp only [skipBlank_append_of_eq hshown, asciiClass?_append]
        split at h
        · rename_i cls behind hcls
          simp only [hcls, Option.map_some]
          exact (ih _ _ _ h).2 more _ hrounds
        · rename_i hcls
          obtain ⟨⟨negated, first, inner⟩, hstart, h⟩ := bind_eq_ok.mp h
          obtain ⟨⟨class', behind⟩, hbody, h⟩ := bind_eq_ok.mp h
          simp only [hcls, Option.map_none]
          exact bind_eq_ok.mpr ⟨_, classStart_append hstart more,
            bind_eq_ok.mpr ⟨_, (ih _ _ _ hbody).2 more _ hrounds, (ih _ _ _ h).2 more _ hrounds⟩⟩
      · rename_i hnil hbracket hopening
        obtain ⟨c, shown, hshown⟩ := List.exists_cons_of_ne_nil hnil
        rw [hshown] at h hbracket hopening
        have hc : c ≠ ']' := fun hc => hbracket shown (by rw [hc])
        have hc' : c ≠ '[' := fun hc => hopening shown (by rw [hc])
        have hoperators := setOperator?_append (List.cons_ne_nil c shown) more
        rw [List.cons_append] at hoperators
        simp only [skipBlank_append_of_eq hshown]
        split <;> rename_i heq
        · cases heq
        · exact absurd (List.cons.inj heq).1 hc
        · exact absurd (List.cons.inj heq).1 hc'
        · rw [hoperators]
          split at h
          · rename_i operator behind hoperator
            simp only [hoperator, Option.map_some]
            exact (ih _ _ _ h).2 more _ hrounds
          · rename_i hoperator
            obtain ⟨⟨item, behind⟩, hitem, h⟩ := bind_eq_ok.mp h
            have hmore := (splices_classItem verbose).splice hitem (unfinished_of_classBody h) more
            rw [List.cons_append] at hmore
            simp only [hoperator, Option.map_none]
            exact bind_eq_ok.mpr ⟨_, hmore, (ih _ _ _ h).2 more _ hrounds⟩

theorem splices_ofBracket (verbose : Bool) :
    Splices (Atom.ofBracket verbose) (fun _ _ => True) where
  suffix {text a rest} h := by
    obtain ⟨⟨negated, items, inner⟩, hstart, h⟩ := bind_eq_ok.mp h
    obtain ⟨⟨body, left⟩, hbody, h⟩ := bind_eq_ok.mp h
    cases h
    exact (classBody_splices verbose _ none _ inner hbody).1.trans (classStart_suffix hstart)
  splice {text a rest} h _ more := by
    obtain ⟨⟨negated, items, inner⟩, hstart, h⟩ := bind_eq_ok.mp h
    obtain ⟨⟨body, left⟩, hbody, h⟩ := bind_eq_ok.mp h
    cases h
    have hmore := (classBody_splices verbose _ none _ inner hbody).2 more
      (text ++ ')' :: more).length (by simp)
    exact bind_eq_ok.mpr ⟨_, classStart_append hstart more, bind_eq_ok.mpr ⟨_, hmore, rfl⟩⟩

end RouteChain.Regex
