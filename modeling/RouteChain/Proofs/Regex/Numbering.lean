import RouteChain.Proofs.Regex.Groups

/-!
# Numbering the groups of an expression

The groups of an expression are numbered in the order in which they open. Where it stands within
another one, all of them are numbered higher by the groups that open before it, and nothing else
about it changes: normal forms only ask whether expressions are equal, not how their groups are
numbered.

## Main definitions

* `Ast.shift`, `Expr.shift` — a syntax tree and an expression with their groups numbered higher.

The main result is `denotes_enclosed`.
-/

namespace RouteChain.Regex

/-! ## Expressions -/

namespace Expr

/-- The expression with its groups numbered higher by `k`. -/
def shift (k : Nat) : Expr → Expr
  | .empty => .empty
  | .letter set => .letter set
  | .assertion place => .assertion place
  | .cat x y => .cat (x.shift k) (y.shift k)
  | .alt x y => .alt (x.shift k) (y.shift k)
  | .repetition min max greedy x => .repetition min max greedy (x.shift k)
  | .group index x => .group (index + k) (x.shift k)

variable (k : Nat)

theorem groups_shift (x : Expr) : (x.shift k).groups = x.groups.map (· + k) := by
  induction x with
  | cat x y ihx ihy | alt x y ihx ihy => simp only [shift, groups, ihx, ihy, List.map_append]
  | repetition min max greedy x ih => exact ih
  | group index x ih => simp only [shift, groups, ih, List.map_cons]
  | _ => rfl

/-- Without groups there is nothing to be numbered. -/
theorem shift_eq_self {x : Expr} (h : x.groups = []) : x.shift k = x := by
  induction x with
  | cat x y ihx ihy | alt x y ihx ihy =>
    obtain ⟨hx, hy⟩ := List.append_eq_nil_iff.mp h
    rw [shift, ihx hx, ihy hy]
  | repetition min max greedy x ih => rw [shift, ih h]
  | group index x => cases h
  | _ => rfl

theorem shift_injective : Function.Injective (shift k) := by
  intro x y h
  induction x generalizing y with
  | cat x x' ih ih' | alt x x' ih ih' =>
    cases y <;> simp only [shift, reduceCtorEq, cat.injEq, alt.injEq] at h ⊢
    exact ⟨ih h.1, ih' h.2⟩
  | repetition min max greedy x ih =>
    cases y <;> simp only [shift, reduceCtorEq, repetition.injEq] at h ⊢
    exact ⟨h.1, h.2.1, h.2.2.1, ih h.2.2.2⟩
  | group index x ih =>
    cases y <;> simp only [shift, reduceCtorEq, group.injEq] at h ⊢
    exact ⟨Nat.add_right_cancel h.1, ih h.2⟩
  | _ => cases y <;> simp_all [shift]

/-! ### Sequences and choices -/

theorem parts_shift (x : Expr) : (x.shift k).parts = x.parts.map (shift k) := by
  induction x with
  | cat x y ihx ihy => simp only [shift, parts, ihx, ihy, List.map_append]
  | _ => rfl

theorem options_shift (x : Expr) : (x.shift k).options = x.options.map (shift k) := by
  induction x with
  | alt x y ihx ihy => simp only [shift, options, ihx, ihy, List.map_append]
  | _ => rfl

theorem ofParts_map_shift (xs : List Expr) : ofParts (xs.map (shift k)) = (ofParts xs).shift k := by
  induction xs with
  | nil => rfl
  | cons x xs ih =>
    cases xs with
    | nil => rfl
    | cons y xs =>
      rw [ofParts_cons_cons, shift, ← ih]
      rfl

theorem ofOptions_map_shift (xs : List Expr) :
    ofOptions (xs.map (shift k)) = (ofOptions xs).shift k := by
  induction xs with
  | nil => rfl
  | cons x xs ih =>
    cases xs with
    | nil => rfl
    | cons y xs => exact congrArg (alt (x.shift k)) ih

theorem append_shift (x y : Expr) : (x.append y).shift k = (x.shift k).append (y.shift k) := by
  induction x with
  | empty => rfl
  | cat x x' _ ih => simp only [append, shift, ih]
  | _ => cases y <;> rfl

theorem set?_shift (x : Expr) : (x.shift k).set? = x.set? := by
  cases x <;> rfl

theorem isLiteral_shift (x : Expr) : (x.shift k).isLiteral = x.isLiteral := by
  cases x <;> rfl

theorem chunks_map_shift (xs : List Expr) :
    chunks (xs.map (shift k)) = (chunks xs).map (List.map (shift k)) := by
  induction xs with
  | nil => rfl
  | cons x xs ih =>
    rw [List.map_cons, chunks, chunks, ih]
    rcases chunks xs with _ | ⟨_ | ⟨y, ys⟩, rest⟩
    · rfl
    · rfl
    · simp only [List.map_cons, isLiteral_shift]
      split <;> rfl

theorem commonStart_map_shift (xs ys : List (List Expr)) :
    commonStart (xs.map (List.map (shift k))) (ys.map (List.map (shift k))) =
      (commonStart xs ys).map (List.map (shift k)) := by
  have hinjective : Function.Injective (List.map (shift k)) :=
    List.map_injective_iff.mpr (shift_injective k)
  induction xs generalizing ys with
  | nil => rfl
  | cons x xs ih =>
    cases ys with
    | nil => rfl
    | cons y ys =>
      simp only [List.map_cons, commonStart, hinjective.eq_iff]
      split
      · rw [ih, List.map_cons]
      · rfl

theorem sharedStart_map_shift (options : List (List (List Expr))) :
    sharedStart (options.map (List.map (List.map (shift k)))) =
      (sharedStart options).map (List.map (shift k)) := by
  have hfold (start : List (List Expr)) (others : List (List (List Expr))) :
      (others.map (List.map (List.map (shift k)))).foldl commonStart
          (start.map (List.map (shift k))) =
        (others.foldl commonStart start).map (List.map (shift k)) := by
    induction others generalizing start with
    | nil => rfl
    | cons other others ih =>
      rw [List.map_cons, List.foldl_cons, commonStart_map_shift, ih, List.foldl_cons]
  have hlong : (options.map (List.map (List.map (shift k)))).all (fun chunks => 1 < chunks.length) =
      options.all (fun chunks => 1 < chunks.length) := by
    simp [List.all_map, Function.comp_def]
  cases options with
  | nil => rfl
  | cons first others =>
    rw [List.map_cons] at hlong ⊢
    simp only [sharedStart]
    rw [hlong, hfold]
    split <;> rfl

theorem flatMap_options_map_shift (xs : List Expr) :
    (xs.map (shift k)).flatMap options = (xs.flatMap options).map (shift k) := by
  simp [List.flatMap_map, List.map_flatMap, options_shift]

/-- A choice is brought into normal form whatever the numbers of its groups are. -/
theorem choiceFrom_map_shift (rounds : Nat) (xs : List Expr) :
    choiceFrom rounds (xs.map (shift k)) = (choiceFrom rounds xs).shift k := by
  induction rounds generalizing xs with
  | zero => exact ofOptions_map_shift k xs
  | succ rounds ih =>
    have hsets (xs : List Expr) : (xs.map (shift k)).mapM set? = xs.mapM set? := by
      rw [List.mapM_map]
      exact congrArg (xs.mapM ·) (funext (set?_shift k))
    have hsplit (xs : List Expr) : (xs.map (shift k)).map (fun x => chunks x.parts) =
        (xs.map (fun x => chunks x.parts)).map (List.map (List.map (shift k))) := by
      simp [parts_shift, chunks_map_shift]
    have hremainders (count : Nat) (split : List (List (List Expr))) :
        (split.map (List.map (List.map (shift k)))).map
            (fun option => ofParts (option.drop count).flatten) =
          (split.map (fun option => ofParts (option.drop count).flatten)).map (shift k) := by
      simp [← List.map_drop, ← List.map_flatten, ofParts_map_shift]
    match xs with
    | [x] => rfl
    | [] => rfl
    | x :: y :: xs =>
      have hcons : shift k x :: shift k y :: xs.map (shift k) = (x :: y :: xs).map (shift k) := rfl
      rw [List.map_cons, List.map_cons]
      simp only [choiceFrom, hcons, hsets, hsplit, sharedStart_map_shift, List.isEmpty_map,
        List.length_map, hremainders]
      split
      · rfl
      · split
        · exact ofOptions_map_shift k _
        · rw [flatMap_options_map_shift, ih, append_shift, ← List.map_flatten, ofParts_map_shift]

theorem choice_map_shift (xs : List Expr) : choice (xs.map (shift k)) = (choice xs).shift k := by
  match xs with
  | [x] => rfl
  | [] => rfl
  | x :: y :: xs =>
    have hcons : shift k x :: shift k y :: xs.map (shift k) = (x :: y :: xs).map (shift k) := rfl
    rw [List.map_cons, List.map_cons]
    simp only [choice, hcons, flatMap_options_map_shift, choiceFrom_map_shift, List.head?_map,
      Option.map_map, Function.comp_def, parts_shift, List.length_map]

/-! ### Repetitions -/

theorem onlyEmpty_shift (x : Expr) : (x.shift k).onlyEmpty = x.onlyEmpty := by
  induction x with
  | cat x y ihx ihy | alt x y ihx ihy => simp only [shift, onlyEmpty, ihx, ihy]
  | repetition min max greedy x ih | group index x ih => exact ih
  | _ => rfl

theorem repeated_shift (min : Nat) (max : Option Nat) (greedy : Bool) (x : Expr) :
    repeated min max greedy (x.shift k) = (repeated min max greedy x).shift k := by
  unfold repeated
  rw [onlyEmpty_shift]
  split
  split
  · rfl
  · split <;> rfl

end Expr

/-! ## Syntax trees -/

def GroupKind.shift (k : Nat) : GroupKind → GroupKind
  | .capture index => .capture (index + k)
  | .flagged changes => .flagged changes

namespace Ast

def shift (k : Nat) : Ast → Ast
  | .empty => .empty
  | .setFlags changes => .setFlags changes
  | .atom a => .atom a
  | .repetition bounds body => .repetition bounds (body.shift k)
  | .group kind body => .group (kind.shift k) (body.shift k)
  | .sequence first rest => .sequence (first.shift k) (rest.shift k)
  | .choice first rest => .choice (first.shift k) (rest.shift k)

variable (k : Nat)

theorem depthFrom_shift (spine : Spine) (tree : Ast) :
    depthFrom spine (tree.shift k) = depthFrom spine tree := by
  induction tree generalizing spine with
  | atom a => rfl
  | repetition bounds body ih | group kind body ih => simp only [shift, depthFrom, ih]
  | sequence first rest ihfirst ihrest | choice first rest ihfirst ihrest =>
    simp only [shift, depthFrom, ihfirst, ihrest]
  | _ => rfl

theorem depth_shift (tree : Ast) : (tree.shift k).depth = tree.depth :=
  depthFrom_shift k .none tree

theorem ofSequence_map_shift (trees : List Ast) :
    ofSequence (trees.map (shift k)) = (ofSequence trees).shift k := by
  induction trees with
  | nil => rfl
  | cons tree trees ih =>
    cases trees with
    | nil => rfl
    | cons other trees => exact congrArg (sequence (tree.shift k)) ih

theorem ofChoice_map_shift (trees : List Ast) :
    ofChoice (trees.map (shift k)) = (ofChoice trees).shift k := by
  induction trees with
  | nil => rfl
  | cons tree trees ih =>
    cases trees with
    | nil => rfl
    | cons other trees => exact congrArg (choice (tree.shift k)) ih

namespace Level

def shift (level : Level) : Level where
  options := level.options.map (Ast.shift k)
  parts := level.parts.map (Ast.shift k)

theorem nextOption_shift (level : Level) :
    (level.shift k).nextOption = level.nextOption.shift k := by
  simp [nextOption, shift, ← List.map_reverse, ofSequence_map_shift]

theorem tree_shift (level : Level) : (level.shift k).tree = level.tree.shift k := by
  rw [tree, nextOption_shift, shift, ← List.map_reverse, ofChoice_map_shift, tree]

theorem repeated_shift (level : Level) (bounds : Bounds) :
    (level.shift k).repeated bounds = (level.repeated bounds).map (shift k) := by
  rcases level with ⟨options, _ | ⟨_ | _, parts⟩⟩ <;> rfl

end Level

/-- The tokens build the same tree whatever number of groups comes before them. -/
theorem build_shift (count : Nat) (outer : List (Level × GroupKind)) (level : Level)
    (tokens : List Token) :
    build (count + k) (outer.map (Prod.map (Level.shift k) (GroupKind.shift k))) (level.shift k)
      tokens = (build count outer level tokens).map (shift k) := by
  induction tokens generalizing count outer level with
  | nil =>
    cases outer with
    | nil => exact congrArg Except.ok (Level.tree_shift k level)
    | cons enclosing outer => rfl
  | cons token tokens ih =>
    cases token with
    | atom a | setFlags changes =>
      rw [build, build, ← ih]
      rfl
    | bar => rw [build, build, ← ih, Level.nextOption_shift]
    | repetition bounds =>
      rw [build, build, Level.repeated_shift]
      cases level.repeated bounds with
      | error cause => rfl
      | ok level => exact ih count outer level
    | openGroup head =>
      cases head with
      | capturing name =>
        have hcount : count + k + 1 = count + 1 + k := by omega
        simp only [build, kindOfHead, ← ih, hcount]
        rfl
      | flagged changes =>
        simp only [build, kindOfHead, ← ih]
        rfl
    | closeGroup =>
      cases outer with
      | nil => rfl
      | cons enclosing outer =>
        rw [build, ← ih, List.map_cons, Prod.map, build, Level.tree_shift]
        rfl

end Ast

/-- A tree writes the same options whatever the numbers of its groups are. -/
theorem Expr.optionsOfAst_shift (k : Nat) (flags : Flags) (tree : Ast) :
    optionsOfAst flags (tree.shift k) =
      (optionsOfAst flags tree).map (Prod.map (List.map (shift k)) id) := by
  induction tree generalizing flags with
  | empty | setFlags changes => rfl
  | atom a =>
    rw [Ast.shift, optionsOfAst]
    cases hx : ofAtom flags a with
    | error cause => rfl
    | ok x =>
      have hshift : x.shift k = x := shift_eq_self k (groups_ofAtom hx)
      simp [bind, Except.bind, pure, Except.pure, Except.map, hshift]
  | repetition bounds body ih =>
    rw [Ast.shift, optionsOfAst, optionsOfAst, ih]
    cases optionsOfAst flags body with
    | error cause => rfl
    | ok written =>
      simp only [Except.map, bind, Except.bind, pure, Except.pure, Prod.map, choice_map_shift,
        repeated_shift, id, List.map_cons, List.map_nil]
  | group kind body ih =>
    cases kind with
    | capture index =>
      rw [Ast.shift, GroupKind.shift, optionsOfAst, optionsOfAst, ih]
      cases optionsOfAst flags body with
      | error cause => rfl
      | ok written =>
        simp only [Except.map, bind, Except.bind, pure, Except.pure, Prod.map, choice_map_shift,
          shift, id, List.map_cons, List.map_nil]
    | flagged changes =>
      rw [Ast.shift, GroupKind.shift, optionsOfAst, optionsOfAst, ih]
      cases optionsOfAst (flags.apply changes) body with
      | error cause => rfl
      | ok written =>
        simp only [Except.map, bind, Except.bind, pure, Except.pure, Prod.map, choice_map_shift,
          id, List.map_cons, List.map_nil]
  | sequence first rest ihfirst ihrest =>
    rw [Ast.shift, optionsOfAst, optionsOfAst, ihfirst]
    cases optionsOfAst flags first with
    | error cause => rfl
    | ok written =>
      obtain ⟨options, within⟩ := written
      simp only [Except.map, bind, Except.bind, Prod.map, id, ihrest]
      cases optionsOfAst within rest with
      | error cause => rfl
      | ok others =>
        simp only [pure, Except.pure, choice_map_shift, append_shift, List.map_cons, List.map_nil]
  | choice first rest ihfirst ihrest =>
    rw [Ast.shift, optionsOfAst, optionsOfAst, ihfirst]
    cases optionsOfAst flags first with
    | error cause => rfl
    | ok written =>
      obtain ⟨options, within⟩ := written
      simp only [Except.map, bind, Except.bind, Prod.map, id, ihrest]
      cases optionsOfAst within rest with
      | error cause => rfl
      | ok others =>
        simp only [pure, Except.pure, choice_map_shift, List.map_cons]

/-! ## Texts -/

def tokensOf (text : List Char) : List Token :=
  (Token.ofText text).toOption.getD []

/-- Only groups that capture have names. -/
theorem Ast.groupNames_eq_nil {tokens : List Token} (h : Token.captureCount tokens = 0) :
    groupNames tokens = [] := by
  refine List.filterMap_eq_nil_iff.mpr fun token mem => ?_
  have hcaptures := List.countP_eq_zero.mp h token mem
  split
  · exact absurd rfl hcaptures
  · rfl

/-- A text that is an expression on its own denotes, in a group that does not capture, the same
expression with its groups numbered from there on. -/
theorem denotes_enclosed {ignoreCase : Bool} {text : List Char} {x : Expr}
    (hx : exprOf ignoreCase text = .ok x) (hescaped : ParensEscaped text) (index : Nat) :
    Denotes ignoreCase false (Ast.maxDepth + 1) index
      (index + Token.captureCount (tokensOf text)) (['(', '?', ':'] ++ text ++ [')'])
      [x.shift index] (Ast.groupNames (tokensOf text)) := by
  obtain ⟨tokens, tree, options, after, written, rfl⟩ := exists_written hx
  have htokens : tokensOf text = tokens := by rw [tokensOf, written.tokens_eq]; rfl
  obtain ⟨verbose', outer', rest, hsteps, hrest⟩ :=
    Token.steps_of_scan written.tokens_eq (Nat.le_refl _)
  have hflags := hsteps.setFlags_not_mem hescaped
  obtain ⟨rfl, hlast⟩ := hsteps.balanced hflags written.build_eq rfl
  obtain rfl := Option.some.inj hlast
  obtain rfl : rest = [] := hrest
  have hbuild : Ast.build index [] {} tokens = .ok (tree.shift index) := by
    have hshift := Ast.build_shift index 0 [] {} tokens
    rw [written.build_eq, Nat.zero_add] at hshift
    exact hshift
  rw [htokens]
  refine ⟨.openGroup (.flagged []) :: tokens ++ [.closeGroup],
    [.group (.flagged []) (tree.shift index)], ?_, ?_, ?_, ?_, .cons ⟨?_, nofun⟩ .nil⟩
  · intro outer rest _
    have hinner : Token.Steps false (false :: outer) (text ++ ')' :: rest) tokens false
        (false :: outer) (')' :: rest) := hsteps.splice hflags (false :: outer) rest
    have hclose : Token.Steps false (false :: outer) (')' :: rest) [.closeGroup] false outer rest :=
      .one rfl (by simp) rfl
    rw [List.append_assoc, List.append_assoc, List.singleton_append]
    refine .cons rfl rfl ?_ rfl (hinner.append hclose)
    change (text ++ ')' :: rest).length < (text ++ ')' :: rest).length + 3
    omega
  · intro outer level rest
    rw [List.append_assoc, List.singleton_append, List.cons_append, Ast.build]
    exact Ast.build_enclosed hbuild level (.flagged []) outer rest
  · rw [Ast.groupNames, List.filterMap_append]
    exact List.append_nil _
  · intro tree' mem
    obtain rfl := List.mem_singleton.mp mem
    rw [Ast.depth, Ast.depthFrom, ← Ast.depth, Ast.depth_shift]
    exact Nat.succ_le_succ written.depth_le
  · have hnone : Flags.apply { ignoreCase } [] = { ignoreCase } := rfl
    simp only [Expr.optionsOfAst, hnone, Expr.optionsOfAst_shift, written.options_eq, Except.map,
      bind, Except.bind, pure, Except.pure, Prod.map, id, Expr.choice_map_shift]

end RouteChain.Regex
