import RouteChain.Proofs.Regex.Forward
import RouteChain.Proofs.Regex.Standalone

/-!
# The groups of an expression

Normal forms rearrange an expression, but no group gets into it that was not written. So the groups
of an expression are among those that its text opens.

## Main definitions

* `Ast.captures` — the indices of the capturing groups in a syntax tree.

The main result is `of_mem_groups_exprOf`.
-/

namespace RouteChain.Regex

namespace Expr

/-! ## Sequences -/

theorem groups_append (x y : Expr) : (x.append y).groups = x.groups ++ y.groups := by
  induction x with
  | empty => rfl
  | cat x x' _ ih => simp only [append, groups, ih, List.append_assoc]
  | _ => cases y <;> simp [append, groups]

theorem groups_sequence (xs : List Expr) : (sequence xs).groups = xs.flatMap groups := by
  induction xs with
  | nil => rfl
  | cons x xs ih =>
    rw [sequence, List.foldr_cons, groups_append, List.flatMap_cons, ← ih]
    rfl

theorem groups_ofParts (xs : List Expr) : (ofParts xs).groups = xs.flatMap groups := by
  induction xs with
  | nil => rfl
  | cons x xs ih =>
    cases xs with
    | nil => simp [ofParts]
    | cons y xs => rw [ofParts_cons_cons, groups, ih, ← List.flatMap_cons]

theorem flatMap_groups_parts (x : Expr) : x.parts.flatMap groups = x.groups := by
  induction x with
  | cat x y ihx ihy => rw [parts, List.flatMap_append, ihx, ihy, groups]
  | _ => simp [parts, groups]

/-! ## Choices -/

theorem flatMap_groups_options (x : Expr) : x.options.flatMap groups = x.groups := by
  induction x with
  | alt x y ihx ihy => rw [options, List.flatMap_append, ihx, ihy, groups]
  | _ => simp [options, groups]

theorem groups_ofOptions (xs : List Expr) : (ofOptions xs).groups = xs.flatMap groups := by
  induction xs with
  | nil => rfl
  | cons x xs ih =>
    cases xs with
    | nil => simp [ofOptions]
    | cons y xs =>
      have hcons : ofOptions (x :: y :: xs) = .alt x (ofOptions (y :: xs)) := rfl
      rw [hcons, groups, ih, ← List.flatMap_cons]

theorem flatten_chunks (xs : List Expr) : (chunks xs).flatten = xs := by
  induction xs with
  | nil => rfl
  | cons x xs ih =>
    rw [chunks]
    split
    · rename_i y ys rest hchunks
      rw [hchunks] at ih
      split <;> simp [← ih]
    · rename_i rest hchunks
      simp [ih]

theorem prefix_commonStart (xs ys : List (List Expr)) : commonStart xs ys <+: xs := by
  induction xs generalizing ys with
  | nil => simp [commonStart]
  | cons x xs ih =>
    cases ys with
    | nil => simp [commonStart]
    | cons y ys =>
      rw [commonStart]
      split
      · exact List.cons_prefix_cons.mpr ⟨rfl, ih ys⟩
      · exact List.nil_prefix

theorem prefix_foldl_commonStart (start : List (List Expr)) (options : List (List (List Expr))) :
    options.foldl commonStart start <+: start := by
  induction options generalizing start with
  | nil => exact List.prefix_rfl
  | cons option options ih =>
    exact (ih (commonStart start option)).trans (prefix_commonStart start option)

/-- What all options share is the start of one of them. -/
theorem prefix_sharedStart (options : List (List (List Expr))) :
    sharedStart options = [] ∨ ∃ option ∈ options, sharedStart options <+: option := by
  unfold sharedStart
  split
  · exact .inl rfl
  · rename_i first others
    split
    · exact .inr ⟨first, List.mem_cons_self, prefix_foldl_commonStart first others⟩
    · exact .inl rfl

/-- The chunks of an option hold no groups but its own. -/
theorem mem_of_mem_chunks {x : Expr} {some : List (List Expr)} {index : Nat}
    (h : some ⊆ chunks x.parts) (mem : index ∈ some.flatten.flatMap groups) :
    index ∈ x.groups := by
  obtain ⟨part, hpart, hindex⟩ := List.mem_flatMap.mp mem
  obtain ⟨chunk, hchunk, hpart⟩ := List.mem_flatten.mp hpart
  have hparts : part ∈ (chunks x.parts).flatten := List.mem_flatten.mpr ⟨chunk, h hchunk, hpart⟩
  rw [flatten_chunks] at hparts
  rw [← flatMap_groups_parts]
  exact List.mem_flatMap.mpr ⟨part, hparts, hindex⟩

/-- A choice has no groups but those of its options. -/
theorem groups_choiceFrom_subset (rounds : Nat) (xs : List Expr) :
    (choiceFrom rounds xs).groups ⊆ xs.flatMap groups := by
  induction rounds generalizing xs with
  | zero => exact (groups_ofOptions xs) ▸ List.Subset.refl _
  | succ rounds ih =>
    intro index mem
    unfold choiceFrom at mem
    split at mem
    · simpa using mem
    · split at mem
      · cases mem
      · dsimp only at mem
        split at mem
        · rwa [groups_ofOptions] at mem
        · rw [groups_append, List.mem_append, groups_ofParts] at mem
          rcases mem with mem | mem
          · rcases prefix_sharedStart (xs.map (fun x => chunks x.parts)) with
              hnil | ⟨_, hoption, hstart⟩
            · rw [hnil] at mem
              cases mem
            · obtain ⟨x, hx, rfl⟩ := List.mem_map.mp hoption
              exact List.mem_flatMap.mpr ⟨x, hx, mem_of_mem_chunks hstart.subset mem⟩
          · obtain ⟨option, hoption, hindex⟩ := List.mem_flatMap.mp (ih _ mem)
            obtain ⟨remainder, hremainder, hmem⟩ := List.mem_flatMap.mp hoption
            obtain ⟨_, hsplit, rfl⟩ := List.mem_map.mp hremainder
            obtain ⟨x, hx, rfl⟩ := List.mem_map.mp hsplit
            have hgroups := List.mem_flatMap.mpr ⟨option, hmem, hindex⟩
            rw [flatMap_groups_options, groups_ofParts] at hgroups
            exact List.mem_flatMap.mpr
              ⟨x, hx, mem_of_mem_chunks (List.drop_subset _ _) hgroups⟩

theorem groups_choice_subset (xs : List Expr) : (choice xs).groups ⊆ xs.flatMap groups := by
  unfold choice
  split
  · simp
  · refine List.Subset.trans (groups_choiceFrom_subset _ _) ?_
    rw [List.flatMap_assoc]
    simp [flatMap_groups_options]

/-! ## Repetitions -/

theorem groups_repeated_subset (min : Nat) (max : Option Nat) (greedy : Bool) (x : Expr) :
    (repeated min max greedy x).groups ⊆ x.groups := by
  unfold repeated
  split
  split
  · exact List.nil_subset _
  · split
    · exact List.Subset.refl _
    · exact List.Subset.refl _

/-- The groups are numbered up to the number of groups. -/
theorem groupCount_eq (x : Expr) : x.groupCount = x.groups.foldr max 0 := by
  induction x with
  | cat x y ihx ihy | alt x y ihx ihy => rw [groupCount, groups, ihx, ihy, foldr_max_append]
  | repetition min max greedy x ih => exact ih
  | group index x ih => rw [groupCount, groups, ih, List.foldr_cons]
  | _ => rfl

theorem le_groupCount {x : Expr} {index : Nat} (mem : index ∈ x.groups) : index ≤ x.groupCount := by
  rw [groupCount_eq]
  generalize x.groups = indices at mem
  induction indices with
  | nil => cases mem
  | cons first indices ih =>
    rw [List.foldr_cons]
    rcases List.mem_cons.mp mem with rfl | mem
    · exact Nat.le_max_left _ _
    · exact Nat.le_trans (ih mem) (Nat.le_max_right _ _)

end Expr

/-! ## Syntax trees -/

namespace Ast

/-- The indices of the capturing groups in a syntax tree. -/
def captures : Ast → List Nat
  | .empty | .setFlags _ | .atom _ => []
  | .repetition _ body => body.captures
  | .group (.capture index) body => index :: body.captures
  | .group (.flagged _) body => body.captures
  | .sequence first rest | .choice first rest => first.captures ++ rest.captures

theorem captures_ofSequence (trees : List Ast) :
    (ofSequence trees).captures = trees.flatMap captures := by
  induction trees with
  | nil => rfl
  | cons tree trees ih =>
    cases trees with
    | nil => simp [ofSequence]
    | cons other trees =>
      have hcons : ofSequence (tree :: other :: trees) =
          .sequence tree (ofSequence (other :: trees)) := rfl
      rw [hcons, captures, ih, ← List.flatMap_cons]

theorem captures_ofChoice (trees : List Ast) :
    (ofChoice trees).captures = trees.flatMap captures := by
  induction trees with
  | nil => rfl
  | cons tree trees ih =>
    cases trees with
    | nil => simp [ofChoice]
    | cons other trees =>
      have hcons : ofChoice (tree :: other :: trees) =
          .choice tree (ofChoice (other :: trees)) := rfl
      rw [hcons, captures, ih, ← List.flatMap_cons]

end Ast

theorem Expr.groups_ofAtom {flags : Flags} {a : Atom} {x : Expr} (h : ofAtom flags a = .ok x) :
    x.groups = [] := by
  cases a with
  | anchor place =>
    cases h
    rfl
  | literal c byte =>
    simp only [ofAtom] at h
    split at h
    · obtain ⟨_, -, h⟩ := bind_eq_ok.mp h
      cases h
      rfl
    · cases h
      rfl
  | dot | short negated name | query negated q | bracketed negated body =>
    obtain ⟨_, -, h⟩ := bind_eq_ok.mp h
    cases h
    rfl

/-- An expression has no groups but those of the tree that writes it. -/
theorem Expr.groups_optionsOfAst_subset {flags after : Flags} {tree : Ast} {options : List Expr}
    (h : optionsOfAst flags tree = .ok (options, after)) :
    options.flatMap groups ⊆ tree.captures := by
  induction tree generalizing flags after options with
  | empty | setFlags changes =>
    cases h
    exact List.nil_subset _
  | atom a =>
    obtain ⟨x, hx, h⟩ := bind_eq_ok.mp h
    cases h
    simp [groups_ofAtom hx]
  | repetition bounds body ih =>
    obtain ⟨⟨inner, within⟩, hinner, h⟩ := bind_eq_ok.mp h
    cases h
    rw [List.flatMap_singleton]
    exact List.Subset.trans (groups_repeated_subset ..)
      (List.Subset.trans (groups_choice_subset inner) (ih hinner))
  | group kind body ih =>
    cases kind with
    | capture index =>
      obtain ⟨⟨inner, within⟩, hinner, h⟩ := bind_eq_ok.mp h
      cases h
      rw [List.flatMap_singleton]
      exact List.cons_subset_cons index (List.Subset.trans (groups_choice_subset inner) (ih hinner))
    | flagged changes =>
      obtain ⟨⟨inner, within⟩, hinner, h⟩ := bind_eq_ok.mp h
      cases h
      rw [List.flatMap_singleton]
      exact List.Subset.trans (groups_choice_subset inner) (ih hinner)
  | sequence first rest ihfirst ihrest =>
    obtain ⟨⟨options, within⟩, hfirst, h⟩ := bind_eq_ok.mp h
    obtain ⟨⟨others, behind⟩, hrest, h⟩ := bind_eq_ok.mp h
    cases h
    rw [List.flatMap_singleton, groups_append]
    have hoptions := List.Subset.trans (groups_choice_subset options) (ihfirst hfirst)
    have hothers := List.Subset.trans (groups_choice_subset others) (ihrest hrest)
    exact List.append_subset.mpr
      ⟨List.subset_append_of_subset_left _ hoptions, List.subset_append_of_subset_right _ hothers⟩
  | choice first rest ihfirst ihrest =>
    obtain ⟨⟨options, within⟩, hfirst, h⟩ := bind_eq_ok.mp h
    obtain ⟨⟨others, behind⟩, hrest, h⟩ := bind_eq_ok.mp h
    cases h
    rw [List.flatMap_cons]
    have hoptions := List.Subset.trans (groups_choice_subset options) (ihfirst hfirst)
    exact List.append_subset.mpr ⟨List.subset_append_of_subset_left _ hoptions,
      List.subset_append_of_subset_right _ (ihrest hrest)⟩

/-! ## Building trees -/

namespace Ast

def Level.captures (level : Level) : List Nat :=
  level.options.flatMap Ast.captures ++ level.parts.flatMap Ast.captures

section

variable {level level' : Level} {index : Nat}

theorem Level.mem_captures_push {part : Ast} :
    index ∈ (level.push part).captures ↔ index ∈ part.captures ∨ index ∈ level.captures := by
  simp only [captures, push, List.flatMap_cons, List.mem_append]
  tauto

theorem Level.mem_captures_nextOption :
    index ∈ level.nextOption.captures ↔ index ∈ level.captures := by
  simp only [captures, nextOption, List.flatMap_cons, captures_ofSequence, List.flatMap_nil,
    List.append_nil, List.mem_append, List.mem_flatMap, List.mem_reverse]
  exact or_comm

theorem Level.mem_captures_tree : index ∈ level.tree.captures ↔ index ∈ level.captures := by
  have hparts : level.nextOption.parts.flatMap Ast.captures = [] := rfl
  rw [← mem_captures_nextOption, captures, hparts, List.append_nil, tree, captures_ofChoice]
  simp only [List.mem_flatMap, List.mem_reverse]

theorem Level.captures_repeated {bounds : Bounds} (h : level.repeated bounds = .ok level') :
    level'.captures = level.captures := by
  unfold repeated at h
  split at h
  · cases h
  · cases h
  · rename_i part parts _ hparts
    cases h
    simp [captures, hparts, Ast.captures]

end

/-- The groups that are built are numbered from those before them on, and there are no others than
those that the tokens open. -/
theorem forall_captures_build {P : Nat → Prop} {count : Nat} {levels : List (Level × GroupKind)}
    {level : Level} {tokens : List Token} {tree : Ast}
    (h : build count levels level tokens = .ok tree)
    (hnew : ∀ index, count < index → index ≤ count + Token.captureCount tokens → P index)
    (hlevel : ∀ index ∈ level.captures, P index)
    (hlevels : ∀ enclosing ∈ levels, (∀ index ∈ enclosing.1.captures, P index) ∧
      ∀ index, enclosing.2 = .capture index → P index) :
    ∀ index ∈ tree.captures, P index := by
  have hempty : ∀ index ∈ Level.captures {}, P index := by simp [Level.captures]
  induction tokens generalizing count levels level with
  | nil =>
    cases levels with
    | nil =>
      cases h
      exact fun index mem => hlevel index (Level.mem_captures_tree.mp mem)
    | cons enclosing levels => cases h
  | cons token tokens ih =>
    rw [Token.captureCount_cons] at hnew
    have hpush {part : Ast} (hpart : ∀ index ∈ part.captures, P index) {level : Level}
        (hlevel : ∀ index ∈ level.captures, P index) :
        ∀ index ∈ (level.push part).captures, P index :=
      fun index mem => (Level.mem_captures_push.mp mem).elim (hpart index) (hlevel index)
    cases token with
    | atom a | setFlags changes =>
      rw [build] at h
      exact ih h hnew (hpush (by simp [Ast.captures]) hlevel) hlevels
    | bar =>
      rw [build] at h
      exact ih h hnew (fun index mem => hlevel index (Level.mem_captures_nextOption.mp mem)) hlevels
    | repetition bounds =>
      rw [build] at h
      obtain ⟨level', hlevel', h⟩ := bind_eq_ok.mp h
      exact ih h hnew (by rwa [Level.captures_repeated hlevel']) hlevels
    | openGroup head =>
      rw [build] at h
      cases head with
      | capturing name =>
        have hopen : Token.captures (.openGroup (.capturing name)) = true := rfl
        rw [if_pos hopen] at hnew
        refine ih h (fun index hlt hle => hnew index (by omega) (by omega)) hempty
          (List.forall_mem_cons.mpr ⟨⟨hlevel, fun index heq => ?_⟩, hlevels⟩)
        cases heq
        exact hnew _ (by omega) (by omega)
      | flagged changes =>
        refine ih h hnew hempty
          (List.forall_mem_cons.mpr ⟨⟨hlevel, fun index heq => ?_⟩, hlevels⟩)
        cases heq
    | closeGroup =>
      cases levels with
      | nil => cases h
      | cons enclosing levels =>
        obtain ⟨enclosing, kind⟩ := enclosing
        obtain ⟨⟨henclosing, hkind⟩, houter⟩ := List.forall_mem_cons.mp hlevels
        rw [build] at h
        refine ih h hnew (hpush (fun index mem => ?_) henclosing) houter
        cases kind with
        | capture number =>
          rcases List.mem_cons.mp mem with rfl | mem
          · exact hkind index rfl
          · exact hlevel index (Level.mem_captures_tree.mp mem)
        | flagged changes => exact hlevel index (Level.mem_captures_tree.mp mem)

end Ast

/-- The groups of an expression are numbered from one on, and are no others than those that its text
opens. -/
theorem of_mem_groups_exprOf {ignoreCase : Bool} {text : List Char} {x : Expr}
    {tokens : List Token} (hx : exprOf ignoreCase text = .ok x)
    (htokens : Token.ofText text = .ok tokens) {index : Nat} (mem : index ∈ x.groups) :
    0 < index ∧ index ≤ Token.captureCount tokens := by
  obtain ⟨others, tree, options, after, written, rfl⟩ := exists_written hx
  obtain rfl := Except.ok.inj (htokens.symm.trans written.tokens_eq)
  have hbounds := Ast.forall_captures_build
    (P := fun index => 0 < index ∧ index ≤ Token.captureCount tokens) written.build_eq
    (fun index hlt hle => ⟨hlt, by omega⟩) nofun nofun
  refine hbounds index ?_
  exact Expr.groups_optionsOfAst_subset written.options_eq (Expr.groups_choice_subset options mem)

end RouteChain.Regex
