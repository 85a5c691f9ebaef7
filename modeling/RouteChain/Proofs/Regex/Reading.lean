import Mathlib.Data.List.Forall2
import RouteChain.Proofs.Regex.Sequence

/-!
# Reading the text of an expression

What a text denotes is found from what its pieces denote: each form that an expression can be
written in has a lemma of its own, so the text of a larger expression is read by putting them
together. The forms are those without flags, choices and named groups.

## Main definitions

* `Token.Steps` — the tokens that are read from a text one by one.
* `Writes` — a syntax tree writes an expression.
* `Denotes` — a text is read as the parts of a sequence.

The main result is `exprOf_of_denotes`.
-/

namespace RouteChain.Regex

/-- A text that is accepted is kept with its expression and with the code of that. -/
theorem exists_expr_of_parse {ignoreCase : Bool} {text : String} {r : Regex}
    (h : parse ignoreCase text = .ok r) :
    ∃ x, exprOf ignoreCase text.toList = .ok x ∧ r = ⟨text, x, .ofExpr (anywhere x)⟩ := by
  unfold parse at h
  cases hexpr : exprOf ignoreCase text.toList with
  | error cause =>
    rw [hexpr] at h
    cases h
  | ok x =>
    simp only [hexpr, bind, Except.bind, throw, throwThe, MonadExceptOf.throw] at h
    split at h
    · cases h
    · exact ⟨x, rfl, (Except.ok.inj h).symm⟩

theorem eq_of_parse {ignoreCase : Bool} {text : String} {r : Regex}
    (h : parse ignoreCase text = .ok r) :
    exprOf ignoreCase text.toList = .ok r.expr ∧ r.code = .ofExpr (anywhere r.expr) := by
  obtain ⟨x, hexpr, rfl⟩ := exists_expr_of_parse h
  exact ⟨hexpr, rfl⟩

theorem text_of_parse {ignoreCase : Bool} {text : String} {r : Regex}
    (h : parse ignoreCase text = .ok r) : r.text = text := by
  obtain ⟨x, -, rfl⟩ := exists_expr_of_parse h
  rfl

/-! ## Tokens -/

theorem head?_append_ne {text other : List Char} {c : Char} (h : text.head? ≠ some c)
    (h' : other.head? ≠ some c) : (text ++ other).head? ≠ some c := by
  cases text with
  | nil => exact h'
  | cons d text => exact h

namespace Token

/-- Reading some tokens leads from a text to another. What is verbose before and after them, the
present group and those around it, is kept along as `scan` keeps it. -/
inductive Steps : Bool → List Bool → List Char → List Token → Bool → List Bool → List Char → Prop
  | nil {verbose : Bool} {outer : List Bool} {text : List Char} :
      Steps verbose outer text [] verbose outer text
  | cons {verbose within verbose' : Bool} {outer around outer' : List Bool}
      {text shown mid rest : List Char} {token : Token} {tokens : List Token}
      (skip : skipBlank verbose text = shown) (read : next verbose shown = .ok (token, mid))
      (shorter : mid.length < text.length)
      (verbosity : verbosityAfter verbose outer token = .ok (within, around))
      (more : Steps within around mid tokens verbose' outer' rest) :
      Steps verbose outer text (token :: tokens) verbose' outer' rest

variable {verbose within verbose' : Bool} {outer around outer' : List Bool}
  {text mid rest : List Char} {token : Token} {tokens others : List Token}

theorem Steps.append (h : Steps verbose outer text tokens within around mid)
    (h' : Steps within around mid others verbose' outer' rest) :
    Steps verbose outer text (tokens ++ others) verbose' outer' rest := by
  induction h with
  | nil => exact h'
  | cons skip read shorter verbosity _ ih => exact .cons skip read shorter verbosity (ih h')

/-- One token where blanks count. -/
theorem Steps.one (read : next false text = .ok (token, rest)) (shorter : rest.length < text.length)
    (verbosity : verbosityAfter false outer token = .ok (verbose', outer')) :
    Steps false outer text [token] verbose' outer' rest :=
  .cons rfl read shorter verbosity .nil

/-- There is no token in nothing. -/
theorem ne_nil_of_next {verbose : Bool} {text rest : List Char} {token : Token}
    (h : next verbose text = .ok (token, rest)) : text ≠ [] := by
  rintro rfl
  cases h

/-- All tokens of a text are found in as many rounds as it has characters. -/
theorem scan_of_steps (rounds : Nat) (h : Steps verbose outer text tokens verbose' outer' [])
    (hrounds : text.length ≤ rounds) : scan rounds verbose outer text = .ok tokens := by
  generalize hrest : [] = rest at h
  induction h generalizing rounds with
  | @nil verbose outer text =>
    subst hrest
    cases rounds <;> cases verbose <;> rfl
  | @cons verbose within verbose' outer around outer' text shown mid rest token tokens skip read
      shorter verbosity _ ih =>
    cases rounds with
    | zero => omega
    | succ rounds =>
      have hmore := ih rounds (by omega) hrest
      have hshown := ne_nil_of_next read
      simp only [scan, skip]
      cases shown with
      | nil => exact absurd rfl hshown
      | cons c shown =>
        simp only [read, verbosity, hmore, bind, Except.bind, pure, Except.pure]

theorem ofText_of_steps (h : Steps false [] text tokens verbose' outer' []) :
    ofText text = .ok tokens :=
  scan_of_steps text.length h (Nat.le_refl _)

end Token

/-! ## Trees -/

namespace Ast

def Level.pushAll (level : Level) (trees : List Ast) : Level :=
  { level with parts := trees.reverse ++ level.parts }

theorem Level.pushAll_append (level : Level) (trees others : List Ast) :
    (level.pushAll trees).pushAll others = level.pushAll (trees ++ others) := by
  simp [pushAll]

/-- The tree of a level whose only option has the given parts. -/
theorem Level.tree_pushAll (trees : List Ast) : (pushAll {} trees).tree = ofSequence trees := by
  simp [pushAll, tree, nextOption, ofChoice]

theorem depthFrom_le (spine : Spine) (tree : Ast) : depthFrom spine tree ≤ tree.depth := by
  cases tree with
  | atom a => cases a <;> exact Nat.le_refl _
  | sequence first rest | choice first rest =>
    simp only [depth, depthFrom]
    split <;> simp
  | _ => exact Nat.le_refl _

/-- A sequence nests one deeper than its parts. -/
theorem depth_ofSequence {trees : List Ast} {depth : Nat} (h : ∀ tree ∈ trees, tree.depth ≤ depth) :
    (ofSequence trees).depth ≤ depth + 1 := by
  have hspine : depthFrom .sequence (ofSequence trees) ≤ depth := by
    induction trees with
    | nil => exact Nat.zero_le _
    | cons tree trees ih =>
      have hfirst := h tree List.mem_cons_self
      have hrest := ih fun other mem => h other (List.mem_cons_of_mem tree mem)
      cases trees with
      | nil => exact Nat.le_trans (depthFrom_le .sequence tree) hfirst
      | cons other trees =>
        simp only [ofSequence, depthFrom, if_true]
        exact Nat.max_le.mpr ⟨hfirst, hrest⟩
  cases trees with
  | nil => exact Nat.zero_le _
  | cons tree trees =>
    cases trees with
    | nil => exact Nat.le_succ_of_le (h tree List.mem_cons_self)
    | cons other trees =>
      simp only [ofSequence, Ast.depth, depthFrom] at hspine ⊢
      simpa using hspine

end Ast

/-! ## Expressions -/

open Ast (build groupNames ofSequence)

section

variable {ignoreCase : Bool}

/-- A tree writes an expression, and is not just flags. -/
def Writes (ignoreCase : Bool) (tree : Ast) (x : Expr) : Prop :=
  Expr.optionsOfAst { ignoreCase } tree = .ok ([x], { ignoreCase }) ∧
    ∀ changes, tree ≠ .setFlags changes

/-- A sequence of trees writes the sequence of what they write. -/
theorem optionsOfAst_ofSequence {trees : List Ast} {parts : List Expr}
    (h : List.Forall₂ (Writes ignoreCase) trees parts) :
    Expr.optionsOfAst { ignoreCase } (ofSequence trees) =
      .ok ([.sequence parts], { ignoreCase }) := by
  induction h with
  | nil => rfl
  | @cons tree x trees parts writes more ih =>
    cases more with
    | nil => rw [Expr.sequence_singleton, ofSequence, writes.1]
    | cons _ _ =>
      simp only [ofSequence, Expr.optionsOfAst, writes.1, ih, bind, Except.bind, pure, Except.pure,
        Expr.choice]
      rfl

/-! ## Texts -/

/-- How a text is read: as tokens, which are built into trees, which write the parts of a sequence.
Before the text there are `index` capturing groups and behind it `after`, some of which it names,
and the trees are no deeper than `depth`. If `ahead`, reading looks at the character behind the
text, which must not be a question mark. -/
structure Reading (ignoreCase ahead : Bool) (depth index after : Nat) (text : List Char)
    (tokens : List Token) (trees : List Ast) (parts : List Expr) (names : List String) : Prop where
  steps : ∀ outer rest, (ahead = true → rest.head? ≠ some '?') →
    Token.Steps false outer (text ++ rest) tokens false outer rest
  build_eq : ∀ outer level rest,
    build index outer level (tokens ++ rest) = build after outer (level.pushAll trees) rest
  groupNames_eq : groupNames tokens = names
  depth_le : ∀ tree ∈ trees, tree.depth ≤ depth
  writes : List.Forall₂ (Writes ignoreCase) trees parts

/-- A text is read as the parts of a sequence. Unless it is said otherwise, it names no groups. -/
def Denotes (ignoreCase ahead : Bool) (depth index after : Nat) (text : List Char)
    (parts : List Expr) (names : List String := []) : Prop :=
  ∃ tokens trees, Reading ignoreCase ahead depth index after text tokens trees parts names

/-- What is read as a whole is the sequence of the parts, unless it names two groups alike or nests
too deeply. -/
theorem exprOf_of_reading {ahead : Bool} {depth after : Nat} {text : List Char}
    {tokens : List Token} {trees : List Ast} {parts : List Expr} {names : List String}
    (h : Reading ignoreCase ahead depth 0 after text tokens trees parts names) :
    exprOf ignoreCase text = .ok (.sequence parts) ∨
      (∃ name, Ast.firstRepeated? names = some name ∧
        exprOf ignoreCase text = .error (.groupNameRepeated name)) ∨
      Ast.maxDepth ≤ depth ∧ exprOf ignoreCase text = .error .tooDeep := by
  have htokens : Token.ofText text = .ok tokens := by
    have hsteps := h.steps [] [] (by simp)
    rw [List.append_nil] at hsteps
    exact Token.ofText_of_steps hsteps
  have hbuild : build 0 [] {} tokens = .ok (ofSequence trees) := by
    have := h.build_eq [] {} []
    rw [List.append_nil] at this
    rw [this, build, Ast.Level.tree_pushAll]
  have hle := Ast.depth_ofSequence h.depth_le
  cases hnames : Ast.firstRepeated? names with
  | some name =>
    refine .inr (.inl ⟨name, rfl, ?_⟩)
    simp only [exprOf, htokens, Ast.ofTokens, h.groupNames_eq, hnames, bind, Except.bind, throw,
      throwThe, MonadExceptOf.throw]
  | none =>
    by_cases hdeep : Ast.maxDepth < (ofSequence trees).depth
    · refine .inr (.inr ⟨by omega, ?_⟩)
      simp only [exprOf, htokens, Ast.ofTokens, h.groupNames_eq, hnames, hbuild, bind,
        Except.bind, pure, Except.pure, throw, throwThe, MonadExceptOf.throw, if_pos hdeep]
    · refine .inl ?_
      simp only [exprOf, htokens, Ast.ofTokens, h.groupNames_eq, hnames, hbuild,
        Expr.ofAst, optionsOfAst_ofSequence h.writes, bind, Except.bind, pure, Except.pure,
        if_neg hdeep, Expr.choice]

/-- What a text denotes that names no groups. -/
theorem exprOf_of_denotes {ahead : Bool} {depth after : Nat} {text : List Char} {parts : List Expr}
    (h : Denotes ignoreCase ahead depth 0 after text parts) :
    exprOf ignoreCase text = .ok (.sequence parts) ∨
      Ast.maxDepth ≤ depth ∧ exprOf ignoreCase text = .error .tooDeep := by
  obtain ⟨tokens, trees, h⟩ := h
  rcases exprOf_of_reading h with hexpr | ⟨name, hname, -⟩ | hdeep
  · exact .inl hexpr
  · cases hname
  · exact .inr hdeep

/-- What a text denotes that is accepted, whatever groups it names. -/
theorem eq_of_denotes {ahead : Bool} {depth after : Nat} {text : List Char} {parts : List Expr}
    {names : List String} (h : Denotes ignoreCase ahead depth 0 after text parts names) {x : Expr}
    (hx : exprOf ignoreCase text = .ok x) : x = .sequence parts := by
  obtain ⟨tokens, trees, h⟩ := h
  rcases exprOf_of_reading h with hexpr | ⟨name, -, herror⟩ | ⟨-, herror⟩
  · exact Except.ok.inj (hx.symm.trans hexpr)
  · cases herror.symm.trans hx
  · cases herror.symm.trans hx

end

namespace Denotes

variable {ignoreCase ahead : Bool} {depth index after last : Nat} {text : List Char}
  {parts : List Expr} {names : List String}

theorem nil : Denotes ignoreCase false depth index index [] [] :=
  ⟨[], [], fun _ _ _ => .nil, fun _ _ _ => rfl, rfl, by simp, .nil⟩

/-- One text after another. The second must not begin with a question mark. -/
theorem append (h : Denotes ignoreCase ahead depth index after text parts names) {behind : Bool}
    {other : List Char} {others : List Expr} {names' : List String}
    (h' : Denotes ignoreCase behind depth after last other others names')
    (hother : other.head? ≠ some '?') :
    Denotes ignoreCase true depth index last (text ++ other) (parts ++ others)
      (names ++ names') := by
  obtain ⟨tokens, trees, h⟩ := h
  obtain ⟨tokens', trees', h'⟩ := h'
  refine ⟨tokens ++ tokens', trees ++ trees', ?_, ?_, ?_, ?_, List.rel_append h.writes h'.writes⟩
  · intro outer rest hrest
    rw [List.append_assoc]
    exact (h.steps outer (other ++ rest) fun _ => head?_append_ne hother (hrest rfl)).append
      (h'.steps outer rest fun _ => hrest rfl)
  · intro outer level rest
    rw [List.append_assoc, h.build_eq, h'.build_eq, Ast.Level.pushAll_append]
  · rw [groupNames, List.filterMap_append]
    exact congrArg₂ (· ++ ·) h.groupNames_eq h'.groupNames_eq
  · intro tree mem
    exact (List.mem_append.mp mem).elim (h.depth_le tree) (h'.depth_le tree)

/-- A text may always be said to look ahead, and to nest deeper than it does. -/
theorem mono (h : Denotes ignoreCase ahead depth index after text parts names) (deeper : Nat)
    (hdepth : depth ≤ deeper) : Denotes ignoreCase true deeper index after text parts names := by
  obtain ⟨tokens, trees, h⟩ := h
  exact ⟨tokens, trees, fun outer rest hrest => h.steps outer rest fun _ => hrest rfl, h.build_eq,
    h.groupNames_eq, fun tree mem => Nat.le_trans (h.depth_le tree mem) hdepth, h.writes⟩

/-- A text that is one atom. -/
theorem atom {a : Atom} {x : Expr}
    (read : ∀ rest, Token.next false (text ++ rest) = .ok (.atom a, rest)) (hpos : text ≠ [])
    (hdepth : (Ast.atom a).depth ≤ depth) (hx : Expr.ofAtom { ignoreCase } a = .ok x) :
    Denotes ignoreCase false depth index index text [x] := by
  refine ⟨[.atom a], [.atom a], fun outer rest _ => .one (read rest) ?_ rfl,
    fun outer level rest => ?_, rfl, by simpa using hdepth, .cons ⟨?_, by simp⟩ .nil⟩
  · have := List.length_pos_iff.mpr hpos
    rw [List.length_append]
    omega
  · simp [build, Ast.Level.push, Ast.Level.pushAll]
  · simp only [Expr.optionsOfAst, hx, bind, Except.bind, pure, Except.pure]

/-- What is repeated by an operator behind it. -/
theorem repetition {x : Expr} (h : Denotes ignoreCase false depth index after text [x] names)
    {operator : List Char} (bounds : Bounds)
    (read : ∀ rest, rest.head? ≠ some '?' →
      Token.next false (operator ++ rest) = .ok (.repetition bounds, rest)) (hpos : operator ≠ [])
    (hx : Expr.repeated bounds.min bounds.max bounds.greedy x =
      .repetition bounds.min bounds.max bounds.greedy x) :
    Denotes ignoreCase true (depth + 1) index after (text ++ operator)
      [.repetition bounds.min bounds.max bounds.greedy x] names := by
  obtain ⟨tokens, trees, h⟩ := h
  obtain ⟨tree, rfl⟩ : ∃ tree, trees = [tree] := by
    have := h.writes.length_eq
    exact List.length_eq_one_iff.mp this
  obtain ⟨hwrites, hflags⟩ := (List.forall₂_cons.mp h.writes).1
  refine ⟨tokens ++ [.repetition bounds], [.repetition bounds tree], ?_, ?_, ?_, ?_,
    .cons ⟨?_, by simp⟩ .nil⟩
  · intro outer rest hrest
    have hlength := List.length_pos_iff.mpr hpos
    rw [List.append_assoc]
    refine (h.steps outer _ nofun).append (.one (read rest (hrest rfl)) ?_ rfl)
    rw [List.length_append]
    omega
  · intro outer level rest
    have hrepeated : (level.pushAll [tree]).repeated bounds =
        .ok (level.pushAll [.repetition bounds tree]) := by
      cases tree <;> first | rfl | exact absurd rfl (hflags _)
    rw [List.append_assoc, h.build_eq, List.singleton_append, build, hrepeated]
    rfl
  · rw [groupNames, List.filterMap_append]
    exact (List.append_nil _).trans h.groupNames_eq
  · have hle := h.depth_le tree List.mem_cons_self
    simpa [Ast.depth, Ast.depthFrom] using hle
  · simp only [Expr.optionsOfAst, hwrites, bind, Except.bind, pure, Except.pure, Expr.choice,
      Bool.bne_false, hx]

/-- The tokens and the tree of a group around what is read. -/
theorem enclosed {kind : GroupKind} {inner : Nat} {opening : List Char} {x : Expr}
    (h : Denotes ignoreCase ahead depth inner after text parts names) (head : GroupHead)
    (hkind : Ast.kindOfHead index head = (kind, inner))
    (read : ∀ rest, Token.next false (opening ++ text ++ ')' :: rest) =
      .ok (.openGroup head, text ++ ')' :: rest)) (hpos : opening ≠ [])
    (hhead : head = .capturing none ∨ head = .flagged [])
    (hx : ∀ tree, Expr.optionsOfAst { ignoreCase } tree =
        .ok ([.sequence parts], { ignoreCase }) →
      Expr.optionsOfAst { ignoreCase } (.group kind tree) = .ok ([x], { ignoreCase })) :
    Denotes ignoreCase false (depth + 2) index after (opening ++ text ++ [')']) [x] names := by
  obtain ⟨tokens, trees, h⟩ := h
  refine ⟨.openGroup head :: tokens ++ [.closeGroup], [.group kind (ofSequence trees)], ?_, ?_, ?_,
    ?_, .cons ⟨hx _ (optionsOfAst_ofSequence h.writes), by simp⟩ .nil⟩
  · intro outer rest _
    have hlength := List.length_pos_iff.mpr hpos
    have hclose : Token.Steps false (false :: outer) (')' :: rest) [.closeGroup] false outer rest :=
      .one rfl (by simp) rfl
    rw [List.append_assoc, List.singleton_append]
    have hinner := (h.steps (false :: outer) (')' :: rest) fun _ => by simp).append hclose
    refine .cons rfl (read rest) ?_ ?_ hinner
    · simp only [List.length_append]
      omega
    · rcases hhead with rfl | rfl <;> rfl
  · intro outer level rest
    have htree : (Ast.Level.pushAll {} trees).tree = ofSequence trees :=
      Ast.Level.tree_pushAll trees
    rw [List.cons_append, List.cons_append, List.append_assoc, build, hkind]
    change build inner ((level, kind) :: outer) {} (tokens ++ .closeGroup :: rest) = _
    rw [h.build_eq, build, htree]
    rfl
  · have hnone : groupNames [.openGroup head] = [] := by rcases hhead with rfl | rfl <;> rfl
    rw [← List.singleton_append, groupNames, List.filterMap_append, List.filterMap_append]
    exact (List.append_nil _).trans (congrArg₂ (· ++ ·) hnone h.groupNames_eq)
  · have hle := Ast.depth_ofSequence h.depth_le
    simpa [Ast.depth, Ast.depthFrom] using hle

/-- A capturing group. -/
theorem capture (h : Denotes ignoreCase ahead depth (index + 1) after text parts names)
    (htext : text.head? ≠ some '?') :
    Denotes ignoreCase false (depth + 2) index after (['('] ++ text ++ [')'])
      [.group (index + 1) (.sequence parts)] names := by
  refine h.enclosed (.capturing none) rfl (fun rest => ?_) (List.cons_ne_nil _ _) (.inl rfl)
    fun tree htree => ?_
  · cases text with
    | nil => rfl
    | cons c text =>
      have hc : c ≠ '?' := by simpa using htext
      change Token.ofParenthesis false (c :: (text ++ ')' :: rest)) = _
      simp only [Token.ofParenthesis, skipBlank, Bool.false_eq_true, if_false]
      split <;> grind
  · simp only [Expr.optionsOfAst, htree, bind, Except.bind, pure, Except.pure, Expr.choice]

/-- A group that does not capture. -/
theorem group (h : Denotes ignoreCase ahead depth index after text parts names) :
    Denotes ignoreCase false (depth + 2) index after (['(', '?', ':'] ++ text ++ [')'])
      [.sequence parts] names := by
  refine h.enclosed (.flagged []) rfl (fun rest => rfl) (List.cons_ne_nil _ _) (.inr rfl)
    fun tree htree => ?_
  have hflags : Flags.apply { ignoreCase } [] = { ignoreCase } := rfl
  simp only [Expr.optionsOfAst, hflags, htree, bind, Except.bind, pure, Except.pure, Expr.choice]

/-! ## Operators -/

theorem readGreed_of_head? {rest : List Char} (h : rest.head? ≠ some '?') :
    readGreed rest = (true, rest) := by
  unfold readGreed
  split <;> grind

/-- What may be left out. -/
theorem optional {x : Expr} (h : Denotes ignoreCase false depth index after text [x] names) :
    Denotes ignoreCase true (depth + 1) index after (text ++ ['?'])
      [.repetition 0 (some 1) true x] names := by
  refine h.repetition ⟨0, some 1, true⟩ (fun rest hrest => ?_) (List.cons_ne_nil _ _) ?_
  · change Except.ok (Token.ofRepetition 0 (some 1) rest) = _
    rw [Token.ofRepetition, readGreed_of_head? hrest]
  · simp [Expr.repeated]

/-- What is repeated any number of times. -/
theorem many {x : Expr} (h : Denotes ignoreCase false depth index after text [x] names)
    (hx : x.onlyEmpty = false) :
    Denotes ignoreCase true (depth + 1) index after (text ++ ['*'])
      [.repetition 0 none true x] names := by
  refine h.repetition ⟨0, none, true⟩ (fun rest hrest => ?_) (List.cons_ne_nil _ _) ?_
  · change Except.ok (Token.ofRepetition 0 none rest) = _
    rw [Token.ofRepetition, readGreed_of_head? hrest]
  · simp [Expr.repeated, hx]

/-- What is there at least once, and then as seldom as will do. -/
theorem lazySome {x : Expr} (h : Denotes ignoreCase false depth index after text [x] names)
    (hx : x.onlyEmpty = false) :
    Denotes ignoreCase true (depth + 1) index after (text ++ ['+', '?'])
      [.repetition 1 none false x] names := by
  refine h.repetition ⟨1, none, false⟩ (fun rest _ => rfl) (List.cons_ne_nil _ _) ?_
  simp [Expr.repeated, hx]

end Denotes

end RouteChain.Regex
