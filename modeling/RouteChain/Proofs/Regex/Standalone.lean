import RouteChain.Proofs.Regex.Reading
import RouteChain.Proofs.Regex.Splicing

/-!
# Expressions that stand on their own

A text that is an expression on its own is read in the same steps where a parenthesis closes behind
it, and the same tree is built from them, if it sets no flags outside of its groups.

## Main definitions

* `ParensEscaped` — before each closing parenthesis of a text there is a backslash. Such a text sets
  no flags outside of its groups.
* `Token.captureCount` — the number of groups that capture among those that tokens open.
* `Standalone` — a text is an expression on its own, and captures nothing.

The main results are `Token.Steps.splice` and `Ast.build_enclosed`.
-/

namespace RouteChain.Regex

/-! ## Setting flags -/

/-- There is a backslash before each closing parenthesis but the first character. -/
def ParensEscaped (text : List Char) : Prop :=
  ∀ pre c rest, text = pre ++ c :: ')' :: rest → c = '\\'

theorem ParensEscaped.of_suffix {text rest : List Char} (h : ParensEscaped text)
    (hsuffix : rest <:+ text) : ParensEscaped rest := by
  obtain ⟨front, rfl⟩ := hsuffix
  rintro pre c rest rfl
  exact h (front ++ pre) c rest (List.append_assoc ..).symm

/-- Flags that a parenthesis ends have a flag before it. -/
theorem exists_of_readFlags {on dangling : Bool} {changes changes' : List FlagChange}
    {text rest : List Char}
    (h : readFlags on dangling changes text = .ok (changes', .parenthesis, rest)) :
    (text = ')' :: rest ∧ changes' = changes) ∨
      ∃ pre c, text = pre ++ c :: ')' :: rest ∧ c ≠ '\\' := by
  induction text generalizing on dangling changes with
  | nil => cases h
  | cons c text ih =>
    have hmore {on dangling : Bool} {changes : List FlagChange}
        (h : readFlags on dangling changes text = .ok (changes', .parenthesis, rest))
        (hc : c ≠ '\\') : ∃ pre d, c :: text = pre ++ d :: ')' :: rest ∧ d ≠ '\\' := by
      rcases ih h with ⟨rfl, -⟩ | ⟨pre, d, rfl, hd⟩
      · exact ⟨[], c, rfl, hc⟩
      · exact ⟨c :: pre, d, rfl, hd⟩
    unfold readFlags at h
    split at h <;> rename_i heq
    · cases heq
    all_goals cases heq
    · split at h <;> cases h
    · split at h <;> cases h
      exact .inl ⟨rfl, rfl⟩
    · split at h
      · exact .inr (hmore h (by decide))
      · cases h
    · split at h
      · cases h
      · rename_i flag hflag
        split at h
        · cases h
        · refine .inr (hmore h ?_)
          rintro rfl
          cases hflag

theorem headOf_ne_setFlags {text rest : List Char} (hescaped : ParensEscaped text)
    (changes : List FlagChange) : headOf text ≠ .ok (.setFlags changes, rest) := by
  intro h
  unfold headOf at h
  split at h
  any_goals cases h
  · obtain ⟨_, -, h⟩ := bind_eq_ok.mp h
    cases h
  · obtain ⟨_, -, h⟩ := bind_eq_ok.mp h
    cases h
  · obtain ⟨⟨changes', ending, behind⟩, hflags, h⟩ := bind_eq_ok.mp h
    cases ending with
    | colon => cases h
    | parenthesis =>
      rcases exists_of_readFlags hflags with ⟨-, rfl⟩ | ⟨pre, c, rfl, hc⟩
      · cases h
      · exact hc (hescaped ('?' :: pre) c behind rfl)

namespace Token

theorem next_ne_setFlags {verbose : Bool} {text rest : List Char} (hescaped : ParensEscaped text)
    (changes : List FlagChange) : next verbose text ≠ .ok (.setFlags changes, rest) := by
  intro h
  unfold next at h
  split at h
  any_goals cases h
  · rename_i left
    have hleft : skipBlank verbose left <:+ '(' :: left :=
      (skipBlank_suffix verbose left).trans (List.suffix_cons '(' left)
    exact headOf_ne_setFlags (hescaped.of_suffix hleft) changes h
  · rename_i left
    obtain ⟨bounds, hbounds⟩ := repetition_of_ofBraces h
    cases hbounds
  · obtain ⟨_, -, h⟩ := bind_eq_ok.mp h
    cases h
  · obtain ⟨_, -, h⟩ := bind_eq_ok.mp h
    cases h

variable {verbose within verbose' : Bool} {outer around outer' : List Bool}
  {text mid rest : List Char} {token : Token} {tokens others : List Token}

theorem Steps.setFlags_not_mem (h : Steps verbose outer text tokens verbose' outer' rest)
    (hescaped : ParensEscaped text) (changes : List FlagChange) : .setFlags changes ∉ tokens := by
  induction h with
  | nil => exact List.not_mem_nil
  | @cons verbose within verbose' outer around outer' text shown mid rest token tokens skip read
      shorter verbosity more ih =>
    have hshown : shown <:+ text := skip ▸ skipBlank_suffix verbose text
    have hmid := ((splices_next verbose).suffix read).trans hshown
    rw [List.mem_cons, not_or]
    refine ⟨?_, ih (hescaped.of_suffix hmid)⟩
    rintro rfl
    exact next_ne_setFlags (hescaped.of_suffix hshown) changes read

/-! ## Balance -/

/-- What `scan` finds is found step by step, up to blanks at the end. -/
theorem steps_of_scan {rounds : Nat} (h : scan rounds verbose outer text = .ok tokens)
    (hrounds : text.length ≤ rounds) : ∃ verbose' outer' rest,
      Steps verbose outer text tokens verbose' outer' rest ∧ skipBlank verbose' rest = [] := by
  induction rounds generalizing verbose outer text tokens with
  | zero =>
    cases h
    obtain rfl := List.length_eq_zero_iff.mp (Nat.le_zero.mp hrounds)
    exact ⟨verbose, outer, [], .nil, List.suffix_nil.mp (skipBlank_suffix verbose [])⟩
  | succ rounds ih =>
    rw [scan] at h
    split at h
    · rename_i hblank
      cases h
      exact ⟨verbose, outer, text, .nil, hblank⟩
    · obtain ⟨⟨token, mid⟩, hread, h⟩ := bind_eq_ok.mp h
      obtain ⟨⟨within, around⟩, hverbosity, h⟩ := bind_eq_ok.mp h
      obtain ⟨others, hmore, h⟩ := bind_eq_ok.mp h
      cases h
      have hshorter : mid.length < text.length := by
        obtain ⟨c, left, hleft, hmid⟩ := shorter_of_next hread
        have hskip := (skipBlank_suffix verbose text).length_le
        rw [hleft, List.length_cons] at hskip
        exact Nat.lt_of_lt_of_le (Nat.lt_succ_of_le hmid.length_le) hskip
      obtain ⟨verbose', outer', rest, hsteps, hrest⟩ := ih hmore (by omega)
      exact ⟨verbose', outer', rest, .cons rfl hread hshorter hverbosity hsteps, hrest⟩

/-- The groups that tokens open are closed, if a tree is built from them. Outside of the groups as
many characters count at the end as at the start, unless flags change that. -/
theorem Steps.balanced (h : Steps verbose outer text tokens verbose' outer' rest)
    (hflags : ∀ changes, .setFlags changes ∉ tokens) {captures : Nat}
    {levels : List (Ast.Level × GroupKind)} {level : Ast.Level} {tree : Ast}
    (hbuild : Ast.build captures levels level tokens = .ok tree)
    (hlevels : levels.length = outer.length) :
    outer' = [] ∧ (verbose :: outer).getLast? = some verbose' := by
  induction h generalizing captures levels level with
  | @nil verbose outer text =>
    cases levels with
    | nil =>
      obtain rfl := List.length_eq_zero_iff.mp hlevels.symm
      exact ⟨rfl, rfl⟩
    | cons level' levels => cases hbuild
  | @cons verbose within verbose' outer around outer' text shown mid rest token tokens skip read
      shorter verbosity more ih =>
    have hmore := fun changes mem => hflags changes (List.mem_cons_of_mem token mem)
    cases token with
    | setFlags changes => exact absurd List.mem_cons_self (hflags changes)
    | atom a =>
      cases verbosity
      rw [Ast.build] at hbuild
      exact ih hmore hbuild hlevels
    | bar =>
      cases verbosity
      rw [Ast.build] at hbuild
      exact ih hmore hbuild hlevels
    | repetition bounds =>
      cases verbosity
      rw [Ast.build] at hbuild
      obtain ⟨level', -, hbuild⟩ := bind_eq_ok.mp hbuild
      exact ih hmore hbuild hlevels
    | openGroup head =>
      rw [Ast.build] at hbuild
      cases head with
      | capturing name =>
        cases verbosity
        obtain ⟨houter, hlast⟩ := ih hmore hbuild (congrArg Nat.succ hlevels)
        exact ⟨houter, hlast⟩
      | flagged changes =>
        cases verbosity
        obtain ⟨houter, hlast⟩ := ih hmore hbuild (congrArg Nat.succ hlevels)
        exact ⟨houter, hlast⟩
    | closeGroup =>
      cases levels with
      | nil =>
        rw [Ast.build] at hbuild
        cases hbuild
      | cons enclosing levels =>
        cases outer with
        | nil => cases hlevels
        | cons before outer =>
          cases verbosity
          rw [Ast.build] at hbuild
          obtain ⟨houter, hlast⟩ := ih hmore hbuild (Nat.succ.inj hlevels)
          exact ⟨houter, hlast⟩

/-- What closes the groups around a text does not matter to the groups in it. -/
theorem verbosityAfter_append (h : verbosityAfter verbose outer token = .ok (within, around))
    (beyond : List Bool) :
    verbosityAfter verbose (outer ++ beyond) token = .ok (within, around ++ beyond) := by
  cases token with
  | openGroup head =>
    cases head <;>
    · cases h
      rfl
  | closeGroup =>
    cases outer with
    | nil => cases h
    | cons before outer =>
      cases h
      rfl
  | atom a | repetition bounds | bar | setFlags changes =>
    cases h
    rfl

/-- The last token of a verbose stretch closes its group, and behind a word boundary a brace has to
start bounds. -/
theorem Steps.finished (more : Steps within around mid tokens false [] [])
    (verbosity : verbosityAfter verbose outer token = .ok (within, around))
    (hflags : ∀ changes, token ≠ .setFlags changes) : Finished verbose token mid := by
  intro hclose
  constructor
  · rintro rfl rfl
    obtain ⟨rfl, rfl⟩ : within = false ∧ around = [] := by
      cases more with
      | nil => exact ⟨rfl, rfl⟩
      | cons _ _ shorter => cases shorter
    cases token with
    | setFlags changes => exact hflags changes rfl
    | openGroup head => cases head <;> simp [verbosityAfter] at verbosity
    | closeGroup => exact hclose rfl
    | atom a | repetition bounds | bar => cases verbosity
  · rintro a rfl - inner rfl rfl hnil
    cases verbosity
    cases more with
    | cons skip read =>
      subst skip
      obtain ⟨bound, hbound, -⟩ := bind_eq_ok.mp (read : ofBraces true inner = _)
      exact ne_nil_of_readBound hbound hnil

/-- Steps to the end of a text in which each group is closed end there too if a closing parenthesis
follows. -/
theorem Steps.splice (h : Steps verbose outer text tokens false [] [])
    (hflags : ∀ changes, .setFlags changes ∉ tokens) (beyond : List Bool) (behind : List Char) :
    Steps verbose (outer ++ beyond) (text ++ ')' :: behind) tokens false beyond
      (')' :: behind) := by
  generalize hend : false = verbose', hempty : [] = outer', hnil : [] = rest at h
  induction h with
  | nil =>
    subst hend hempty hnil
    exact .nil
  | @cons verbose within verbose' outer around outer' text shown mid rest token tokens skip read
      shorter verbosity more ih =>
    have hmore := ih (fun changes mem => hflags changes (List.mem_cons_of_mem token mem)) hend
      hempty hnil
    subst hend hempty hnil
    have hfinished := more.finished verbosity fun changes heq =>
      hflags changes (heq ▸ List.mem_cons_self)
    have hskip : skipBlank verbose (text ++ ')' :: behind) = shown ++ ')' :: behind := by
      subst skip
      exact skipBlank_append (fun _ => ne_nil_of_next read) _
    refine .cons hskip ((splices_next verbose).splice read hfinished behind) ?_
      (verbosityAfter_append verbosity beyond) hmore
    simpa using shorter

end Token

/-! ## Trees -/

def Token.captures : Token → Bool
  | .openGroup (.capturing _) => true
  | _ => false

def Token.captureCount (tokens : List Token) : Nat :=
  tokens.countP Token.captures

theorem Token.captureCount_cons (token : Token) (tokens : List Token) :
    captureCount (token :: tokens) = captureCount tokens + if token.captures then 1 else 0 :=
  List.countP_cons

/-- Tokens are built into the same tree between two parentheses. -/
theorem Ast.build_enclosed {count : Nat} {levels : List (Level × GroupKind)} {level : Level}
    {tokens : List Token} {tree : Ast} (h : build count levels level tokens = .ok tree)
    (enclosing : Level) (kind : GroupKind) (outer : List (Level × GroupKind))
    (rest : List Token) :
    build count (levels ++ (enclosing, kind) :: outer) level (tokens ++ .closeGroup :: rest) =
      build (count + Token.captureCount tokens) outer (enclosing.push (.group kind tree)) rest := by
  induction tokens generalizing count levels level with
  | nil =>
    cases levels with
    | nil =>
      cases h
      rfl
    | cons enclosing levels => cases h
  | cons token tokens ih =>
    rw [List.cons_append, Token.captureCount_cons]
    cases token with
    | atom a | setFlags changes | bar =>
      rw [build] at h ⊢
      exact ih h
    | repetition bounds =>
      rw [build] at h ⊢
      obtain ⟨level', hlevel, h⟩ := bind_eq_ok.mp h
      rw [hlevel]
      exact ih h
    | openGroup head =>
      rw [build] at h ⊢
      cases head with
      | capturing name =>
        have hmore := ih h
        rw [Nat.add_right_comm] at hmore
        exact hmore
      | flagged changes => exact ih h
    | closeGroup =>
      cases levels with
      | nil => cases h
      | cons enclosing levels =>
        rw [build] at h
        rw [List.cons_append, build]
        exact ih h

/-! ## Standalone expressions -/

variable {ignoreCase : Bool} {text : List Char}

/-- How an expression is read: as tokens, which are built into a tree, which writes some options. -/
structure Written (ignoreCase : Bool) (text : List Char) (tokens : List Token) (tree : Ast)
    (options : List Expr) (after : Flags) : Prop where
  tokens_eq : Token.ofText text = .ok tokens
  build_eq : Ast.build 0 [] {} tokens = .ok tree
  depth_le : tree.depth ≤ Ast.maxDepth
  options_eq : Expr.optionsOfAst { ignoreCase } tree = .ok (options, after)

theorem exists_written {x : Expr} (h : exprOf ignoreCase text = .ok x) :
    ∃ tokens tree options after, Written ignoreCase text tokens tree options after ∧
      x = .choice options := by
  obtain ⟨tokens, htokens, hwritten⟩ := bind_eq_ok.mp h
  obtain ⟨tree, htree, hwritten⟩ := bind_eq_ok.mp hwritten
  obtain ⟨⟨options, after⟩, hoptions, hchoice⟩ := bind_eq_ok.mp hwritten
  rw [Ast.ofTokens] at htree
  split at htree
  · cases htree
  · obtain ⟨tree', hbuild, htree⟩ := bind_eq_ok.mp htree
    split at htree
    · cases htree
    · cases htree
      exact ⟨tokens, tree, options, after, ⟨htokens, hbuild, by omega, hoptions⟩,
        (Except.ok.inj hchoice).symm⟩

/-- The text is an expression on its own, in which no group captures. -/
structure Standalone (ignoreCase : Bool) (text : List Char) : Prop where
  parses : ∃ r, parse ignoreCase (String.ofList text) = .ok r
  noCapture : ∀ tokens, Token.ofText text = .ok tokens →
    ∀ name, .openGroup (.capturing name) ∉ tokens

theorem Standalone.exists_exprOf (h : Standalone ignoreCase text) :
    ∃ x, exprOf ignoreCase text = .ok x := by
  obtain ⟨r, hr⟩ := h.parses
  have hexpr := (eq_of_parse hr).1
  rw [String.toList_ofList] at hexpr
  exact ⟨r.expr, hexpr⟩

theorem Standalone.captureCount_eq (h : Standalone ignoreCase text) {tokens : List Token}
    (htokens : Token.ofText text = .ok tokens) : Token.captureCount tokens = 0 := by
  refine List.countP_eq_zero.mpr fun token mem hcaptures => ?_
  unfold Token.captures at hcaptures
  split at hcaptures
  · exact h.noCapture tokens htokens _ mem
  · cases hcaptures

end RouteChain.Regex
