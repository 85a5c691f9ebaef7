import RouteChain.Proofs.Pattern.Matcher
import RouteChain.Proofs.Regex.Forward

/-!
# What the expression of a segment takes

The expression of a segment takes from a path what the segment takes. The captures of a segment are
lazy and may stop anywhere within a run, but whatever follows them begins with a slash or ends the
path, so only the ways that end at the end of a run count.

## Main definitions

* `atBoundary` — before a slash or at the end of a text.
* `runExpr`, `runsExpr`, `lineExpr` — the expressions of captures and wildcards.
-/

namespace RouteChain

namespace Regex

open Way

/-! ## Boundaries -/

/-- The text begins with a slash, or there is nothing left of it. -/
def atBoundary : List Char → Bool
  | [] => true
  | c :: _ => c = '/'

theorem atBoundary_dropWhile (text : List Char) :
    atBoundary (text.dropWhile (· != '/')) = true := by
  induction text with
  | nil => rfl
  | cons c text ih => by_cases h : c = '/' <;> simp_all [atBoundary]

/-- The ways that end before a slash or at the end of the text. -/
def bounded (ways : List Way) : List Way :=
  ways.filter (fun way => atBoundary way.2.rest)

@[simp] theorem bounded_append (ways others : List Way) :
    bounded (ways ++ others) = bounded ways ++ bounded others :=
  List.filter_append ..

theorem bounded_stay (s : Spot) :
    bounded (stay s) = if atBoundary s.rest then stay s else [] := by
  cases h : atBoundary s.rest <;> simp [bounded, stay, h]

/-- Where a way ends is decided by its last part. -/
theorem bounded_andThen (ways : List Way) (next : Spot → List Way) :
    bounded (andThen ways next) = andThen ways (fun s => bounded (next s)) := by
  simp [bounded, andThen, List.filter_flatMap, List.filter_map, Function.comp_def]

/-- What cannot go on but from a boundary follows only the ways that end at one. -/
theorem andThen_bounded (ways : List Way) {next : Spot → List Way}
    (h : ∀ s, atBoundary s.rest = false → next s = []) :
    andThen ways next = andThen (bounded ways) next := by
  induction ways with
  | nil => rfl
  | cons way ways ih =>
    by_cases hway : atBoundary way.2.rest
    · simp only [bounded, List.filter_cons, hway, if_true] at ih ⊢
      rw [cons_andThen, cons_andThen, ih]
    · simp only [bounded, List.filter_cons, hway] at ih ⊢
      rw [cons_andThen, h way.2 (by simpa using hway)]
      simpa using ih

/-! ## Characters -/

theorem contains_char (c d : Char) : (CharSet.char c).contains d = (c == d) := by
  rw [Bool.eq_iff_iff]
  simp only [CharSet.char, CharSet.contains, Bool.and_eq_true, decide_eq_true_eq, beq_iff_eq]
  exact ⟨fun h => Char.le_antisymm h.1 h.2, fun h => h ▸ ⟨Char.le_refl _, Char.le_refl _⟩⟩

theorem contains_dot (c : Char) : CharSet.dot.contains c = (c != '\n') := by
  simp [CharSet.dot, CharSet.contains, contains_char, bne, Bool.beq_comm]

def charExpr (c : Char) : Expr :=
  .letter (.char c)

theorem ways_charExpr (c : Char) (s : Spot) :
    (charExpr c).ways s = if [c].isPrefixOf s.rest then stay (s.skip [c]) else [] := by
  simp only [charExpr, Expr.ways, CharSet.ways]
  cases hrest : s.rest with
  | nil => simp
  | cons d rest =>
    by_cases h : c = d
    · subst h
      simp [contains_char, Spot.skip, hrest]
    · simp [contains_char, h]

/-- A text is matched where it stands. -/
theorem sequenceWays_text (text : List Char) (s : Spot) :
    sequenceWays (text.map charExpr) s =
      if text.isPrefixOf s.rest then stay (s.skip text) else [] := by
  induction text generalizing s with
  | nil => simp [sequenceWays, Spot.skip]
  | cons c text ih =>
    simp only [List.map_cons, sequenceWays, ways_charExpr]
    cases hrest : s.rest with
    | nil => simp
    | cons d rest =>
      by_cases h : c = d
      · subst h
        have := ih (s.skip [c])
        simp only [Spot.skip, hrest, List.tail_cons] at this
        simp [Spot.skip, hrest, this]
      · simp [h]

/-! ## Runs and lines -/

def noSlash : CharSet :=
  .compl (.range '/' '/')

theorem contains_noSlash (c : Char) : noSlash.contains c = (c != '/') := by
  have := contains_char '/' c
  simp only [CharSet.char] at this
  simp only [noSlash, CharSet.contains] at this ⊢
  rw [this, Bool.beq_comm]
  rfl

/-- As few characters as will do, but no slash. -/
def runExpr : Expr :=
  .repetition 1 none false (.letter noSlash)

def slashRunExpr : Expr :=
  .cat (charExpr '/') runExpr

def runsExpr : Expr :=
  .cat runExpr (.repetition 0 none true slashRunExpr)

/-- As much as there is of a line. -/
def lineExpr : Expr :=
  .repetition 0 none true (.letter .dot)

/-- Where the characters of a run are taken one by one, the way to the end of the run is the one
that ends at a boundary. -/
theorem bounded_rounds_noSlash (s : Spot) :
    bounded (rounds noSlash.ways false s) = stay (s.skip (s.rest.takeWhile (· != '/'))) := by
  obtain ⟨position, before, rest⟩ := s
  induction rest generalizing position before with
  | nil =>
    rw [rounds_of_advances false (noSlash.advances_ways _)]
    simp [prefer, CharSet.ways, bounded_stay, atBoundary, Spot.skip]
  | cons c rest ih =>
    rw [rounds_of_advances false (noSlash.advances_ways _)]
    by_cases h : c = '/'
    · subst h
      simp [prefer, CharSet.ways, contains_noSlash, bounded_stay, atBoundary, Spot.skip]
    · simp [prefer, CharSet.ways, contains_noSlash, h, bounded_stay, atBoundary, ih, Spot.skip]

theorem bounded_runExpr (s : Spot) : bounded (runExpr.ways s) =
    (takeRun s.rest).map (fun taken => ([], s.skip taken.1)) := by
  have hways : runExpr.ways s = andThen (noSlash.ways s) (rounds noSlash.ways false) := by
    simp only [runExpr, Expr.ways, repeated_one_none]
    exact oneOrMore_of_advances false (noSlash.advances_ways s)
  rw [hways, bounded_andThen]
  cases hrest : s.rest with
  | nil => simp [CharSet.ways, hrest, takeRun]
  | cons c rest =>
    by_cases h : c = '/'
    · subst h
      simp [CharSet.ways, hrest, contains_noSlash, takeRun]
    · simp [CharSet.ways, hrest, contains_noSlash, takeRun, h, bounded_rounds_noSlash, Spot.skip,
        stay]

theorem advances_slashRunExpr (s : Spot) : Advances s (slashRunExpr.ways s) := by
  have slash : Advances s ((charExpr '/').ways s) := CharSet.advances_ways _ s
  refine slash.andThen fun other => ?_
  simp only [runExpr, Expr.ways, repeated_one_none]
  exact proceeds_oneOrMore false (CharSet.advances_ways _ other).proceeds

theorem ways_runsExpr (s : Spot) :
    runsExpr.ways s = andThen (runExpr.ways s) (rounds slashRunExpr.ways true) := by
  rw [← repeated_eq_rounds true advances_slashRunExpr]
  rfl

/-- What can follow a run: a slash and more runs, or nothing. -/
theorem bounded_rounds_slashRunExpr (s : Spot) : bounded (rounds slashRunExpr.ways true s) =
    match s.rest with
    | [] => stay s
    | c :: _ => if c = '/' then bounded (runsExpr.ways (s.skip ['/'])) ++ stay s else [] := by
  have hways : slashRunExpr.ways s = andThen ((charExpr '/').ways s) runExpr.ways := rfl
  rw [rounds_of_advances true (advances_slashRunExpr s), hways]
  simp only [prefer, if_true, bounded_append, bounded_stay, ways_charExpr]
  cases hrest : s.rest with
  | nil => simp [atBoundary, bounded]
  | cons c rest =>
    by_cases h : c = '/'
    · subst h
      simp [atBoundary, ways_runsExpr]
    · simp [atBoundary, bounded, h, Ne.symm h]

theorem bounded_runsExpr (s : Spot) : bounded (runsExpr.ways s) =
    (takeRuns s.rest).map (fun taken => ([], s.skip taken.1)) := by
  induction hlength : s.rest.length using Nat.strongRecOn generalizing s with
  | ind length ih =>
    have hsplit : s.rest.takeWhile (· != '/') ++ s.rest.dropWhile (· != '/') = s.rest :=
      List.takeWhile_append_dropWhile
    rw [ways_runsExpr, bounded_andThen, andThen_bounded, bounded_runExpr, takeRun, takeRuns]
    · generalize hrun : s.rest.takeWhile (· != '/') = run at hsplit
      by_cases hempty : run.isEmpty
      · simp [hempty]
      cases hleft : s.rest.dropWhile (· != '/') with
      | nil =>
        rw [hleft] at hsplit
        simp only [hempty, List.isEmpty_nil]
        simp [bounded_rounds_slashRunExpr, Spot.rest_skip hsplit.symm, stay]
      | cons c rest =>
        have hc : c = '/' := by
          have := atBoundary_dropWhile s.rest
          rw [hleft] at this
          simpa [atBoundary] using this
        subst hc
        rw [hleft] at hsplit
        have hrest : (s.skip run).rest = '/' :: rest := Spot.rest_skip hsplit.symm
        have hafter : ((s.skip run).skip ['/']).rest = rest := Spot.rest_skip hrest
        have hshorter : rest.length < length := by
          rw [← hlength, ← hsplit, List.length_append, List.length_cons]
          omega
        have hmore := ih _ hshorter ((s.skip run).skip ['/']) (by rw [hafter])
        have hskip (runs : List Char) :
            s.skip (run ++ '/' :: runs) = ((s.skip run).skip ['/']).skip runs := by
          rw [Spot.skip_append]
          rfl
        simp only [hempty, List.isEmpty_cons]
        simp [bounded_rounds_slashRunExpr, hrest, hmore, hafter, hskip, stay, Function.comp_def]
    · intro other hother
      rw [bounded_rounds_slashRunExpr]
      cases hrest : other.rest with
      | nil => simp [hrest, atBoundary] at hother
      | cons c rest =>
        have h : c ≠ '/' := by simpa [hrest, atBoundary] using hother
        simp [h]

theorem ways_lineExpr (s : Spot) : lineExpr.ways s =
    (takeLine s.rest).map (fun taken => ([], s.skip taken.1)) := by
  have hways : lineExpr.ways = rounds (CharSet.ways .dot) true :=
    repeated_eq_rounds true (CharSet.advances_ways _)
  rw [hways]
  obtain ⟨position, before, rest⟩ := s
  induction rest generalizing position before with
  | nil =>
    rw [rounds_of_advances true (CharSet.advances_ways _ _)]
    simp [prefer, CharSet.ways, takeLine, Spot.skip, stay]
  | cons c rest ih =>
    rw [rounds_of_advances true (CharSet.advances_ways _ _)]
    by_cases h : c = '\n'
    · subst h
      simp [prefer, CharSet.ways, contains_dot, takeLine, Spot.skip, stay]
    · simp [prefer, CharSet.ways, contains_dot, h, takeLine, Spot.skip, ih, Function.comp_def]
      rfl

end Regex

end RouteChain
