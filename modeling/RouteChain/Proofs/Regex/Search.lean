import RouteChain.Proofs.Regex.Ways

/-!
# What the search finds

The search finds the preferred way to match its code. A branch that was entered before at the same
place leads on in the same way, so nothing is lost when it is not entered again: either the branch
led to a match, which is preferred to all that comes later, or it would lead nowhere once more.

## Main definitions

* `Frame.best?` — the marks of the preferred way to match what is left of code.
* `Code.touched`, `Frame.touched` — the branches that are entered before a character is taken.
* `Code.Wired`, `Frame.Wired` — code whose branches have labels of their own.
* `Frontier.best?` — the preferred match that a frontier leads to.
* `Explores` — what it means that a step of the search tries some ways.

The main result is `Code.find?_eq`.
-/

namespace RouteChain.Regex

open Way

/-! ## What is left to match -/

/-- The marks of the preferred way to match what is left of code, after those set before. -/
def Frame.best? (frames : List Frame) (s : Spot) (marks : List Mark) : Option (List Mark) :=
  (Frame.ways frames s).head?.map (fun way => way.1 ++ marks)

/-- What is left of code can be matched from the place. -/
def Frame.Leads (frames : List Frame) (s : Spot) : Prop :=
  Frame.ways frames s ≠ []

namespace Frame

theorem isSome_best? (frames : List Frame) (s : Spot) (marks : List Mark) :
    (best? frames s marks).isSome = true ↔ Leads frames s := by
  simp [best?, Leads, List.isSome_head?]

@[simp] theorem best?_nil (s : Spot) (marks : List Mark) : best? [] s marks = some marks := rfl

@[simp] theorem best?_close (index : Nat) (frames : List Frame) (s : Spot) (marks : List Mark) :
    best? (.close index :: frames) s marks =
      best? frames s (⟨index, true, s.position⟩ :: marks) := by
  simp [best?, Frame.ways, Function.comp_def]

/-- Of the ways of two lists the preferred one comes from the first list, if that has any. -/
theorem head?_append_map (ways others : List Way) (marks : List Mark) :
    ((ways ++ others).head?.map (fun way => way.1 ++ marks)) =
      (ways.head?.map (fun way => way.1 ++ marks)).or
        (others.head?.map (fun way => way.1 ++ marks)) := by
  cases ways <;> simp

end Frame

/-- Of two results, that of matching more comes first if `greedy`, and last if not. -/
def preferred (greedy : Bool) (more fewer : Option (List Mark)) : Option (List Mark) :=
  if greedy then more.or fewer else fewer.or more

namespace Frame

variable (frames : List Frame) (s : Spot) (marks : List Mark)

@[simp] theorem best?_empty : best? (.next .empty :: frames) s marks = best? frames s marks := by
  simp [best?, Frame.ways, Code.ways]

theorem best?_assertion (a : Assertion) : best? (.next (.assertion a) :: frames) s marks =
    if a.holds s then best? frames s marks else none := by
  by_cases h : a.holds s <;> simp [best?, Frame.ways, Code.ways, Assertion.ways, h]

theorem best?_letter (label : Nat) (set : CharSet) {c : Char} {rest : List Char}
    (hrest : s.rest = c :: rest) : best? (.next (.letter label set) :: frames) s marks =
      if set.contains c then best? frames ⟨s.position + 1, some c, rest⟩ marks else none := by
  by_cases h : set.contains c <;>
    simp [best?, Frame.ways, Code.ways, CharSet.ways, hrest, h]

theorem best?_letter_of_nil (label : Nat) (set : CharSet) (hrest : s.rest = []) :
    best? (.next (.letter label set) :: frames) s marks = none := by
  simp [best?, Frame.ways, Code.ways, CharSet.ways, hrest]

theorem best?_cat (x y : Code) : best? (.next (.cat x y) :: frames) s marks =
    best? (.next x :: .next y :: frames) s marks := by
  simp only [best?, Frame.ways, Code.ways, andThen_assoc]

theorem best?_alt (label : Nat) (x y : Code) : best? (.next (.alt label x y) :: frames) s marks =
    preferred true (best? (.next x :: frames) s marks) (best? (.next y :: frames) s marks) := by
  simp only [best?, Frame.ways, Code.ways, append_andThen]
  exact head?_append_map _ _ _

/-- The preferred way of two kinds of ways. -/
theorem head?_prefer_map (greedy : Bool) (more fewer : List Way) :
    (prefer greedy more fewer).head?.map (fun way => way.1 ++ marks) =
      preferred greedy (more.head?.map (fun way => way.1 ++ marks))
        (fewer.head?.map (fun way => way.1 ++ marks)) := by
  cases greedy
  · exact head?_append_map _ _ _
  · exact head?_append_map _ _ _

theorem best?_opt (label : Nat) (greedy : Bool) (x : Code) :
    best? (.next (.opt label greedy x) :: frames) s marks =
      preferred greedy (best? (.next x :: frames) s marks) (best? frames s marks) := by
  simp only [best?, Frame.ways, Code.ways, prefer_andThen, stay_andThen]
  exact head?_prefer_map _ _ _ _

theorem best?_star (label : Nat) (greedy : Bool) (x : Code) :
    best? (.next (.star label greedy x) :: frames) s marks =
      best? (.again label greedy x :: frames) s marks := rfl

theorem best?_again (label : Nat) (greedy : Bool) {x : Code} (h : x.consumes = true) :
    best? (.again label greedy x :: frames) s marks =
      preferred greedy (best? (.next x :: .again label greedy x :: frames) s marks)
        (best? frames s marks) := by
  simp only [best?, Frame.ways]
  rw [rounds_of_advances greedy (Code.advances_ways h s), prefer_andThen, stay_andThen,
    andThen_assoc]
  exact head?_prefer_map _ _ _ _

theorem best?_plus (label : Nat) (greedy : Bool) {x : Code} (h : x.consumes = true) :
    best? (.next (.plus label greedy x) :: frames) s marks =
      best? (.next x :: .again label greedy x :: frames) s marks := by
  simp only [best?, Frame.ways, Code.ways]
  rw [oneOrMore_of_advances greedy (Code.advances_ways h s), andThen_assoc]

theorem best?_group (index : Nat) (x : Code) : best? (.next (.group index x) :: frames) s marks =
    best? (.next x :: .close index :: frames) s (⟨index, false, s.position⟩ :: marks) := by
  simp only [best?, ← List.head?_map]
  congr 1
  simp [Frame.ways, Code.ways, enclose, andThen, List.flatMap_map, List.map_flatMap,
    Function.comp_def]

end Frame

/-! ## Branches -/

/-- The branches that code may enter at the place where it begins. -/
def Code.touched : Code → List Nat
  | .empty | .assertion _ => []
  | .letter label _ => [label]
  | .cat x y => x.touched ++ (if x.consumes then [] else y.touched)
  | .alt label x y => label :: (x.touched ++ y.touched)
  | .opt label _ x | .star label _ x => label :: x.touched
  | .plus _ _ x | .group _ x => x.touched

/-- The branches that may be entered at a place with what is left of code. -/
def Frame.touched : List Frame → List Nat
  | [] => []
  | .next x :: frames => x.touched ++ (if x.consumes then [] else touched frames)
  | .close _ :: frames => touched frames
  | .again label _ x :: frames => label :: (x.touched ++ touched frames)

/-- Code followed by these frames, in which every branch has a label of its own: `leads` tells of
each label from where it leads to a match, and no branch comes back to itself before a character is
taken. What is repeated takes a character. -/
def Code.Wired (leads : Nat → Spot → Prop) : Code → List Frame → Prop
  | .empty, _ | .assertion _, _ => True
  | .letter label set, frames =>
    ∀ s, leads label s ↔ Frame.Leads (.next (.letter label set) :: frames) s
  | .cat x y, frames => x.Wired leads (.next y :: frames) ∧ y.Wired leads frames
  | .alt label x y, frames =>
    (∀ s, leads label s ↔ Frame.Leads (.next (.alt label x y) :: frames) s) ∧
    label ∉ x.touched ∧ label ∉ y.touched ∧
    ((x.consumes && y.consumes) = false → label ∉ Frame.touched frames) ∧
    x.Wired leads frames ∧ y.Wired leads frames
  | .opt label greedy x, frames =>
    (∀ s, leads label s ↔ Frame.Leads (.next (.opt label greedy x) :: frames) s) ∧
    label ∉ x.touched ∧ label ∉ Frame.touched frames ∧ x.Wired leads frames
  | .plus label greedy x, frames | .star label greedy x, frames =>
    (∀ s, leads label s ↔ Frame.Leads (.again label greedy x :: frames) s) ∧
    label ∉ x.touched ∧ label ∉ Frame.touched frames ∧ x.consumes = true ∧
    x.Wired leads (.again label greedy x :: frames)
  | .group index x, frames => x.Wired leads (.close index :: frames)

/-- What is left of code is wired if each part of it is. -/
def Frame.Wired (leads : Nat → Spot → Prop) : List Frame → Prop
  | [] => True
  | .next x :: frames => x.Wired leads frames ∧ Wired leads frames
  | .close _ :: frames => Wired leads frames
  | .again label greedy x :: frames =>
    Code.Wired leads (.star label greedy x) frames ∧ Wired leads frames

/-! ## Frontiers -/

namespace Frontier

/-- The marks of the preferred match that the ways to go on from a place lead to. -/
def best? (f : Frontier) (s : Spot) : Option (List Mark) :=
  match s.rest with
  | [] => f.matched
  | c :: rest =>
    (f.threads.reverse.findSome? (fun thread =>
      Frame.best? thread.frames ⟨s.position + 1, some c, rest⟩ thread.marks)).or f.matched

theorem isSome_best?_of_matched {f : Frontier} (s : Spot) (h : f.matched.isSome = true) :
    (f.best? s).isSome = true := by
  unfold best?
  split <;> simp [h]

/-- A frontier that forgets nothing: a branch that was entered, and is not being followed any more,
has led to a match if it leads to one. -/
structure Sound (leads : Nat → Spot → Prop) (s : Spot) (busy : List Nat) (f : Frontier) : Prop where
  covered : ∀ label, f.entered.testBit label = true → label ∉ busy → leads label s →
    (f.best? s).isSome = true
  wired : ∀ thread ∈ f.threads, Frame.Wired leads thread.frames

end Frontier

/-- A step of the search at a place, while some branches are being followed, tries ways of which
this is the result: it is preferred to all that is tried later. -/
def Explores (leads : Nat → Spot → Prop) (s : Spot) (busy : List Nat) (step : Frontier → Frontier)
    (result : Option (List Mark)) : Prop :=
  ∀ f : Frontier, f.Sound leads s busy →
    (step f).Sound leads s busy ∧ (step f).best? s = (f.best? s).or result

namespace Explores

variable {leads : Nat → Spot → Prop} {s : Spot} {busy : List Nat}
  {first second : Frontier → Frontier} {result other : Option (List Mark)}

/-- To do nothing is to try nothing. -/
theorem nothing : Explores leads s busy id none :=
  fun f sound => ⟨sound, by simp⟩

theorem comp (h : Explores leads s busy first result) (h' : Explores leads s busy second other) :
    Explores leads s busy (fun f => second (first f)) (result.or other) := by
  intro f sound
  obtain ⟨sound, hfirst⟩ := h f sound
  obtain ⟨sound, hsecond⟩ := h' (first f) sound
  exact ⟨sound, by rw [hsecond, hfirst, Option.or_assoc]⟩

/-- To let a way end is to try it. -/
theorem accept (marks : List Mark) :
    Explores leads s busy (fun f => f.accept marks) (some marks) := by
  intro f sound
  have hbest : (f.accept marks).best? s = (f.best? s).or (some marks) := by
    unfold Frontier.best?
    split <;> simp [Frontier.accept]
  exact ⟨⟨fun label _ _ _ => by simp [hbest], sound.wired⟩, hbest⟩

/-- A branch that need not be entered any more has nothing to add. -/
theorem or_eq_of_known {f : Frontier} (sound : f.Sound leads s busy) {label : Nat}
    (hlabel : label ∉ busy) (hleads : leads label s ↔ result.isSome = true)
    (known : (f.matched.isSome || f.entered.testBit label) = true) :
    (f.best? s).or result = f.best? s := by
  cases hresult : result with
  | none => simp
  | some marks =>
    have hbest : (f.best? s).isSome = true := by
      rcases (Bool.or_eq_true _ _).mp known with matched | entered
      · exact f.isSome_best?_of_matched s matched
      · exact sound.covered label entered hlabel (hleads.mpr (by simp [hresult]))
    obtain ⟨best, hbest⟩ := Option.isSome_iff_exists.mp hbest
    simp [hbest]

/-- A branch that is entered counts as busy until it has been followed. -/
theorem enter_sound {f : Frontier} (sound : f.Sound leads s busy) (label : Nat) :
    Frontier.Sound leads s (label :: busy) { f with entered := f.entered ||| 1 <<< label } := by
  refine ⟨fun n entered free hn => ?_, sound.wired⟩
  simp only [List.mem_cons, not_or] at free
  have earlier : f.entered.testBit n = true := by
    simpa [Nat.one_shiftLeft, Nat.testBit_two_pow, Ne.symm free.1] using entered
  exact sound.covered n earlier free.2 hn

/-- A branch that has been followed is not busy any more: it has led to a match if it leads to
one. -/
theorem leave_sound {f : Frontier} {label : Nat} (sound : f.Sound leads s (label :: busy))
    (h : leads label s → (f.best? s).isSome = true) : f.Sound leads s busy := by
  refine ⟨fun n entered free hn => ?_, sound.wired⟩
  by_cases same : n = label
  · exact h (same ▸ hn)
  · exact sound.covered n entered (by simp [same, free]) hn

/-- A branch of two ways is tried unless it was entered before. -/
theorem fork {label : Nat} {greedy : Bool} {more stop : Frontier → Frontier}
    (hlabel : label ∉ busy) (hleads : leads label s ↔ (preferred greedy result other).isSome = true)
    (hmore : Explores leads s (label :: busy) more result)
    (hstop : Explores leads s (label :: busy) stop other) :
    Explores leads s busy (fun f => f.fork label greedy more stop)
      (preferred greedy result other) := by
  intro f sound
  by_cases known : (f.matched.isSome || f.entered.testBit label) = true
  · simp only [Frontier.fork, if_pos known]
    exact ⟨sound, (or_eq_of_known sound hlabel hleads known).symm⟩
  · simp only [Frontier.fork, if_neg known]
    have followed : Explores leads s (label :: busy)
        (fun f => if greedy then stop (more f) else more (stop f))
        (preferred greedy result other) := by
      cases greedy
      · exact hstop.comp hmore
      · exact hmore.comp hstop
    obtain ⟨after, hbest⟩ := followed _ (enter_sound sound label)
    refine ⟨leave_sound after fun hn => ?_, hbest⟩
    obtain ⟨marks, hmarks⟩ := Option.isSome_iff_exists.mp (hleads.mp hn)
    rw [hbest, hmarks]
    simp

/-- A way that takes the next character is tried unless its branch was entered before. -/
theorem push {label : Nat} {thread : Thread} {c : Char} {rest : List Char}
    (hrest : s.rest = c :: rest) (hlabel : label ∉ busy)
    (hleads : leads label s ↔ Frame.Leads thread.frames ⟨s.position + 1, some c, rest⟩)
    (wired : Frame.Wired leads thread.frames) :
    Explores leads s busy (fun f => f.push label thread)
      (Frame.best? thread.frames ⟨s.position + 1, some c, rest⟩ thread.marks) := by
  intro f sound
  have hresult := hleads.trans (Frame.isSome_best? _ _ thread.marks).symm
  by_cases known : (f.matched.isSome || f.entered.testBit label) = true
  · simp only [Frontier.push, Frontier.fork, if_pos known]
    exact ⟨sound, (or_eq_of_known sound hlabel hresult known).symm⟩
  · simp only [Frontier.push, Frontier.fork, if_neg known, if_true, id]
    have unmatched : f.matched = none := by
      cases h : f.matched with
      | none => rfl
      | some marks => simp [h] at known
    let g : Frontier := { f with
      entered := f.entered ||| 1 <<< label
      threads := thread :: f.threads }
    have hbest : g.best? s = (f.best? s).or
        (Frame.best? thread.frames ⟨s.position + 1, some c, rest⟩ thread.marks) := by
      simp [g, Frontier.best?, hrest, unmatched, List.findSome?_append]
    have pushed : g.Sound leads s (label :: busy) := by
      refine ⟨fun n entered free hn => ?_, fun other mem => ?_⟩
      · have earlier : (f.best? s).isSome = true :=
          (enter_sound sound label).covered n entered free hn
        rw [hbest, Option.isSome_or, earlier, Bool.true_or]
      · rcases List.mem_cons.mp mem with rfl | mem
        · exact wired
        · exact sound.wired other mem
    refine ⟨leave_sound pushed fun hn => ?_, hbest⟩
    rw [hbest, Option.isSome_or, hresult.mp hn, Bool.or_true]

end Explores

/-! ## Following code -/

section Follow

variable {leads : Nat → Spot → Prop} (s : Spot)

/-- A branch leads to a match if one of its two ways does. -/
theorem isSome_preferred {greedy : Bool} {frames : List Frame} (marks : List Mark)
    {more fewer : Option (List Mark)}
    (h : Frame.best? frames s marks = preferred greedy more fewer) :
    Frame.Leads frames s ↔ (preferred greedy more fewer).isSome = true := by
  rw [← h, Frame.isSome_best?]

/-- What was not entered before is not entered with a label that is none of it. -/
theorem not_mem_cons_of_forall {label : Nat} {labels busy : List Nat} (hlabel : label ∉ labels)
    (h : ∀ n ∈ labels, n ∉ busy) : ∀ n ∈ labels, n ∉ label :: busy := fun n mem =>
  List.not_mem_cons_of_ne_of_not_mem (fun same => hlabel (same ▸ mem)) (h n mem)

/-- Following a letter tries the way that takes the next character. -/
theorem explores_letter {label : Nat} {set : CharSet} {frames : List Frame} {busy : List Nat}
    (done : List Mark → Frontier → Frontier) (marks : List Mark)
    (wired : (Code.letter label set).Wired leads frames) (hframes : Frame.Wired leads frames)
    (hlabel : label ∉ busy) :
    Explores leads s busy ((Code.letter label set).enter s frames done marks)
      (Frame.best? (.next (.letter label set) :: frames) s marks) := by
  cases hrest : s.rest with
  | nil =>
    simp only [Code.enter, Spot.after, hrest, Frame.best?_letter_of_nil _ _ _ _ _ hrest]
    exact .nothing
  | cons c rest =>
    rw [Frame.best?_letter _ _ _ _ _ hrest]
    by_cases h : set.contains c
    · simp only [Code.enter, Spot.after, hrest, List.head?_cons, Option.any_some, h, if_true]
      refine .push hrest hlabel ((wired s).trans ?_) hframes
      rw [← Frame.isSome_best? _ _ [], ← Frame.isSome_best? _ _ [],
        Frame.best?_letter _ _ _ _ _ hrest, if_pos h]
    · simp only [Code.enter, Spot.after, hrest, List.head?_cons, Option.any_some, h]
      exact .nothing

/-- Following code tries the ways to match it and what is left after it. When code may take nothing,
`done` has to try the ways to match what is left. -/
theorem Code.explores_enter (x : Code) (frames : List Frame)
    (done : List Mark → Frontier → Frontier) (marks : List Mark) (busy : List Nat)
    (wired : x.Wired leads frames)
    (hframes : Frame.Wired leads frames) (hx : ∀ label ∈ x.touched, label ∉ busy)
    (hbusy : x.consumes = false → ∀ label ∈ Frame.touched frames, label ∉ busy)
    (hdone : x.consumes = false → ∀ busy marks, (∀ label ∈ Frame.touched frames, label ∉ busy) →
      Explores leads s busy (done marks) (Frame.best? frames s marks)) :
    Explores leads s busy (x.enter s frames done marks)
      (Frame.best? (.next x :: frames) s marks) := by
  induction x generalizing frames done marks busy with
  | empty =>
    rw [Frame.best?_empty]
    exact hdone rfl busy marks (hbusy rfl)
  | letter label set =>
    exact explores_letter s done marks wired hframes (hx label (by simp [Code.touched]))
  | assertion a =>
    rw [Frame.best?_assertion]
    by_cases h : a.holds s
    · simp only [Code.enter, h, if_true]
      exact hdone rfl busy marks (hbusy rfl)
    · simp only [Code.enter, h]
      exact .nothing
  | cat x y ihx ihy =>
    obtain ⟨wx, wy⟩ := wired
    rw [Frame.best?_cat]
    refine ihx (.next y :: frames) _ marks busy wx ⟨wy, hframes⟩
      (fun label mem => hx label (by simp [Code.touched, mem])) (fun hcx label mem => ?_)
      fun hcx busy marks free => ?_
    · rcases List.mem_append.mp mem with mem | mem
      · exact hx label (by simp [Code.touched, hcx, mem])
      · cases hcy : y.consumes <;> simp only [hcy, if_true] at mem
        · exact hbusy (by simp [Code.consumes, hcx, hcy]) label mem
        · cases mem
    · refine ihy frames done marks busy wy hframes
        (fun label mem => free label (by simp [Frame.touched, mem])) (fun hcy label mem => ?_)
        fun hcy => hdone (by simp [Code.consumes, hcx, hcy])
      exact free label (by simp [Frame.touched, hcy, mem])
  | alt label x y ihx ihy =>
    obtain ⟨hleads, hlx, hly, hlf, wx, wy⟩ := wired
    have hbest := Frame.best?_alt frames s marks label x y
    have free : (x.consumes && y.consumes) = false →
        ∀ n ∈ Frame.touched frames, n ∉ label :: busy :=
      fun hc => not_mem_cons_of_forall (hlf hc) (hbusy hc)
    have freex := not_mem_cons_of_forall hlx fun n mem => hx n (by simp [Code.touched, mem])
    have freey := not_mem_cons_of_forall hly fun n mem => hx n (by simp [Code.touched, mem])
    rw [hbest]
    refine .fork (hx label (by simp [Code.touched]))
      ((hleads s).trans (isSome_preferred s marks hbest)) ?_ ?_
    · exact ihx frames done marks _ wx hframes freex (fun hc => free (by simp [hc]))
        fun hc => hdone (by simp [Code.consumes, hc])
    · exact ihy frames done marks _ wy hframes freey (fun hc => free (by simp [hc]))
        fun hc => hdone (by simp [Code.consumes, hc])
  | opt label greedy x ih =>
    obtain ⟨hleads, hlx, hlf, wx⟩ := wired
    have hbest := Frame.best?_opt frames s marks label greedy x
    have free := not_mem_cons_of_forall hlf (hbusy rfl)
    have freex := not_mem_cons_of_forall hlx fun n mem => hx n (by simp [Code.touched, mem])
    rw [hbest]
    refine .fork (hx label (by simp [Code.touched]))
      ((hleads s).trans (isSome_preferred s marks hbest)) ?_ (hdone rfl _ marks free)
    exact ih frames done marks _ wx hframes freex (fun _ => free) fun _ => hdone rfl
  | plus label greedy x ih =>
    obtain ⟨hleads, hlx, hlf, hc, wx⟩ := wired
    rw [Frame.best?_plus _ _ _ _ _ hc]
    exact ih (.again label greedy x :: frames) _ marks busy wx
      ⟨⟨hleads, hlx, hlf, hc, wx⟩, hframes⟩ hx (by simp [hc]) (by simp [hc])
  | star label greedy x ih =>
    obtain ⟨hleads, hlx, hlf, hc, wx⟩ := wired
    have hbest := Frame.best?_again frames s marks label greedy hc
    have free := not_mem_cons_of_forall hlf (hbusy rfl)
    have freex := not_mem_cons_of_forall hlx fun n mem => hx n (by simp [Code.touched, mem])
    rw [Frame.best?_star, hbest]
    refine .fork (hx label (by simp [Code.touched]))
      ((hleads s).trans (isSome_preferred s marks hbest)) ?_ (hdone rfl _ marks free)
    exact ih (.again label greedy x :: frames) _ marks _ wx
      ⟨⟨hleads, hlx, hlf, hc, wx⟩, hframes⟩ freex (by simp [hc]) (by simp [hc])
  | group index x ih =>
    rw [Frame.best?_group]
    refine ih (.close index :: frames) _ _ busy wired hframes hx hbusy fun hc busy marks free => ?_
    rw [Frame.best?_close]
    exact hdone hc busy _ free

/-- Going on with what is left of code tries the ways to match it. -/
theorem Frame.explores_resume (frames : List Frame) (marks : List Mark) (busy : List Nat)
    (wired : Frame.Wired leads frames) (hbusy : ∀ label ∈ touched frames, label ∉ busy) :
    Explores leads s busy (resume s frames marks) (best? frames s marks) := by
  induction frames generalizing marks busy with
  | nil =>
    rw [best?_nil]
    exact .accept marks
  | cons frame frames ih =>
    cases frame with
    | next x =>
      obtain ⟨wx, wframes⟩ := wired
      refine x.explores_enter s frames _ marks busy wx wframes
        (fun label mem => hbusy label (by simp [touched, mem])) (fun hc label mem => ?_)
        fun _ busy marks free => ih marks busy wframes free
      exact hbusy label (by simp [touched, hc, mem])
    | close index =>
      rw [best?_close]
      exact ih _ busy wired hbusy
    | again label greedy x =>
      obtain ⟨⟨hleads, hlx, hlf, hc, wx⟩, wframes⟩ := wired
      have hbest := best?_again frames s marks label greedy hc
      rw [hbest]
      refine .fork (hbusy label (by simp [touched]))
        ((hleads s).trans (isSome_preferred s marks hbest)) ?_ (ih marks _ wframes fun n mem => ?_)
      · refine x.explores_enter s (.again label greedy x :: frames) _ marks _ wx
          ⟨⟨hleads, hlx, hlf, hc, wx⟩, wframes⟩ (fun n mem => ?_) (by simp [hc]) (by simp [hc])
        exact List.not_mem_cons_of_ne_of_not_mem (fun same => hlx (same ▸ mem))
          (hbusy n (by simp [touched, mem]))
      · exact List.not_mem_cons_of_ne_of_not_mem (fun same => hlf (same ▸ mem))
          (hbusy n (by simp [touched, mem]))

end Follow

/-! ## The search -/

namespace Frontier

variable {leads : Nat → Spot → Prop}

/-- The threads that have reached a place lead to a match if one of them does, and the most
preferred of those that do comes first. -/
theorem ofThreads_spec (s : Spot) (threads : List Thread)
    (wired : ∀ thread ∈ threads, Frame.Wired leads thread.frames) :
    (ofThreads s threads).Sound leads s [] ∧ (ofThreads s threads).best? s =
      threads.reverse.findSome? (fun thread => Frame.best? thread.frames s thread.marks) := by
  induction threads with
  | nil =>
    refine ⟨⟨fun label entered => ?_, fun thread mem => by cases mem⟩, ?_⟩
    · simp [ofThreads] at entered
    · unfold best?
      split <;> rfl
  | cons thread threads ih =>
    obtain ⟨sound, hbest⟩ := ih fun other mem => wired other (List.mem_cons_of_mem _ mem)
    obtain ⟨after, hresume⟩ := Frame.explores_resume s thread.frames thread.marks []
      (wired thread List.mem_cons_self) (by simp) _ sound
    refine ⟨after, ?_⟩
    rw [List.reverse_cons, List.findSome?_append, ← hbest]
    simpa [ofThreads] using hresume

/-- The search goes through the text to the preferred match that its frontier leads to. -/
theorem run_eq (best : Option (List Mark)) (f : Frontier) (s : Spot)
    (wired : ∀ thread ∈ f.threads, Frame.Wired leads thread.frames) :
    run best f s.position s.rest = (f.best? s).or best := by
  obtain ⟨position, before, rest⟩ := s
  induction rest generalizing best f position before with
  | nil => rfl
  | cons c rest ih =>
    simp only [run]
    split
    · rename_i none
      have : f.threads = [] := List.isEmpty_iff.mp none
      simp [best?, this]
    · obtain ⟨sound, hbest⟩ := ofThreads_spec ⟨position + 1, some c, rest⟩ f.threads wired
      rw [ih _ _ sound.wired (position + 1) (some c), hbest, ← Option.or_assoc]
      rfl

end Frontier

/-- The search finds the preferred way to match the code, if its branches have labels of their
own. -/
theorem Code.find?_eq {leads : Nat → Spot → Prop} (code : Code) (wired : code.Wired leads [])
    (text : List Char) :
    code.find? text = ((code.ways (.start text)).head?).map Prod.fst := by
  obtain ⟨sound, hbest⟩ := Frontier.ofThreads_spec (.start text) [⟨[.next code], []⟩]
    (by simpa [Frame.Wired] using wired)
  have hrun := Frontier.run_eq none _ (.start text) sound.wired
  rw [hbest] at hrun
  simpa [Code.find?, Spot.start, Frame.best?, Frame.ways] using hrun

end RouteChain.Regex
