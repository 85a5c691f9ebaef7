import RouteChain.Proofs.Regex.Soundness

/-!
# What is a match is found

Whatever expression it searches for, the search finds something if there is any way to match it.
Where a body that is repeated may be empty, a branch can lead back to itself at the same place, and
what is not entered again there need not have led anywhere yet. So the search is looked at from its
end: if nothing was found, all that was entered is closed under going on from it, and nothing within
it leads to a match.

## Main definitions

* `Code.Placed`, `Frame.Placed` — every branch has one place, told by its label.
* `Code.Settled`, `Frame.Settled` — all that code enters at a place has been entered there.
* `Expanded` — what was entered has been gone on from, except where that is still pending.
* `Exhausts` — what it means that a step of the search leaves nothing out.

The main result is `Code.isSome_find?_ofExpr`.
-/

namespace RouteChain.Regex

open Way

/-! ## Places of branches -/

/-- The label of each branch of the code tells what is left of the code there. -/
def Code.Placed (place : Nat → List Frame) : Code → List Frame → Prop
  | .empty, _ | .assertion _, _ => True
  | .letter label set, frames => place label = .next (.letter label set) :: frames
  | .cat x y, frames => x.Placed place (.next y :: frames) ∧ y.Placed place frames
  | .alt label x y, frames =>
    place label = .next (.alt label x y) :: frames ∧ x.Placed place frames ∧ y.Placed place frames
  | .opt label greedy x, frames =>
    place label = .next (.opt label greedy x) :: frames ∧ x.Placed place frames
  | .plus label greedy x, frames | .star label greedy x, frames =>
    place label = .again label greedy x :: frames ∧ x.Placed place (.again label greedy x :: frames)
  | .group index x, frames => x.Placed place (.close index :: frames)

def Frame.Placed (place : Nat → List Frame) : List Frame → Prop
  | [] => True
  | .next x :: frames => x.Placed place frames ∧ Placed place frames
  | .close _ :: frames => Placed place frames
  | .again label greedy x :: frames =>
    Code.Placed place (.star label greedy x) frames ∧ Placed place frames

theorem Code.placed_of_places {place : Nat → List Frame} {x : Code} {frames : List Frame}
    (h : ∀ entry ∈ x.places frames, place entry.1 = entry.2) : x.Placed place frames := by
  induction x generalizing frames with
  | empty | assertion => trivial
  | letter label set => exact h (label, _) List.mem_cons_self
  | cat x y ihx ihy =>
    exact ⟨ihx fun entry mem => h entry (List.mem_append_left _ mem),
      ihy fun entry mem => h entry (List.mem_append_right _ mem)⟩
  | alt label x y ihx ihy =>
    exact ⟨h (label, _) List.mem_cons_self, ihx fun entry mem => h entry (by simp [places, mem]),
      ihy fun entry mem => h entry (by simp [places, mem])⟩
  | opt label greedy x ih | plus label greedy x ih | star label greedy x ih =>
    exact ⟨h (label, _) List.mem_cons_self,
      ih fun entry mem => h entry (List.mem_cons_of_mem _ mem)⟩
  | group index x ih => exact ih h

/-- Where labels differ each of them has one place. -/
theorem Code.exists_placed {x : Code} (nodup : x.labels.Nodup) :
    ∃ place, x.Placed place [] := by
  let place (label : Nat) : List Frame :=
    ((x.places []).find? (fun entry => entry.1 == label)).elim [] Prod.snd
  refine ⟨place, placed_of_places fun entry mem => ?_⟩
  have unique := List.inj_on_of_nodup_map (by rwa [map_fst_places x []])
  obtain ⟨other, hother⟩ : ∃ other, (x.places []).find? (fun e => e.1 == entry.1) = some other :=
    Option.isSome_iff_exists.mp (List.find?_isSome.mpr ⟨entry, mem, beq_self_eq_true _⟩)
  have hlabel : other.1 = entry.1 := by simpa using List.find?_some hother
  obtain rfl := unique (List.mem_of_find?_eq_some hother) mem hlabel
  simp [place, hother]

/-! ## What is entered -/

/-- All branches that code enters at a place have been entered, and if the code can match nothing
there, `rest` holds. -/
def Code.Settled (entered : Nat → Prop) (s : Spot) : Code → (rest : Prop) → Prop
  | .empty, rest => rest
  | .letter label set, _ => s.after.any set.contains = true → entered label
  | .assertion a, rest => a.holds s = true → rest
  | .cat x y, rest => x.Settled entered s (y.Settled entered s rest)
  | .alt label _ _, _ | .opt label _ _, _ | .star label _ _, _ => entered label
  | .plus label _ x, _ => x.Settled entered s (entered label)
  | .group _ x, rest => x.Settled entered s rest

/-- All branches that are entered at a place with what is left of code have been entered, and its
end is not reached there. -/
def Frame.Settled (entered : Nat → Prop) (s : Spot) : List Frame → Prop
  | [] => False
  | .next x :: frames => x.Settled entered s (Settled entered s frames)
  | .close _ :: frames => Settled entered s frames
  | .again label _ _ :: _ => entered label

/-- What is left of code behind each of the two ways that a branch goes on. -/
def Frame.branches : List Frame → List (List Frame)
  | .next (.alt _ x y) :: frames => [.next x :: frames, .next y :: frames]
  | .next (.opt _ _ x) :: frames => [.next x :: frames, frames]
  | .again label greedy x :: frames => [.next x :: .again label greedy x :: frames, frames]
  | _ => []

section

variable {entered entered' : Nat → Prop} {s : Spot}

theorem Code.Settled.mono {x : Code} {rest rest' : Prop} (h : x.Settled entered s rest)
    (hentered : ∀ label, entered label → entered' label) (hrest : rest → rest') :
    x.Settled entered' s rest' := by
  induction x generalizing rest rest' with
  | empty => exact hrest h
  | letter label set => exact fun hafter => hentered label (h hafter)
  | assertion a => exact fun holds => hrest (h holds)
  | cat x y ihx ihy => exact ihx h fun hy => ihy hy hrest
  | alt label x y | opt label greedy x | star label greedy x => exact hentered label h
  | plus label greedy x ih => exact ih h (hentered label)
  | group index x ih => exact ih h hrest

theorem Frame.Settled.mono {frames : List Frame} (h : Settled entered s frames)
    (hentered : ∀ label, entered label → entered' label) : Settled entered' s frames := by
  induction frames with
  | nil => exact h
  | cons frame frames ih =>
    cases frame with
    | next x => exact Code.Settled.mono h hentered ih
    | close index => exact ih h
    | again label greedy x => exact hentered label h

end

/-- What was entered at a place has been gone on from, unless that is pending: all that its branches
enter has been entered, and a letter that was entered leads nowhere. -/
structure Expanded (place : Nat → List Frame) (s : Spot) (pending : List (List Frame))
    (entered : Nat → Prop) : Prop where
  settled : ∀ label, entered label → ∀ branch ∈ Frame.branches (place label),
    branch ∈ pending ∨ Frame.Settled entered s branch
  blocked : ∀ label, entered label → ∀ n set frames,
    place label = .next (.letter n set) :: frames → ¬ Frame.Leads (place label) s

/-- What has been settled is not pending any more. -/
theorem Expanded.settle {place : Nat → List Frame} {s : Spot} {pending pending' : List (List Frame)}
    {entered : Nat → Prop} (h : Expanded place s pending' entered)
    (hpending : ∀ branch ∈ pending', branch ∈ pending ∨ Frame.Settled entered s branch) :
    Expanded place s pending entered where
  settled label hlabel branch mem :=
    (h.settled label hlabel branch mem).elim (hpending branch) .inr
  blocked := h.blocked

/-! ## Closed sets lead nowhere -/

namespace Frame

theorem leads_next {x : Code} {frames : List Frame} {s : Spot} :
    Leads (.next x :: frames) s ↔ ∃ way ∈ x.ways s, Leads frames way.2 := by
  simp [Leads, ways, andThen, List.flatMap_eq_nil_iff]

theorem leads_again {label : Nat} {greedy : Bool} {x : Code} {frames : List Frame} {s : Spot} :
    Leads (.again label greedy x :: frames) s ↔
      ∃ way ∈ rounds x.ways greedy s, Leads frames way.2 := by
  simp [Leads, ways, andThen, List.flatMap_eq_nil_iff]

theorem leads_close {index : Nat} {frames : List Frame} {s : Spot} :
    Leads (.close index :: frames) s ↔ Leads frames s := by
  simp [Leads, ways]

end Frame

section

variable {place : Nat → List Frame} {s : Spot} {entered : Nat → Prop}

/-- Of ways that start at a place, none leads on after a character, and if one takes no character
then what is left behind it is settled. -/
def Blocked (entered : Nat → Prop) (s : Spot) (frames : List Frame) (ways : List Way) : Prop :=
  ∀ way ∈ ways, way.2.rest.length < s.rest.length ∧ ¬ Frame.Leads frames way.2 ∨
    way.2 = s ∧ Frame.Settled entered s frames

theorem blocked_stay {frames : List Frame} (h : Frame.Settled entered s frames) :
    Blocked entered s frames (stay s) := by
  intro way mem
  obtain rfl := List.mem_singleton.mp mem
  exact .inr ⟨rfl, h⟩

theorem Blocked.prefer {frames : List Frame} {greedy : Bool} {more fewer : List Way}
    (h : Blocked entered s frames more) (h' : Blocked entered s frames fewer) :
    Blocked entered s frames (prefer greedy more fewer) :=
  fun way mem => (mem_prefer.mp mem).elim (h way) (h' way)

/-- Rounds that take a character each lead nowhere if nothing is led to by going round again. -/
theorem Blocked.rounds {label : Nat} {greedy : Bool} {x : Code} {frames : List Frame}
    (h : Blocked entered s (.again label greedy x :: frames) (x.ways s))
    (hframes : Frame.Settled entered s frames) :
    Blocked entered s frames (rounds x.ways greedy s) := by
  rw [rounds_eq]
  refine Blocked.prefer (fun way mem => .inl ?_) (blocked_stay hframes)
  obtain ⟨first, hfirst, last, hlast, rfl⟩ := mem_andThen.mp mem
  obtain ⟨hfirst, hshorter⟩ := List.mem_filter.mp hfirst
  have hshorter : first.2.rest.length < s.rest.length := of_decide_eq_true hshorter
  have hproceeds := proceeds_rounds x.ways greedy _ last hlast
  refine ⟨Nat.lt_of_le_of_lt hproceeds hshorter, fun hleads => ?_⟩
  rcases h first hfirst with ⟨-, hblocked⟩ | ⟨hstays, -⟩
  · exact hblocked (Frame.leads_again.mpr ⟨last, hlast, hleads⟩)
  · rw [hstays] at hshorter
    exact absurd hshorter (Nat.lt_irrefl _)

/-- Code that has been entered at a place, where all that was entered has been gone on from, leads
nowhere after a character. -/
theorem Code.blocked_of_settled {x : Code} {frames : List Frame} (placed : x.Placed place frames)
    (expanded : Expanded place s [] entered)
    (hx : x.Settled entered s (Frame.Settled entered s frames)) :
    Blocked entered s frames (x.ways s) := by
  have settled {label : Nat} {here : List Frame} (hplace : place label = here)
      (h : entered label) : ∀ branch ∈ Frame.branches here, Frame.Settled entered s branch :=
    fun branch mem =>
      (expanded.settled label h branch (hplace ▸ mem)).resolve_left List.not_mem_nil
  induction x generalizing frames with
  | empty => exact blocked_stay hx
  | letter label set =>
    intro way mem
    refine .inl ⟨set.advances_ways s way mem, fun hleads => ?_⟩
    have hafter : s.after.any set.contains = true := by
      simp only [Code.ways, CharSet.ways] at mem
      split at mem
      · cases mem
      · rename_i c rest hrest
        split at mem
        · rename_i hc
          simpa [Spot.after, hrest] using hc
        · cases mem
    refine expanded.blocked label (hx hafter) label set frames placed ?_
    rw [placed]
    exact Frame.leads_next.mpr ⟨way, mem, hleads⟩
  | assertion a =>
    intro way mem
    simp only [Code.ways, Assertion.ways] at mem
    split at mem
    · rename_i holds
      exact blocked_stay (hx holds) way mem
    · cases mem
  | cat x y ihx ihy =>
    intro way mem
    obtain ⟨first, hfirst, last, hlast, rfl⟩ := mem_andThen.mp mem
    rcases ihx placed.1 hx first hfirst with ⟨hshorter, hblocked⟩ | ⟨hstays, hy⟩
    · refine .inl ⟨Nat.lt_of_le_of_lt (y.proceeds_ways _ last hlast) hshorter, fun hleads => ?_⟩
      exact hblocked (Frame.leads_next.mpr ⟨last, hlast, hleads⟩)
    · rw [hstays] at hlast
      exact ihy placed.2 hy last hlast
  | alt label x y ihx ihy =>
    obtain ⟨hplace, px, py⟩ := placed
    have hbranches := settled hplace hx
    simp only [Frame.branches, List.forall_mem_cons] at hbranches
    intro way mem
    exact (List.mem_append.mp mem).elim (ihx px hbranches.1 way) (ihy py hbranches.2.1 way)
  | opt label greedy x ih =>
    obtain ⟨hplace, px⟩ := placed
    have hbranches := settled hplace hx
    simp only [Frame.branches, List.forall_mem_cons] at hbranches
    exact (ih px hbranches.1).prefer (blocked_stay hbranches.2.1)
  | plus label greedy x ih =>
    obtain ⟨hplace, px⟩ := placed
    intro way mem
    rw [Code.ways, oneOrMore] at mem
    obtain ⟨first, hfirst, last, hlast, rfl⟩ := mem_andThen.mp mem
    rcases ih px hx first hfirst with ⟨hshorter, hblocked⟩ | ⟨hstays, hlabel⟩
    · rw [if_pos hshorter] at hlast
      have hproceeds := proceeds_rounds x.ways greedy _ last hlast
      refine .inl ⟨Nat.lt_of_le_of_lt hproceeds hshorter, fun hleads => ?_⟩
      exact hblocked (Frame.leads_again.mpr ⟨last, hlast, hleads⟩)
    · rw [hstays, if_neg (Nat.lt_irrefl _)] at hlast
      have hbranches := settled hplace hlabel
      simp only [Frame.branches, List.forall_mem_cons] at hbranches
      obtain rfl := List.mem_singleton.mp hlast
      exact .inr ⟨rfl, hbranches.2.1⟩
  | star label greedy x ih =>
    obtain ⟨hplace, px⟩ := placed
    have hbranches := settled hplace hx
    simp only [Frame.branches, List.forall_mem_cons] at hbranches
    exact (ih px hbranches.1).rounds hbranches.2.1
  | group index x ih =>
    intro way mem
    obtain ⟨inner, hinner, rfl⟩ := List.mem_map.mp mem
    have := ih placed hx inner hinner
    rwa [Frame.leads_close] at this

/-- Nor does what is left of code. -/
theorem Frame.not_leads_of_settled {frames : List Frame} (placed : Placed place frames)
    (expanded : Expanded place s [] entered) (h : Settled entered s frames) :
    ¬ Leads frames s := by
  induction frames with
  | nil => exact absurd h id
  | cons frame frames ih =>
    cases frame with
    | next x =>
      rw [leads_next]
      rintro ⟨way, mem, hleads⟩
      rcases Code.blocked_of_settled placed.1 expanded h way mem with
        ⟨-, hblocked⟩ | ⟨hstays, hframes⟩
      · exact hblocked hleads
      · rw [hstays] at hleads
        exact ih placed.2 hframes hleads
    | close index =>
      rw [leads_close]
      exact ih placed h
    | again label greedy x =>
      rw [leads_again]
      rintro ⟨way, mem, hleads⟩
      have hstar := Code.blocked_of_settled (x := .star label greedy x) placed.1 expanded h
      rcases hstar way mem with ⟨-, hblocked⟩ | ⟨hstays, hframes⟩
      · exact hblocked hleads
      · rw [hstays] at hleads
        exact ih placed.2 hframes hleads

end

/-! ## Steps of the search -/

def Frontier.HasEntered (f : Frontier) (label : Nat) : Prop :=
  f.entered.testBit label = true

/-- A frontier that another has become: nothing that was entered or found is lost, and its threads
have their places if those of the other did. -/
structure Frontier.Grows (place : Nat → List Frame) (s : Spot) (f g : Frontier) : Prop where
  entered : ∀ label, f.HasEntered label → g.HasEntered label
  found : (f.best? s).isSome = true → (g.best? s).isSome = true
  placed : (∀ thread ∈ f.threads, Frame.Placed place thread.frames) →
    ∀ thread ∈ g.threads, Frame.Placed place thread.frames

/-- A step of the search at a place, taken where some branches are known to be entered and what
stands behind some is being followed: unless something is found, it leaves nothing pending, and
the given goals are settled. -/
def Exhausts (place : Nat → List Frame) (s : Spot) (known : List Nat)
    (ongoing : List (List Frame)) (step : Frontier → Frontier) (goals : List (List Frame)) : Prop :=
  ∀ f : Frontier, (∀ label ∈ known, f.HasEntered label) → f.Grows place s (step f) ∧
    ((step f).best? s = none → ∀ pending, ongoing ⊆ pending →
      Expanded place s pending f.HasEntered →
        Expanded place s pending (step f).HasEntered ∧
          ∀ goal ∈ goals, Frame.Settled (step f).HasEntered s goal)

section

variable {place : Nat → List Frame} {s : Spot}

namespace Frontier

theorem Grows.refl (f : Frontier) : f.Grows place s f :=
  ⟨fun _ => id, id, id⟩

theorem Grows.trans {f g h : Frontier} (hfg : f.Grows place s g) (hgh : g.Grows place s h) :
    f.Grows place s h :=
  ⟨fun label hf => hgh.entered label (hfg.entered label hf), hgh.found ∘ hfg.found,
    hgh.placed ∘ hfg.placed⟩

/-- What is not found later was not found before. -/
theorem Grows.unfound {f g : Frontier} (h : f.Grows place s g) (hg : g.best? s = none) :
    f.best? s = none := by
  by_contra hf
  have := h.found (Option.isSome_iff_ne_none.mpr hf)
  rw [hg] at this
  cases this

/-- The frontier where one more branch is entered. -/
def enter (f : Frontier) (label : Nat) : Frontier :=
  { f with entered := f.entered ||| (1 <<< label) }

theorem hasEntered_enter {f : Frontier} {label n : Nat} :
    (f.enter label).HasEntered n ↔ f.HasEntered n ∨ n = label := by
  rw [HasEntered, enter, Nat.testBit_or, Bool.or_eq_true, Nat.one_shiftLeft, Nat.testBit_two_pow,
    decide_eq_true_eq, @eq_comm _ label n, HasEntered]

theorem grows_enter (f : Frontier) (label : Nat) : f.Grows place s (f.enter label) :=
  ⟨fun _ h => hasEntered_enter.mpr (.inl h), id, id⟩

end Frontier

open Frontier

/-- What stands behind a branch that is entered is pending at first. -/
theorem Expanded.enter {f : Frontier} {label : Nat} {pending : List (List Frame)}
    (h : Expanded place s pending f.HasEntered)
    (hletter : ∀ n set frames, place label ≠ .next (.letter n set) :: frames) :
    Expanded place s (Frame.branches (place label) ++ pending) (f.enter label).HasEntered where
  settled n hn branch mem := by
    rcases hasEntered_enter.mp hn with hn | rfl
    · refine (h.settled n hn branch mem).imp (List.mem_append_right _) fun hbranch => ?_
      exact hbranch.mono fun _ h => hasEntered_enter.mpr (.inl h)
    · exact .inl (List.mem_append_left _ mem)
  blocked n hn m set frames hplace := by
    rcases hasEntered_enter.mp hn with hn | rfl
    · exact h.blocked n hn m set frames hplace
    · exact absurd hplace (hletter m set frames)

namespace Exhausts

variable {known : List Nat} {ongoing : List (List Frame)} {step first second : Frontier → Frontier}
  {goals others : List (List Frame)}

/-- To do nothing settles what is settled by what is known to be entered. -/
theorem nothing (h : ∀ entered : Nat → Prop, (∀ label ∈ known, entered label) →
    ∀ goal ∈ goals, Frame.Settled entered s goal) :
    Exhausts place s known ongoing (fun f => f) goals :=
  fun f hknown => ⟨.refl f, fun _ _ _ expanded => ⟨expanded, h _ hknown⟩⟩

theorem comp (h : Exhausts place s known ongoing first goals)
    (h' : Exhausts place s known ongoing second others) :
    Exhausts place s known ongoing (fun f => second (first f)) (goals ++ others) := by
  intro f hknown
  obtain ⟨grows, hfirst⟩ := h f hknown
  obtain ⟨grows', hsecond⟩ := h' (first f) fun label mem => grows.entered label (hknown label mem)
  refine ⟨grows.trans grows', fun unfound pending hpending expanded => ?_⟩
  obtain ⟨expanded, hgoals⟩ := hfirst (grows'.unfound unfound) pending hpending expanded
  obtain ⟨expanded, hothers⟩ := hsecond unfound pending hpending expanded
  refine ⟨expanded, fun goal mem => ?_⟩
  rcases List.mem_append.mp mem with mem | mem
  · exact (hgoals goal mem).mono grows'.entered
  · exact hothers goal mem

theorem mono {known' : List Nat} {ongoing' : List (List Frame)}
    (h : Exhausts place s known ongoing step goals) (hknown : known ⊆ known')
    (hongoing : ongoing ⊆ ongoing') : Exhausts place s known' ongoing' step goals := by
  intro f hf
  obtain ⟨grows, hstep⟩ := h f fun label mem => hf label (hknown mem)
  exact ⟨grows, fun unfound pending hpending =>
    hstep unfound pending (List.Subset.trans hongoing hpending)⟩

/-- What settles some goals settles what follows from them. -/
theorem of_settled (h : Exhausts place s known ongoing step goals)
    (himp : ∀ entered : Nat → Prop, (∀ goal ∈ goals, Frame.Settled entered s goal) →
      ∀ goal ∈ others, Frame.Settled entered s goal) :
    Exhausts place s known ongoing step others := by
  intro f hknown
  obtain ⟨grows, hstep⟩ := h f hknown
  refine ⟨grows, fun unfound pending hpending expanded => ?_⟩
  obtain ⟨expanded, hgoals⟩ := hstep unfound pending hpending expanded
  exact ⟨expanded, himp _ hgoals⟩

/-- What is left of code is settled if that which enters the same branches is. -/
theorem congr {frames other : List Frame} (h : Exhausts place s known ongoing step [frames])
    (himp : ∀ entered : Nat → Prop, Frame.Settled entered s frames →
      Frame.Settled entered s other) : Exhausts place s known ongoing step [other] :=
  h.of_settled fun entered hframes => by
    simpa using himp entered (hframes frames List.mem_cons_self)

/-- What a step settles need not be followed by those who take it. -/
theorem settle {branch : List Frame} (h : Exhausts place s known (branch :: ongoing) step goals)
    (mem : branch ∈ goals) : Exhausts place s known ongoing step goals := by
  intro f hknown
  obtain ⟨grows, hstep⟩ := h f hknown
  refine ⟨grows, fun unfound pending hpending expanded => ?_⟩
  obtain ⟨expanded, hgoals⟩ := hstep unfound (branch :: pending)
    (List.cons_subset_cons branch hpending)
    (expanded.settle fun other hother => .inl (List.mem_cons_of_mem branch hother))
  refine ⟨expanded.settle fun other hother => ?_, hgoals⟩
  rcases List.mem_cons.mp hother with rfl | hother
  · exact .inr (hgoals _ mem)
  · exact .inl hother

/-- To let a way end is to find it. -/
theorem accept (marks : List Mark) :
    Exhausts place s known ongoing (fun f => f.accept marks) goals := by
  intro f _
  have hfound : ((f.accept marks).best? s).isSome = true :=
    Frontier.isSome_best?_of_matched s (by simp [Frontier.accept])
  refine ⟨⟨fun _ => id, fun _ => hfound, id⟩, fun unfound => ?_⟩
  rw [unfound] at hfound
  cases hfound

/-- A branch that need not be entered any more has been entered, unless something is found. -/
theorem hasEntered_of_skipped {f : Frontier} {label : Nat}
    (skipped : (f.matched.isSome || f.entered.testBit label) = true) (unfound : f.best? s = none) :
    f.HasEntered label := by
  refine ((Bool.or_eq_true _ _).mp skipped).resolve_left fun hmatched => ?_
  have := Frontier.isSome_best?_of_matched s hmatched
  rw [unfound] at this
  cases this

/-- A branch of two ways is settled once it is entered, and what stands behind both is followed, or
is being followed already. -/
theorem fork {label : Nat} {greedy : Bool} {more stop : Frontier → Frontier}
    {frames : List Frame}
    (hletter : ∀ n set frames, place label ≠ .next (.letter n set) :: frames)
    (hbranches : ∀ branch ∈ Frame.branches (place label),
      branch ∈ ongoing ∨ branch ∈ goals ∨ branch ∈ others)
    (hframes : ∀ entered : Nat → Prop, entered label → Frame.Settled entered s frames)
    (hmore : Exhausts place s (label :: known) ongoing more goals)
    (hstop : Exhausts place s (label :: known) ongoing stop others) :
    Exhausts place s known ongoing (fun f => f.fork label greedy more stop) [frames] := by
  intro f hknown
  by_cases skipped : (f.matched.isSome || f.entered.testBit label) = true
  · simp only [Frontier.fork, if_pos skipped]
    refine ⟨.refl f, fun unfound pending _ expanded => ⟨expanded, fun goal mem => ?_⟩⟩
    obtain rfl := List.mem_singleton.mp mem
    exact hframes _ (hasEntered_of_skipped skipped unfound)
  · simp only [Frontier.fork, if_neg skipped]
    have followed : Exhausts place s (label :: known) ongoing
        (fun f => if greedy then stop (more f) else more (stop f)) (goals ++ others) := by
      cases greedy
      · exact (hstop.comp hmore).of_settled fun _ h goal mem =>
          h goal (List.mem_append.mpr (List.mem_append.mp mem).symm)
      · exact hmore.comp hstop
    obtain ⟨grows, hfollow⟩ := followed (f.enter label) fun n mem => by
      rcases List.mem_cons.mp mem with rfl | mem
      · exact hasEntered_enter.mpr (.inr rfl)
      · exact hasEntered_enter.mpr (.inl (hknown n mem))
    refine ⟨(f.grows_enter label).trans grows, fun unfound pending hpending expanded => ?_⟩
    obtain ⟨expanded, hgoals⟩ := hfollow unfound (Frame.branches (place label) ++ pending)
      (List.subset_append_of_subset_right _ hpending) (expanded.enter hletter)
    refine ⟨expanded.settle fun branch mem => ?_, fun goal mem => ?_⟩
    · rcases List.mem_append.mp mem with mem | mem
      · exact (hbranches branch mem).imp (@hpending branch) fun h =>
          hgoals branch (List.mem_append.mpr h)
      · exact .inl mem
    · obtain rfl := List.mem_singleton.mp mem
      exact hframes _ (grows.entered label (hasEntered_enter.mpr (.inr rfl)))

/-- A repetition that was entered need not be entered again. -/
theorem entered {label : Nat} {greedy : Bool} {x : Code} {frames : List Frame} :
    Exhausts place s (label :: known) ongoing (fun f => f) [.again label greedy x :: frames] :=
  .nothing fun _ hknown goal mem => by
    obtain rfl := List.mem_singleton.mp mem
    exact hknown label List.mem_cons_self

/-- A repetition is settled once its body, and what is left behind it, is followed. -/
theorem again {label : Nat} {greedy : Bool} {x : Code} {frames : List Frame}
    {more stop : Frontier → Frontier} (hplace : place label = .again label greedy x :: frames)
    (hmore : Exhausts place s (label :: known) ongoing more
      [.next x :: .again label greedy x :: frames])
    (hstop : Exhausts place s known ongoing stop [frames]) :
    Exhausts place s known ongoing (fun f => f.fork label greedy more stop)
      [.again label greedy x :: frames] := by
  have hstop' := hstop.mono (List.subset_cons_self label known) (List.Subset.refl ongoing)
  refine .fork (by simp [hplace]) ?_ (fun _ => id) hmore hstop'
  simp [hplace, Frame.branches]

/-- A letter is settled once it is entered. -/
theorem push {label : Nat} {set : CharSet} {frames : List Frame} {marks : List Mark} {c : Char}
    {rest : List Char} (hplace : place label = .next (.letter label set) :: frames)
    (placed : Frame.Placed place frames) (hrest : s.rest = c :: rest)
    (hset : set.contains c = true) :
    Exhausts place s known ongoing (fun f => f.push label ⟨frames, marks⟩)
      [.next (.letter label set) :: frames] := by
  intro f _
  by_cases skipped : (f.matched.isSome || f.entered.testBit label) = true
  · simp only [Frontier.push, Frontier.fork, if_pos skipped]
    refine ⟨.refl f, fun unfound pending _ expanded => ⟨expanded, fun goal mem => ?_⟩⟩
    obtain rfl := List.mem_singleton.mp mem
    exact fun _ => hasEntered_of_skipped skipped unfound
  · simp only [Frontier.push, Frontier.fork, if_neg skipped, if_true, id]
    have unmatched : f.matched = none := by
      cases h : f.matched with
      | none => rfl
      | some marks => simp [h] at skipped
    let g : Frontier := { f.enter label with threads := ⟨frames, marks⟩ :: f.threads }
    have hbest : g.best? s = (f.best? s).or
        (Frame.best? (.next (.letter label set) :: frames) s marks) := by
      rw [Frame.best?_letter _ _ _ _ _ hrest, if_pos hset]
      simp [g, Frontier.enter, Frontier.best?, hrest, unmatched, List.findSome?_append]
    have grows : f.Grows place s g := by
      refine ⟨fun n hn => hasEntered_enter.mpr (.inl hn), fun hfound => ?_, fun hthreads => ?_⟩
      · rw [hbest, Option.isSome_or, hfound, Bool.true_or]
      · exact List.forall_mem_cons.mpr ⟨placed, hthreads⟩
    refine ⟨grows, fun unfound pending _ expanded => ⟨?_, fun goal mem => ?_⟩⟩
    · change g.best? s = none at unfound
      rw [hbest, Option.or_eq_none_iff] at unfound
      have hblocked : ¬ Frame.Leads (place label) s := by
        rw [hplace, ← Frame.isSome_best? _ _ marks, unfound.2]
        exact Bool.false_ne_true
      refine ⟨fun n hn branch mem => ?_, fun n hn m set' frames' hletter => ?_⟩
      · rcases hasEntered_enter.mp hn with hn | rfl
        · exact (expanded.settled n hn branch mem).imp_right fun h => h.mono grows.entered
        · rw [hplace] at mem
          cases mem
      · rcases hasEntered_enter.mp hn with hn | rfl
        · exact expanded.blocked n hn m set' frames' hletter
        · exact hblocked
    · obtain rfl := List.mem_singleton.mp mem
      exact fun _ => hasEntered_enter.mpr (.inr rfl)

end Exhausts

/-! ## Following code -/

/-- Following code settles it and what is left after it, if `done` settles what is left after it. -/
theorem Code.exhausts_enter (x : Code) {frames : List Frame} {known : List Nat}
    {ongoing : List (List Frame)} {done : List Mark → Frontier → Frontier}
    (placed : x.Placed place frames) (hframes : Frame.Placed place frames)
    (hdone : ∀ marks, Exhausts place s known ongoing (done marks) [frames]) (marks : List Mark) :
    Exhausts place s known ongoing (x.enter s frames done marks) [.next x :: frames] := by
  induction x generalizing frames known ongoing done marks with
  | empty => exact (hdone marks).congr fun _ => id
  | letter label set =>
    simp only [Code.enter]
    split
    · rename_i hafter
      obtain ⟨c, hc, hset⟩ := (Option.any_eq_true _ _).mp hafter
      obtain ⟨rest, hrest⟩ := List.head?_eq_some_iff.mp hc
      exact .push placed hframes hrest hset
    · rename_i hafter
      exact .nothing fun _ _ goal mem => by
        obtain rfl := List.mem_singleton.mp mem
        exact fun h => absurd h hafter
  | assertion a =>
    simp only [Code.enter]
    split
    · exact (hdone marks).congr fun _ h _ => h
    · rename_i hfails
      exact .nothing fun _ _ goal mem => by
        obtain rfl := List.mem_singleton.mp mem
        exact fun h => absurd h hfails
  | cat x y ihx ihy =>
    exact (ihx placed.1 ⟨placed.2, hframes⟩ (ihy placed.2 hframes hdone) marks).congr fun _ => id
  | alt label x y ihx ihy =>
    obtain ⟨hplace, px, py⟩ := placed
    have hdone' marks := (hdone marks).mono (List.subset_cons_self label known)
      (List.Subset.refl ongoing)
    refine .fork (by simp [hplace]) ?_ (fun _ => id) (ihx px hframes hdone' marks)
      (ihy py hframes hdone' marks)
    simp [hplace, Frame.branches]
  | opt label greedy x ih =>
    obtain ⟨hplace, px⟩ := placed
    have hdone' marks := (hdone marks).mono (List.subset_cons_self label known)
      (List.Subset.refl ongoing)
    refine .fork (by simp [hplace]) ?_ (fun _ => id) (ih px hframes hdone' marks) (hdone' marks)
    simp [hplace, Frame.branches]
  | plus label greedy x ih =>
    obtain ⟨hplace, px⟩ := placed
    have hagain : Frame.Placed place (.again label greedy x :: frames) := ⟨⟨hplace, px⟩, hframes⟩
    refine (Exhausts.settle (ih px hagain (fun marks => ?_) marks) List.mem_cons_self).congr
      fun _ => id
    -- the body is still being followed where a round that takes nothing ends
    have hdone' := (hdone marks).mono (List.subset_cons_self label known)
      (List.subset_cons_self (.next x :: .again label greedy x :: frames) ongoing)
    have hbody : Exhausts place s (label :: known) ((.next x :: .again label greedy x :: frames) ::
        ongoing) id [] := .nothing (by simp)
    refine .fork (by simp [hplace]) ?_ (fun _ => id) hbody hdone'
    simp [hplace, Frame.branches]
  | star label greedy x ih =>
    obtain ⟨hplace, px⟩ := placed
    have hagain : Frame.Placed place (.again label greedy x :: frames) := ⟨⟨hplace, px⟩, hframes⟩
    exact (Exhausts.again hplace (ih px hagain (fun _ => .entered) marks) (hdone marks)).congr
      fun _ => id
  | group index x ih =>
    exact (ih placed hframes (fun marks => (hdone _).congr fun _ => id) _).congr fun _ => id

/-- Going on with what is left of code settles it. -/
theorem Frame.exhausts_resume {frames : List Frame} {known : List Nat}
    {ongoing : List (List Frame)} (placed : Placed place frames) (marks : List Mark) :
    Exhausts place s known ongoing (resume s frames marks) [frames] := by
  induction frames generalizing marks with
  | nil => exact .accept marks
  | cons frame frames ih =>
    cases frame with
    | next x => exact x.exhausts_enter placed.1 placed.2 (ih placed.2) marks
    | close index => exact (ih placed _).congr fun _ => id
    | again label greedy x =>
      obtain ⟨⟨hplace, px⟩, hframes⟩ := placed
      exact Exhausts.again hplace
        (x.exhausts_enter px ⟨⟨hplace, px⟩, hframes⟩ (fun _ => .entered) marks) (ih hframes marks)

/-! ## The search -/

/-- Following some threads one after another settles what is left of each. -/
theorem exhausts_threads {threads : List Thread}
    (placed : ∀ thread ∈ threads, Frame.Placed place thread.frames) :
    Exhausts place s [] []
      (fun f => threads.foldr (fun thread f => Frame.resume s thread.frames thread.marks f) f)
      (threads.map Thread.frames) := by
  induction threads with
  | nil => exact .nothing (by simp)
  | cons thread threads ih =>
    obtain ⟨hthread, hthreads⟩ := List.forall_mem_cons.mp placed
    exact ((ih hthreads).comp (Frame.exhausts_resume hthread thread.marks)).of_settled fun _ h =>
      List.forall_mem_cons.mpr ⟨h _ (by simp), fun goal mem => h goal (List.mem_append_left _ mem)⟩

/-- If one of the threads that have reached a place leads to a match, something is found, there or
later. -/
theorem Frontier.isSome_best?_ofThreads {threads : List Thread}
    (placed : ∀ thread ∈ threads, Frame.Placed place thread.frames) {thread : Thread}
    (mem : thread ∈ threads) (hleads : Frame.Leads thread.frames s) :
    ((ofThreads s threads).best? s).isSome = true := by
  obtain ⟨-, hsettled⟩ := exhausts_threads (s := s) placed {} (by simp)
  by_contra unfound
  have nothing : Expanded place s [] ({} : Frontier).HasEntered := by
    refine ⟨fun label h => ?_, fun label h => ?_⟩ <;> simp [HasEntered] at h
  obtain ⟨expanded, hgoals⟩ :=
    hsettled (Option.not_isSome_iff_eq_none.mp unfound) [] (List.Subset.refl []) nothing
  have hthread := hgoals thread.frames (List.mem_map_of_mem mem)
  exact Frame.not_leads_of_settled (placed thread mem) expanded hthread hleads

theorem Frontier.placed_ofThreads {threads : List Thread}
    (placed : ∀ thread ∈ threads, Frame.Placed place thread.frames) :
    ∀ thread ∈ (ofThreads s threads).threads, Frame.Placed place thread.frames :=
  (exhausts_threads (s := s) placed {} (by simp)).1.placed (by simp)

/-- The search finds something if it has, or if its frontier leads to a match. -/
theorem Frontier.isSome_run {best : Option (List Mark)} {f : Frontier}
    (placed : ∀ thread ∈ f.threads, Frame.Placed place thread.frames)
    (h : best.isSome = true ∨ (f.best? s).isSome = true) :
    (run best f s.position s.rest).isSome = true := by
  obtain ⟨position, before, rest⟩ := s
  induction rest generalizing best f position before with
  | nil =>
    rw [run, Option.isSome_or, Bool.or_eq_true]
    exact h.symm
  | cons c rest ih =>
    rw [run]
    split
    · rename_i hempty
      rw [Option.isSome_or, Bool.or_eq_true]
      simpa [best?, List.isEmpty_iff.mp hempty] using h.symm
    · refine ih (placed_ofThreads placed) (position + 1) (some c) ?_
      rw [Option.isSome_or, Bool.or_eq_true]
      rcases h with h | h
      · exact .inl (.inr h)
      · rw [best?, Option.isSome_or, Bool.or_eq_true, List.findSome?_isSome_iff] at h
        rcases h with ⟨thread, mem, hthread⟩ | h
        · have hleads := (Frame.isSome_best? _ _ _).mp hthread
          exact .inr (isSome_best?_ofThreads placed (List.mem_reverse.mp mem) hleads)
        · exact .inl (.inl h)

end

/-- The search for an expression finds something exactly if there is a way to match it. -/
theorem Code.isSome_find?_ofExpr (x : Expr) (text : List Char) :
    ((ofExpr x).find? text).isSome = true ↔ x.ways (.start text) ≠ [] := by
  have hways : (ofExpr x).ways = x.ways := (writes_build x).ways_eq 0
  rw [← hways]
  constructor
  · intro h
    obtain ⟨marks, hmarks⟩ := Option.isSome_iff_exists.mp h
    obtain ⟨last, mem⟩ := mem_ways_of_find? hmarks
    exact List.ne_nil_of_mem mem
  · intro h
    obtain ⟨place, placed⟩ : ∃ place, (ofExpr x).Placed place [] :=
      exists_placed ((writes_build x).nodup 0)
    have hthreads : ∀ thread ∈ [(⟨[.next (ofExpr x)], []⟩ : Thread)],
        Frame.Placed place thread.frames := by
      simpa [Frame.Placed] using placed
    have hleads : Frame.Leads [.next (ofExpr x)] (.start text) := by
      simpa [Frame.Leads, Frame.ways] using h
    exact Frontier.isSome_run (s := .start text) (Frontier.placed_ofThreads hthreads)
      (.inr (Frontier.isSome_best?_ofThreads hthreads List.mem_cons_self hleads))

end RouteChain.Regex
