import Mathlib.Algebra.Ring.Nat
import Mathlib.Data.List.Nodup
import RouteChain.Proofs.Regex.Search
import RouteChain.Regex.Basic

/-!
# What code is built

The code of an expression is matched in the same ways as the expression, and its branches have
labels of their own. So the search for an expression finds the preferred way to match it.

## Main definitions

* `Code.labels` — the labels of the branches of code.
* `Expr.Steady`, `Code.Steady` — what is repeated without bound takes a character.
* `Code.Builder.Writes` — a builder writes code that is matched in the given ways, with labels of
  its own.
* `Code.places` — what is left of code behind each of its branches.

The main results are `Code.writes_build` and `Code.find?_ofExpr`.
-/

namespace RouteChain.Regex

open Way

namespace Way

/-! ## Copies -/

theorem times_add (body : Spot → List Way) (count other : Nat) (s : Spot) :
    times body (count + other) s = andThen (times body count s) (times body other) := by
  induction count generalizing s with
  | zero => simp [times]
  | succ count ih =>
    rw [Nat.succ_add_eq_add_succ, Nat.add_succ]
    simp only [times, andThen_assoc]
    exact andThen_congr fun way _ => ih way.2

theorem times_zero (body : Spot → List Way) : times body 0 = stay := rfl

theorem times_one (body : Spot → List Way) : times body 1 = body := by
  funext s
  exact andThen_stay (body s)

theorem upTo_zero (body : Spot → List Way) (greedy : Bool) : upTo body greedy 0 = stay := rfl

theorem upTo_one (body : Spot → List Way) (greedy : Bool) :
    upTo body greedy 1 = fun s => prefer greedy (body s) (stay s) := by
  funext s
  simp [upTo]

end Way

namespace Code

/-! ## Labels -/

def labels : Code → List Nat
  | .empty | .assertion _ => []
  | .letter label _ => [label]
  | .cat x y => x.labels ++ y.labels
  | .alt label x y => label :: (x.labels ++ y.labels)
  | .opt label _ x | .plus label _ x | .star label _ x => label :: x.labels
  | .group _ x => x.labels

theorem touched_subset (x : Code) : ∀ label ∈ x.touched, label ∈ x.labels := by
  induction x with
  | empty | assertion | letter => simp [touched, labels]
  | cat x y ihx ihy =>
    intro label mem
    simp only [touched, List.mem_append] at mem
    rcases mem with mem | mem
    · simp [labels, ihx label mem]
    · split at mem
      · cases mem
      · simp [labels, ihy label mem]
  | alt n x y ihx ihy =>
    intro label mem
    simp only [touched, List.mem_cons, List.mem_append] at mem
    rcases mem with rfl | mem | mem
    · simp [labels]
    · simp [labels, ihx label mem]
    · simp [labels, ihy label mem]
  | opt n greedy x ih | star n greedy x ih =>
    intro label mem
    rcases List.mem_cons.mp mem with rfl | mem
    · simp [labels]
    · simp [labels, ih label mem]
  | plus n greedy x ih => exact fun label mem => List.mem_cons_of_mem _ (ih label mem)
  | group index x ih => exact ih

namespace Builder

/-- The builder writes code that is matched in these ways, with labels of its own. -/
structure Writes (x : Builder) (ways : Spot → List Way) : Prop where
  ways_eq : ∀ label, (x label).1.ways = ways
  le : ∀ label, label ≤ (x label).2
  nodup : ∀ label, (x label).1.labels.Nodup
  between : ∀ label, ∀ n ∈ (x label).1.labels, label ≤ n ∧ n < (x label).2

variable {x y : Builder} {w v : Spot → List Way}

theorem writes_nothing : Writes nothing stay where
  ways_eq _ := rfl
  le _ := Nat.le_refl _
  nodup _ := List.nodup_nil
  between _ _ mem := by cases mem

theorem Writes.andThen (h : Writes x w) (h' : Writes y v) :
    Writes (x.andThen y) (fun s => Way.andThen (w s) v) where
  ways_eq label := by
    funext s
    simp only [Builder.andThen, Code.ways, h.ways_eq, h'.ways_eq]
  le label := Nat.le_trans (h.le label) (h'.le _)
  nodup label := by
    refine List.nodup_append.mpr ⟨h.nodup label, h'.nodup _, fun n mem other hother same => ?_⟩
    have := h.between label n mem
    have := h'.between _ other hother
    omega
  between label n mem := by
    have hx := h.le label
    have hy := h'.le (x label).2
    simp only [Builder.andThen] at mem ⊢
    rcases List.mem_append.mp mem with mem | mem
    · have := h.between label n mem
      omega
    · have := h'.between _ n mem
      omega

/-- A branch around a piece of code has a label of its own. -/
theorem Writes.labelled (h : Writes x w) {wrap : Nat → Code → Code}
    (hlabels : ∀ label code, (wrap label code).labels = label :: code.labels)
    (hways : ∀ label code, Code.ways code = w → (wrap label code).ways = v) :
    Writes (x.labelled wrap) v where
  ways_eq label := hways label _ (h.ways_eq (label + 1))
  le label := by
    have := h.le (label + 1)
    simp only [Builder.labelled]
    omega
  nodup label := by
    simp only [Builder.labelled, hlabels, List.nodup_cons]
    refine ⟨fun mem => ?_, h.nodup _⟩
    have := h.between _ label mem
    omega
  between label n mem := by
    have hx := h.le (label + 1)
    simp only [Builder.labelled, hlabels, List.mem_cons] at mem ⊢
    rcases mem with rfl | mem
    · omega
    · have := h.between _ n mem
      omega

theorem Writes.opt (h : Writes x w) (greedy : Bool) :
    Writes (x.labelled (fun label => .opt label greedy)) (fun s => prefer greedy (w s) (stay s)) :=
  h.labelled (fun _ _ => rfl) fun _ _ hcode => by
    funext s
    simp [Code.ways, hcode]

theorem Writes.plus (h : Writes x w) (greedy : Bool) :
    Writes (x.labelled (fun label => .plus label greedy)) (oneOrMore w greedy) :=
  h.labelled (fun _ _ => rfl) fun _ _ hcode => by
    funext s
    simp [Code.ways, hcode]

theorem Writes.star (h : Writes x w) (greedy : Bool) :
    Writes (x.labelled (fun label => .star label greedy)) (rounds w greedy) :=
  h.labelled (fun _ _ => rfl) fun _ _ hcode => by
    funext s
    simp [Code.ways, hcode]

/-- Enough halvings write all copies. -/
theorem Writes.copies (h : Writes x w) (halvings count : Nat) (hcount : count ≤ 2 ^ halvings) :
    Writes (x.copies halvings count) (times w count) := by
  induction halvings generalizing count with
  | zero =>
    obtain rfl | rfl : count = 0 ∨ count = 1 := by omega
    · simpa [Builder.copies, times_zero] using writes_nothing
    · simpa [Builder.copies, times_one] using h
  | succ halvings ih =>
    rcases count with _ | _ | count
    · simpa [Builder.copies, times_zero] using writes_nothing
    · simpa [Builder.copies, times_one] using h
    · have hsum : (count + 2) / 2 + (count + 2 - (count + 2) / 2) = count + 2 := by omega
      have both := (ih ((count + 2) / 2) (by omega)).andThen
        (ih (count + 2 - (count + 2) / 2) (by omega))
      simpa only [Builder.copies, ← times_add, hsum] using both

theorem Writes.optional (h : Writes x w) (greedy : Bool) (count : Nat) :
    Writes (x.optional greedy count) (upTo w greedy count) := by
  induction count with
  | zero => simpa [Builder.optional, upTo_zero] using writes_nothing
  | succ count ih =>
    cases count with
    | zero => simpa [Builder.optional, upTo_one] using h.opt greedy
    | succ count => exact (h.andThen ih).opt greedy

theorem Writes.many (h : Writes x w) {consumes : Bool} (greedy : Bool)
    (hconsumes : consumes = true → ∀ s, Advances s (w s)) :
    Writes (x.many consumes greedy) (Way.repeated w greedy 0 none) := by
  unfold Builder.many
  split
  · rename_i advances
    rw [repeated_eq_rounds greedy (hconsumes advances)]
    exact h.star greedy
  · exact (h.plus greedy).opt greedy

/-- As many copies as a bound asks for are written with one halving more than it has binary
digits. -/
theorem Writes.copies_log2 (h : Writes x w) (count : Nat) :
    Writes (x.copies count.log2.succ count) (times w count) :=
  h.copies _ _ (Nat.le_of_lt Nat.lt_log2_self)

theorem Writes.repeated (h : Writes x w) {consumes : Bool} (min : Nat) (max : Option Nat)
    (greedy : Bool) (hconsumes : consumes = true → ∀ s, Advances s (w s)) :
    Writes (x.repeated consumes min max greedy) (Way.repeated w greedy min max) := by
  have hplus := h.plus greedy
  cases max with
  | none =>
    rcases min with _ | _ | min
    · exact h.many greedy hconsumes
    · rw [repeated_one_none]
      exact hplus
    · exact (h.copies_log2 (min + 1)).andThen hplus
  | some max =>
    cases min with
    | zero =>
      have hways : Way.repeated w greedy 0 (some max) = upTo w greedy max := by
        funext s
        simp [Way.repeated, times]
      rw [hways]
      exact h.optional greedy max
    | succ min =>
      simp only [Builder.repeated]
      split
      · rename_i enough
        have hways : Way.repeated w greedy (min + 1) (some max) = times w (min + 1) := by
          funext s
          simp [Way.repeated, Nat.sub_eq_zero_of_le enough, upTo_zero]
        rw [hways]
        exact h.copies_log2 (min + 1)
      · exact (h.copies_log2 (min + 1)).andThen (h.optional greedy (max - (min + 1)))

end Builder

/-! ## Expressions -/

/-- The code of a repetition takes a character if the repetition does. -/
theorem consumes_copies {x : Builder} (h : ∀ label, (x label).1.consumes = true)
    (halvings count : Nat) (hcount : count ≤ 2 ^ halvings) (hpos : 0 < count) (label : Nat) :
    (x.copies halvings count label).1.consumes = true := by
  induction halvings generalizing count label with
  | zero =>
    obtain rfl : count = 1 := by omega
    simpa [Builder.copies] using h label
  | succ halvings ih =>
    rcases count with _ | _ | count
    · omega
    · simpa [Builder.copies] using h label
    · have first := ih ((count + 2) / 2) (by omega) (by omega) label
      simp [Builder.copies, Builder.andThen, Code.consumes, first]

theorem consumes_build {x : Expr} (h : x.consumes = true) (label : Nat) :
    (build x label).1.consumes = true := by
  induction x generalizing label with
  | empty | assertion => simp [Expr.consumes] at h
  | letter set => rfl
  | cat x y ihx ihy =>
    rcases (Bool.or_eq_true _ _).mp h with hx | hy
    · simp [build, Builder.andThen, Code.consumes, ihx hx]
    · simp [build, Builder.andThen, Code.consumes, ihy hy]
  | alt x y ihx ihy =>
    obtain ⟨hx, hy⟩ := (Bool.and_eq_true _ _).mp h
    simp [build, Code.consumes, ihx hx, ihy hy]
  | repetition min max greedy x ih =>
    obtain ⟨hmin, hx⟩ := (Bool.and_eq_true _ _).mp h
    have hmin : 0 < min := by simpa using hmin
    have copies := consumes_copies (ih hx) min.log2.succ min (Nat.le_of_lt Nat.lt_log2_self) hmin
    cases max with
    | none =>
      rcases min with _ | _ | min
      · omega
      · simp [build, Builder.repeated, Builder.labelled, Code.consumes, ih hx]
      · simp [build, Builder.repeated, Builder.andThen, Builder.labelled, Code.consumes, ih hx]
    | some max =>
      obtain ⟨min, rfl⟩ := Nat.exists_eq_add_one.mpr hmin
      simp only [build, Builder.repeated]
      split
      · exact copies label
      · simp [Builder.andThen, Code.consumes, copies]
  | group index x ih => exact ih h label

/-- The code of an expression is matched in the same ways as the expression, and every branch has a
label of its own. -/
theorem writes_build (x : Expr) : (build x).Writes x.ways := by
  induction x with
  | empty => exact Builder.writes_nothing
  | letter set =>
    exact ⟨fun _ => rfl, fun _ => Nat.le_succ _, fun _ => by simp [build, labels],
      fun label n mem => by grind [build, labels]⟩
  | assertion a =>
    exact ⟨fun _ => rfl, fun _ => Nat.le_refl _, fun _ => List.nodup_nil,
      fun _ _ mem => by cases mem⟩
  | cat x y ihx ihy => exact ihx.andThen ihy
  | alt x y ihx ihy =>
    refine ⟨fun label => ?_, fun label => ?_, fun label => ?_, fun label n mem => ?_⟩
    · funext s
      simp [build, Code.ways, Expr.ways, ihx.ways_eq, ihy.ways_eq]
    all_goals
      have hx := ihx.le (label + 1)
      have hy := ihy.le (build x (label + 1)).2
      have inx := ihx.between (label + 1)
      have iny := ihy.between (build x (label + 1)).2
      simp only [build]
    · omega
    · refine List.nodup_cons.mpr ⟨fun mem => ?_, List.nodup_append.mpr ⟨ihx.nodup _, ihy.nodup _,
        fun n mem other hother same => ?_⟩⟩
      · rcases List.mem_append.mp mem with mem | mem
        · have := inx label mem
          omega
        · have := iny label mem
          omega
      · have := inx n mem
        have := iny other hother
        omega
    · simp only [build, labels, List.mem_cons, List.mem_append] at mem
      rcases mem with rfl | mem | mem
      · omega
      · have := inx n mem
        omega
      · have := iny n mem
        omega
  | repetition min max greedy x ih =>
    refine ih.repeated min max greedy fun hx s => ?_
    rw [← ih.ways_eq 0]
    exact advances_ways (consumes_build hx 0) s
  | group index x ih =>
    refine ⟨fun label => ?_, ih.le, ih.nodup, ih.between⟩
    funext s
    simp [build, Code.ways, Expr.ways, ih.ways_eq]

/-! ## Steadiness -/

end Code

/-- Does all that is repeated without bound take a character? -/
def Expr.Steady : Expr → Prop
  | .empty | .letter _ | .assertion _ => True
  | .cat x y | .alt x y => x.Steady ∧ y.Steady
  | .repetition _ max _ x => (max = none → x.consumes = true) ∧ x.Steady
  | .group _ x => x.Steady

namespace Code

/-- Does all that is repeated without bound take a character? -/
def Steady : Code → Prop
  | .empty | .letter _ _ | .assertion _ => True
  | .cat x y | .alt _ x y => x.Steady ∧ y.Steady
  | .plus _ _ x | .star _ _ x => x.consumes = true ∧ x.Steady
  | .opt _ _ x | .group _ x => x.Steady

theorem steady_copies {x : Builder} (h : ∀ label, (x label).1.Steady) (halvings count label : Nat) :
    (x.copies halvings count label).1.Steady := by
  induction halvings generalizing count label with
  | zero => rcases count with _ | _ | count <;> simp [Builder.copies, Builder.nothing, Steady, h]
  | succ halvings ih =>
    rcases count with _ | _ | count
    · simp [Builder.copies, Builder.nothing, Steady]
    · exact h label
    · exact ⟨ih _ label, ih _ _⟩

theorem steady_optional {x : Builder} (h : ∀ label, (x label).1.Steady) (greedy : Bool)
    (count label : Nat) : (x.optional greedy count label).1.Steady := by
  induction count generalizing label with
  | zero => trivial
  | succ count ih =>
    cases count with
    | zero => exact h _
    | succ count => exact ⟨h _, ih _⟩

theorem steady_build {x : Expr} (h : x.Steady) (label : Nat) : (build x label).1.Steady := by
  induction x generalizing label with
  | empty | letter | assertion => trivial
  | cat x y ihx ihy => exact ⟨ihx h.1 label, ihy h.2 _⟩
  | alt x y ihx ihy => exact ⟨ihx h.1 _, ihy h.2 _⟩
  | repetition min max greedy x ih =>
    have hx := ih h.2
    have copies := steady_copies hx
    cases max with
    | none =>
      have hc := h.1 rfl
      have plus (label : Nat) :
          (Builder.labelled (fun label => .plus label greedy) (build x) label).1.Steady :=
        ⟨consumes_build hc _, hx _⟩
      rcases min with _ | _ | min
      · simp only [build, Builder.repeated, Builder.many, hc, if_true]
        exact ⟨consumes_build hc _, hx _⟩
      · exact plus label
      · exact ⟨copies _ _ label, plus _⟩
    | some max =>
      cases min with
      | zero => exact steady_optional hx greedy max label
      | succ min =>
        simp only [build, Builder.repeated]
        split
        · exact copies _ _ label
        · exact ⟨copies _ _ label, steady_optional hx greedy _ _⟩
  | group index x ih => exact ih h label

/-! ## Wiring -/

/-- What is left of code behind each of its branches, with the label of the branch. -/
def places : Code → List Frame → List (Nat × List Frame)
  | .empty, _ | .assertion _, _ => []
  | .letter label set, frames => [(label, .next (.letter label set) :: frames)]
  | .cat x y, frames => x.places (.next y :: frames) ++ y.places frames
  | .alt label x y, frames =>
    (label, .next (.alt label x y) :: frames) :: (x.places frames ++ y.places frames)
  | .opt label greedy x, frames => (label, .next (.opt label greedy x) :: frames) :: x.places frames
  | .plus label greedy x, frames | .star label greedy x, frames =>
    (label, .again label greedy x :: frames) :: x.places (.again label greedy x :: frames)
  | .group index x, frames => x.places (.close index :: frames)

theorem map_fst_places (x : Code) (frames : List Frame) :
    (x.places frames).map Prod.fst = x.labels := by
  induction x generalizing frames <;> grind [places, labels]

/-- Code is wired if its labels differ and if none of them can come up again behind the code before
a character is taken, unless it is one that code which takes a character begins with. -/
theorem wired_of_places {leads : Nat → Spot → Prop} {x : Code} {frames : List Frame}
    (nodup : x.labels.Nodup) (steady : x.Steady)
    (hbehind : ∀ label ∈ x.labels, label ∈ Frame.touched frames →
      x.consumes = true ∧ label ∈ x.touched)
    (hleads : ∀ place ∈ x.places frames, ∀ s, leads place.1 s ↔ Frame.Leads place.2 s) :
    x.Wired leads frames := by
  induction x generalizing frames with
  | empty | assertion => trivial
  | letter label set => exact hleads (label, _) List.mem_cons_self
  | cat x y ihx ihy =>
    obtain ⟨ndx, ndy, disjoint⟩ := List.nodup_append.mp nodup
    refine ⟨ihx ndx steady.1 (fun label mem behind => ?_)
      fun place mem => hleads place (List.mem_append_left _ mem), ihy ndy steady.2
      (fun label mem behind => ?_) fun place mem => hleads place (List.mem_append_right _ mem)⟩
    · rcases List.mem_append.mp behind with behind | behind
      · exact absurd rfl (disjoint label mem label (y.touched_subset label behind))
      · cases hy : y.consumes with
        | true => simp [hy] at behind
        | false =>
          simp only [hy] at behind
          obtain ⟨consumes, first⟩ := hbehind label (List.mem_append_left _ mem) behind
          have hx : x.consumes = true := by simpa [Code.consumes, hy] using consumes
          exact ⟨hx, by simpa [touched, hx] using first⟩
    · obtain ⟨consumes, first⟩ := hbehind label (List.mem_append_right _ mem) behind
      rcases List.mem_append.mp first with first | first
      · exact absurd rfl (disjoint label (x.touched_subset label first) label mem)
      · cases hx : x.consumes with
        | true => simp [hx] at first
        | false => simpa [Code.consumes, hx] using And.intro consumes first
  | alt label x y ihx ihy =>
    obtain ⟨new, nodup⟩ := List.nodup_cons.mp nodup
    obtain ⟨ndx, ndy, disjoint⟩ := List.nodup_append.mp nodup
    simp only [List.mem_append, not_or] at new
    refine ⟨hleads (label, _) List.mem_cons_self, fun mem => new.1 (x.touched_subset label mem),
      fun mem => new.2 (y.touched_subset label mem), fun hc behind => ?_,
      ihx ndx steady.1 (fun n mem behind => ?_)
        fun place mem => hleads place (by simp [places, mem]),
      ihy ndy steady.2 (fun n mem behind => ?_)
        fun place mem => hleads place (by simp [places, mem])⟩
    · exact absurd (hbehind label (by simp [labels]) behind).1 (by simp [Code.consumes, hc])
    · obtain ⟨consumes, first⟩ := hbehind n (by simp [labels, mem]) behind
      refine ⟨((Bool.and_eq_true _ _).mp consumes).1, ?_⟩
      simp only [touched, List.mem_cons, List.mem_append] at first
      rcases first with rfl | first | first
      · exact absurd mem new.1
      · exact first
      · exact absurd rfl (disjoint n mem n (y.touched_subset n first))
    · obtain ⟨consumes, first⟩ := hbehind n (by simp [labels, mem]) behind
      refine ⟨((Bool.and_eq_true _ _).mp consumes).2, ?_⟩
      simp only [touched, List.mem_cons, List.mem_append] at first
      rcases first with rfl | first | first
      · exact absurd mem new.2
      · exact absurd rfl (disjoint n (x.touched_subset n first) n mem)
      · exact first
  | opt label greedy x ih =>
    obtain ⟨new, nodup⟩ := List.nodup_cons.mp nodup
    have free : ∀ n ∈ (opt label greedy x).labels, n ∉ Frame.touched frames := by
      intro n mem behind
      simpa [Code.consumes] using hbehind n mem behind
    refine ⟨hleads (label, _) List.mem_cons_self, fun mem => new (x.touched_subset label mem),
      free label List.mem_cons_self, ih nodup steady (fun n mem behind => ?_)
      fun place mem => hleads place (List.mem_cons_of_mem _ mem)⟩
    exact absurd behind (free n (List.mem_cons_of_mem _ mem))
  | plus label greedy x ih =>
    obtain ⟨new, nodup⟩ := List.nodup_cons.mp nodup
    refine ⟨hleads (label, _) List.mem_cons_self, fun mem => new (x.touched_subset label mem),
      fun behind => ?_, steady.1, ih nodup steady.2 (fun n mem behind => ?_)
      fun place mem => hleads place (List.mem_cons_of_mem _ mem)⟩
    · exact new (x.touched_subset label (hbehind label List.mem_cons_self behind).2)
    · refine ⟨steady.1, ?_⟩
      simp only [Frame.touched, List.mem_cons, List.mem_append] at behind
      rcases behind with rfl | first | behind
      · exact absurd mem new
      · exact first
      · exact (hbehind n (List.mem_cons_of_mem _ mem) behind).2
  | star label greedy x ih =>
    obtain ⟨new, nodup⟩ := List.nodup_cons.mp nodup
    have free : ∀ n ∈ (star label greedy x).labels, n ∉ Frame.touched frames := by
      intro n mem behind
      simpa [Code.consumes] using hbehind n mem behind
    refine ⟨hleads (label, _) List.mem_cons_self, fun mem => new (x.touched_subset label mem),
      free label List.mem_cons_self, steady.1, ih nodup steady.2 (fun n mem behind => ?_)
      fun place mem => hleads place (List.mem_cons_of_mem _ mem)⟩
    refine ⟨steady.1, ?_⟩
    simp only [Frame.touched, List.mem_cons, List.mem_append] at behind
    rcases behind with rfl | first | behind
    · exact absurd mem new
    · exact first
    · exact absurd behind (free n (List.mem_cons_of_mem _ mem))
  | group index x ih => exact ih nodup steady hbehind hleads

/-- Code whose labels differ is wired: what is left behind a branch tells from where it leads to a
match. -/
theorem exists_wired {x : Code} (nodup : x.labels.Nodup) (steady : x.Steady) :
    ∃ leads, x.Wired leads [] := by
  let leads (label : Nat) (s : Spot) : Prop :=
    ∃ frames, (label, frames) ∈ x.places [] ∧ Frame.Leads frames s
  refine ⟨leads, wired_of_places nodup steady (by simp [Frame.touched]) fun place mem s => ?_⟩
  have unique := List.inj_on_of_nodup_map (by rwa [map_fst_places x []])
  constructor
  · rintro ⟨frames, hframes, hlead⟩
    have same : place = (place.1, frames) := unique mem hframes rfl
    rw [same]
    exact hlead
  · exact fun hlead => ⟨place.2, mem, hlead⟩

/-- The search for an expression finds the preferred way to match it. -/
theorem find?_ofExpr {x : Expr} (steady : x.Steady) (text : List Char) :
    (ofExpr x).find? text = ((x.ways (.start text)).head?).map Prod.fst := by
  obtain ⟨leads, wired⟩ := exists_wired ((writes_build x).nodup 0) (steady_build steady 0)
  rw [find?_eq (ofExpr x) wired, ofExpr, (writes_build x).ways_eq]

end Code

end RouteChain.Regex
