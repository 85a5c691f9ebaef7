import Mathlib.Data.List.Forall2
import RouteChain.Unicode.CaseFolding

/-!
# Equality up to case

Two characters are equal up to case if they are the same or in one group of the table. The groups of
the ASCII characters, which are found without the table, are the same as in the table.

## Main definitions

* `SameUpToCase`, `EqualUpToCase` — two characters, or two texts character by character, are equal
  up to case.

The main result is `mem_caseGroup_comm`.
-/

namespace RouteChain.Unicode

/-! ## Groups in the table -/

/-- What is in the group of a code point has that code point in its own group. -/
theorem CaseRun.mem_group_comm {run : CaseRun} {code other : Nat} (h : other ∈ run.group code) :
    code ∈ run.group other := by
  obtain ⟨head, hhead, hother⟩ := List.mem_flatMap.mp h
  simp only [List.mem_ite_nil_right, List.mem_map] at hother
  obtain ⟨⟨hcode, hcount⟩, shifted, hshifted, hother⟩ := hother
  generalize hindex : (code - head) / run.step = index at hcode hcount hother
  have hback : (other - shifted) / run.step = index := by
    cases hstep : run.step with
    | zero => simp [← hindex, hstep]
    | succ step =>
      rw [← hother, hstep, Nat.add_sub_cancel_left, Nat.mul_div_cancel _ (Nat.succ_pos step)]
  refine List.mem_flatMap.mpr ⟨shifted, hshifted, ?_⟩
  simp only [List.mem_ite_nil_right, List.mem_map, hback]
  exact ⟨⟨hother.symm, hcount⟩, head, hhead, hcode.symm⟩

/-- The runs of the table do not reach into the surrogates or beyond the last code point. -/
theorem last_caseRuns : ∀ run ∈ caseRuns, ∀ head ∈ run.heads,
    head + (run.count - 1) * run.step < 0xD800 ∨
      0xDFFF < head ∧ head + (run.count - 1) * run.step < 0x110000 := by
  decide +kernel

/-- All members of groups are characters. -/
theorem isValidChar_of_mem_group {run : CaseRun} (hrun : run ∈ caseRuns) {code other : Nat}
    (h : other ∈ run.group code) : other.isValidChar := by
  obtain ⟨head, -, hother⟩ := List.mem_flatMap.mp h
  simp only [List.mem_ite_nil_right, List.mem_map] at hother
  obtain ⟨⟨-, hcount⟩, shifted, hshifted, rfl⟩ := hother
  have hle := Nat.mul_le_mul_right run.step (Nat.le_sub_one_of_lt hcount)
  rcases last_caseRuns run hrun shifted hshifted with hlast | hlast
  · exact .inl (by omega)
  · exact .inr (by omega)

theorem mem_tableGroup {c d : Char} :
    d ∈ tableGroup c ↔ ∃ run ∈ caseRuns, d.toNat ∈ run.group c.toNat := by
  simp only [tableGroup, List.mem_map, List.mem_flatMap]
  constructor
  · rintro ⟨code, ⟨run, hrun, hcode⟩, rfl⟩
    have hvalid := isValidChar_of_mem_group hrun hcode
    have hback : (Char.ofNat code).toNat = code := congrArg Char.toNat (dif_pos hvalid)
    exact ⟨run, hrun, hback.symm ▸ hcode⟩
  · rintro ⟨run, hrun, hcode⟩
    exact ⟨d.toNat, ⟨run, hrun, hcode⟩, Char.ofNat_toNat d⟩

theorem mem_tableGroup_comm {c d : Char} : d ∈ tableGroup c ↔ c ∈ tableGroup d := by
  simp only [mem_tableGroup]
  constructor <;> rintro ⟨run, hrun, hcode⟩ <;> exact ⟨run, hrun, CaseRun.mem_group_comm hcode⟩

/-! ## Groups of characters -/

/-- A code point before all heads is in no group of a run. -/
theorem CaseRun.group_eq_nil {run : CaseRun} {code : Nat} (h : ∀ head ∈ run.heads, code < head) :
    run.group code = [] := by
  refine List.flatMap_eq_nil_iff.mpr fun head mem => if_neg fun hcode => ?_
  have hbefore := h head mem
  have hafter := hcode.1
  omega

/-- Only the runs at the beginning of the table are those of ASCII characters. -/
theorem flatMap_group_of_ascii {code : Nat} (h : code < 128) :
    caseRuns.flatMap (·.group code) = (caseRuns.take 5).flatMap (·.group code) := by
  have hheads : ∀ run ∈ caseRuns.drop 5, ∀ head ∈ run.heads, 128 ≤ head := by decide +kernel
  have hrest : (caseRuns.drop 5).flatMap (·.group code) = [] :=
    List.flatMap_eq_nil_iff.mpr fun run mem =>
      CaseRun.group_eq_nil fun head hhead => Nat.lt_of_lt_of_le h (hheads run mem head hhead)
  conv_lhs => rw [← List.take_append_drop 5 caseRuns]
  rw [List.flatMap_append, hrest, List.append_nil]

/-- An ASCII character has the group that the table gives it. -/
theorem mem_asciiCaseGroup {c : Char} (h : c.toNat < 128) (d : Char) :
    d ∈ asciiCaseGroup c ↔ d = c ∨ d ∈ tableGroup c := by
  have hcases : ∀ code < 128,
      let group := ((caseRuns.take 5).flatMap (·.group code)).map Char.ofNat
      asciiCaseGroup (Char.ofNat code) ⊆ Char.ofNat code :: group ∧
        Char.ofNat code :: group ⊆ asciiCaseGroup (Char.ofNat code) := by
    decide +kernel
  obtain ⟨hsub, hsuper⟩ := hcases c.toNat h
  rw [Char.ofNat_toNat, ← flatMap_group_of_ascii h] at hsub hsuper
  rw [← List.mem_cons]
  exact ⟨fun mem => hsub mem, fun mem => hsuper mem⟩

theorem mem_caseGroup_iff {c d : Char} : d ∈ caseGroup c ↔ d = c ∨ d ∈ tableGroup c := by
  unfold caseGroup
  split
  · rename_i hascii
    exact mem_asciiCaseGroup hascii d
  · by_cases hd : d = c <;> simp [hd]

/-- A character is equal to itself up to case. -/
theorem mem_caseGroup (c : Char) : c ∈ caseGroup c :=
  mem_caseGroup_iff.mpr (.inl rfl)

/-- To be equal up to case goes both ways. -/
theorem mem_caseGroup_comm {c d : Char} : d ∈ caseGroup c ↔ c ∈ caseGroup d := by
  rw [mem_caseGroup_iff, mem_caseGroup_iff, mem_tableGroup_comm, eq_comm]

/-- A character without cases is equal up to case to itself only. -/
theorem eq_of_mem_caseGroup {c d : Char} (hc : caseGroup c = [c]) (h : c ∈ caseGroup d) :
    d = c := by
  rw [mem_caseGroup_comm, hc] at h
  exact List.mem_singleton.mp h

/-! ## Texts -/

def SameUpToCase (c d : Char) : Prop :=
  d ∈ caseGroup c

instance (c d : Char) : Decidable (SameUpToCase c d) :=
  inferInstanceAs (Decidable (d ∈ caseGroup c))

def EqualUpToCase (text other : List Char) : Prop :=
  List.Forall₂ SameUpToCase text other

instance (text other : List Char) : Decidable (EqualUpToCase text other) :=
  inferInstanceAs (Decidable (List.Forall₂ SameUpToCase text other))

end RouteChain.Unicode
