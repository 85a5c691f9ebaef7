import Mathlib.Data.Set.Card
import RouteChain.Proofs.Pattern.Compiled

/-!
# Names that are bound again

Several groups of a pattern may have one name. The name is then bound once, where the first of them
that takes part in the match binds it, and its value is the text of the last one.

## Main definitions

* `Params.names` — the names that are bound, in order.
* `Params.Took` — a group of a name took a value.
* `Params.Mirrors` — the bindings are those that some groups make.
* `CompiledPattern.Takes` — a group of a compiled pattern takes a part of a path.

The main result is `CompiledPattern.captures?_rebinds`.
-/

namespace RouteChain

namespace Params

/-! ## Names and entries -/

def names (params : Params) : List String :=
  params.entries.map Prod.fst

/-- A name that is bound keeps its place, and any other one comes behind all. -/
theorem names_bind (params : Params) (name value : String) : (params.bind name value).names =
    if name ∈ params.names then params.names else params.names ++ [name] := by
  obtain ⟨entries⟩ := params
  simp only [names, bind]
  induction entries with
  | nil => simp [bindIn]
  | cons entry entries ih =>
    by_cases hname : entry.1 = name
    · simp [bindIn, hname]
    · simp only [bindIn, if_neg hname, List.map_cons, ih]
      grind

theorem contains_iff (params : Params) (name : String) :
    params.contains name = true ↔ name ∈ params.names := by
  simp [contains, names]

theorem isSome_get? (params : Params) (name : String) :
    (params.get? name).isSome = params.contains name := by
  rw [Bool.eq_iff_iff, contains_iff]
  simp [get?, names]

/-- If no name is bound twice, an entry is found by its name. -/
theorem mem_entries_iff {params : Params} (h : params.names.Nodup) (name value : String) :
    (name, value) ∈ params.entries ↔ params.get? name = some value := by
  rw [get?, Option.map_eq_some_iff]
  constructor
  · intro mem
    have hsome : (params.entries.find? (fun entry => entry.1 = name)).isSome = true :=
      List.find?_isSome.mpr ⟨_, mem, by simp⟩
    obtain ⟨found, hfound⟩ := Option.isSome_iff_exists.mp hsome
    have hname : found.1 = name := by simpa using List.find?_some hfound
    have heq : found = (name, value) :=
      List.inj_on_of_nodup_map h (List.mem_of_find?_eq_some hfound) mem hname
    exact ⟨found, hfound, by rw [heq]⟩
  · rintro ⟨⟨found, taken⟩, hfound, rfl⟩
    obtain rfl : found = name := by simpa using List.find?_some hfound
    exact List.mem_of_find?_eq_some hfound

/-! ## Groups -/

/-- The group at a place has this name and took this value. -/
def Took (groups : List (String × Option String)) (i : Nat) (name value : String) : Prop :=
  groups[i]? = some (name, some value)

variable {groups : List (String × Option String)} {i : Nat} {name value : String}

theorem Took.lt_length (h : Took groups i name value) : i < groups.length :=
  (List.getElem?_eq_some_iff.mp h).1

/-- With one more group, the groups took what they took, and what that one took. -/
theorem took_concat {group : String × Option String} :
    Took (groups ++ [group]) i name value ↔
      Took groups i name value ∨ i = groups.length ∧ group = (name, some value) := by
  unfold Took
  grind

/-- The bindings are those that some groups make, one after another. A name is bound if a group of
that name took something. Its value is what the last such group took, and its place among the names
is that of the first one. -/
structure Mirrors (params : Params) (groups : List (String × Option String)) : Prop where
  mem_names : ∀ name, name ∈ params.names ↔ ∃ i value, Took groups i name value
  get?_eq : ∀ name value, params.get? name = some value ↔
    ∃ i, Took groups i name value ∧ ∀ j other, Took groups j name other → j ≤ i
  ordered : params.names.Pairwise fun name later =>
    ∃ i value, Took groups i name value ∧ ∀ j other, Took groups j later other → i < j

namespace Mirrors

variable {params : Params}

/-- A name does not come before itself, so no name is bound twice. -/
theorem nodup (mirrors : params.Mirrors groups) : params.names.Nodup := by
  refine mirrors.ordered.imp fun ⟨i, value, took, before⟩ heq => ?_
  subst heq
  exact Nat.lt_irrefl i (before i value took)

/-- The name that is bound gets the value of the last group, and any other name keeps its own. -/
theorem get?_bind (mirrors : params.Mirrors groups) (bound taken name value : String) :
    (params.bind bound taken).get? name = some value ↔
      ∃ i, Took (groups ++ [(bound, some taken)]) i name value ∧
        ∀ j other, Took (groups ++ [(bound, some taken)]) j name other → j ≤ i := by
  simp only [took_concat, Prod.mk.injEq, Option.some_inj]
  by_cases hname : bound = name
  · subst hname
    rw [params.get?_bind_self, Option.some_inj]
    constructor
    · rintro rfl
      refine ⟨groups.length, .inr ⟨rfl, rfl, rfl⟩, ?_⟩
      rintro j other (hother | ⟨rfl, -, -⟩)
      · exact hother.lt_length.le
      · exact le_rfl
    · rintro ⟨i, took | ⟨-, -, rfl⟩, last⟩
      · exact absurd (last groups.length taken (.inr ⟨rfl, rfl, rfl⟩))
          (Nat.not_le.mpr took.lt_length)
      · rfl
  · rw [params.get?_bind_of_ne taken (Ne.symm hname), mirrors.get?_eq]
    simp [hname]

/-- One more group does not come before any of those that are there. -/
theorem ordered_concat (mirrors : params.Mirrors groups) (group : String × Option String) :
    params.names.Pairwise fun name later => ∃ i value, Took (groups ++ [group]) i name value ∧
      ∀ j other, Took (groups ++ [group]) j later other → i < j := by
  refine mirrors.ordered.imp fun ⟨i, value, took, before⟩ =>
    ⟨i, value, took_concat.mpr (.inl took), fun j other h => ?_⟩
  obtain hother | ⟨rfl, -⟩ := took_concat.mp h
  · exact before j other hother
  · exact took.lt_length

/-- A name that is new comes behind all names. -/
theorem ordered_bind (mirrors : params.Mirrors groups) (bound taken : String) :
    (params.bind bound taken).names.Pairwise fun name later =>
      ∃ i value, Took (groups ++ [(bound, some taken)]) i name value ∧
        ∀ j other, Took (groups ++ [(bound, some taken)]) j later other → i < j := by
  rw [names_bind]
  split
  · exact mirrors.ordered_concat _
  · rename_i hnew
    refine List.pairwise_append.mpr ⟨mirrors.ordered_concat _, List.pairwise_singleton .., ?_⟩
    rintro name mem later hlater
    obtain rfl := List.mem_singleton.mp hlater
    obtain ⟨i, value, took⟩ := (mirrors.mem_names name).mp mem
    refine ⟨i, value, took_concat.mpr (.inl took), fun j other h => ?_⟩
    obtain hother | ⟨rfl, -⟩ := took_concat.mp h
    · exact absurd ((mirrors.mem_names later).mpr ⟨j, other, hother⟩) hnew
    · exact took.lt_length

/-- One more group binds its name to what it took, if it took anything. -/
theorem bindGroup (mirrors : params.Mirrors groups) (group : String × Option String) :
    (params.bindGroup group).Mirrors (groups ++ [group]) := by
  obtain ⟨bound, taken⟩ := group
  cases taken with
  | none =>
    constructor <;> simp only [took_concat, Prod.mk.injEq, reduceCtorEq, and_false, or_false]
    exacts [mirrors.mem_names, mirrors.get?_eq, mirrors.ordered]
  | some taken =>
    refine ⟨fun name => ?_, mirrors.get?_bind bound taken, mirrors.ordered_bind bound taken⟩
    have hnames : (params.bindGroup (bound, some taken)).names = _ := names_bind params bound taken
    have hmem := mirrors.mem_names name
    rw [hnames]
    simp only [took_concat]
    by_cases hbound : bound ∈ params.names <;> grind

theorem size_eq (mirrors : params.Mirrors groups) :
    params.size = {name | ∃ i value, Took groups i name value}.ncard := by
  have hset : {name | ∃ i value, Took groups i name value} = ↑params.names.toFinset := by
    ext name
    simp [mirrors.mem_names]
  rw [hset, Set.ncard_coe_finset, List.toFinset_card_of_nodup mirrors.nodup, names,
    List.length_map, size]

end Mirrors

/-- What some groups bind mirrors them. -/
theorem mirrors_ofGroups (groups : List (String × Option String)) :
    (ofGroups groups).Mirrors groups := by
  induction groups using List.reverseRecOn with
  | nil =>
    exact ⟨by simp [ofGroups, empty, names, Took], by simp [ofGroups, empty, get?, Took], .nil⟩
  | append_singleton groups group ih =>
    have hconcat : ofGroups (groups ++ [group]) = (ofGroups groups).bindGroup group := by
      simp only [ofGroups, List.foldl_concat]
      rfl
    rw [hconcat]
    exact ih.bindGroup group

end Params

/-! ## Groups of a pattern -/

/-- The group of the name at this place takes this part of the path. -/
def CompiledPattern.Takes (pattern : CompiledPattern) (path : String) (i : Nat)
    (name value : String) : Prop :=
  pattern.names[i]? = some name ∧
    ∃ groups, pattern.regex.captures? path = some groups ∧ groups[i]? = some (some value)

/-- Names may repeat, and then what a pattern binds is this. No name is bound twice. A name is bound
if and only if a group of that name takes part in the match, and its value is what the last such
group takes. The names come in the order of the first groups that take part. Looking a name up,
asking whether it is bound, counting and going through the bindings all agree on that. -/
theorem CompiledPattern.captures?_rebinds {pattern : CompiledPattern} {path : String}
    {params : Params} (h : pattern.captures? path = some params) :
    params.names.Nodup ∧
      (∀ name, name ∈ params.names ↔ ∃ i value, pattern.Takes path i name value) ∧
      (∀ name value, params.get? name = some value ↔ ∃ i, pattern.Takes path i name value ∧
        ∀ j other, pattern.Takes path j name other → j ≤ i) ∧
      (params.names.Pairwise fun name later => ∃ i value, pattern.Takes path i name value ∧
        ∀ j other, pattern.Takes path j later other → i < j) ∧
      (∀ name value, (name, value) ∈ params.entries ↔ params.get? name = some value) ∧
      (∀ name, params.contains name = true ↔ name ∈ params.names) ∧
      (∀ name, (params.get? name).isSome = params.contains name) ∧
      params.size = {name | ∃ i value, pattern.Takes path i name value}.ncard := by
  obtain ⟨groups, hgroups, rfl⟩ := Option.map_eq_some_iff.mp h
  have mirrors := Params.mirrors_ofGroups (pattern.names.zip groups)
  have htakes i name value : pattern.Takes path i name value ↔
      Params.Took (pattern.names.zip groups) i name value := by
    simp [Takes, Params.Took, hgroups, List.getElem?_zip_eq_some]
  simp only [htakes]
  exact ⟨mirrors.nodup, mirrors.mem_names, mirrors.get?_eq, mirrors.ordered,
    Params.mem_entries_iff mirrors.nodup, Params.contains_iff _, Params.isSome_get? _,
    mirrors.size_eq⟩

/-- A capture without a name and one that declares its number have one name, and the last group of
the other name takes no part. -/
theorem CompiledPattern.captures?_rebinds_of_repeated :
    ∃ pattern, PatternCompiler.compile {} "/(x)/:tail/:0/:tail?" .whole = .ok pattern ∧
      pattern.names = ["0", "tail", "0", "tail"] ∧
      pattern.captures? "/x/t/9" = some ⟨[("0", "9"), ("tail", "t")]⟩ ∧
      (["0", "tail"].Pairwise fun name later => ∃ i value, pattern.Takes "/x/t/9" i name value ∧
        ∀ j other, pattern.Takes "/x/t/9" j later other → i < j) ∧
      ∃ i, pattern.Takes "/x/t/9" i "tail" "t" ∧
        ∀ j other, pattern.Takes "/x/t/9" j "tail" other → j ≤ i := by
  obtain ⟨pattern, hcompile, hnames, hcaptures⟩ : ∃ pattern,
      PatternCompiler.compile {} "/(x)/:tail/:0/:tail?" .whole = .ok pattern ∧
        pattern.names = ["0", "tail", "0", "tail"] ∧
        pattern.captures? "/x/t/9" = some ⟨[("0", "9"), ("tail", "t")]⟩ := ⟨_, rfl, rfl, rfl⟩
  obtain ⟨-, -, hget, hordered, -⟩ := captures?_rebinds hcaptures
  exact ⟨pattern, hcompile, hnames, hcaptures, hordered, (hget "tail" "t").mp rfl⟩

end RouteChain
