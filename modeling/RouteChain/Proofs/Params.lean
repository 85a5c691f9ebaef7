import RouteChain.Params

/-!
# What the groups of a match bind

Each of several groups binds its name to its value, if it has one. Names that are distinct get the
values of their own groups, and there is no value that is not the value of a group.

## Main definitions

* `Params.bindGroup` — binds what one group took.

The main results are `Params.map_get?_ofGroups` and `Params.mem_of_mem_ofGroups`.
-/

namespace RouteChain.Params

/-! ## Names -/

def bindGroup (params : Params) (group : String × Option String) : Params :=
  match group.2 with
  | some value => params.bind group.1 value
  | none => params

theorem get?_bindGroup_of_ne (params : Params) {group : String × Option String} {name : String}
    (h : name ≠ group.1) : (params.bindGroup group).get? name = params.get? name := by
  unfold bindGroup
  split
  · exact params.get?_bind_of_ne _ h
  · rfl

theorem get?_bindGroup_self {params : Params} (group : String × Option String)
    (h : params.get? group.1 = none) : (params.bindGroup group).get? group.1 = group.2 := by
  unfold bindGroup
  split
  · rename_i value hvalue
    rw [hvalue]
    exact params.get?_bind_self group.1 value
  · rename_i hnone
    rw [h, hnone]

theorem get?_foldl_of_not_mem {groups : List (String × Option String)} {name : String}
    (h : ∀ group ∈ groups, name ≠ group.1) (params : Params) :
    (groups.foldl bindGroup params).get? name = params.get? name := by
  induction groups generalizing params with
  | nil => rfl
  | cons group groups ih =>
    rw [List.foldl_cons, ih fun other mem => h other (List.mem_cons_of_mem group mem),
      get?_bindGroup_of_ne params (h group List.mem_cons_self)]

/-- Each of several names that are distinct has the value of its own group. -/
theorem map_get?_ofGroups {names : List String} (h : names.Nodup) {values : List (Option String)}
    (hlength : names.length = values.length) :
    names.map (ofGroups (names.zip values)).get? = values := by
  suffices hall : ∀ params : Params, (∀ name ∈ names, params.get? name = none) →
      names.map ((names.zip values).foldl bindGroup params).get? = values from
    hall empty fun _ _ => rfl
  intro params hnone
  induction names generalizing values params with
  | nil => exact (List.length_eq_zero_iff.mp hlength.symm).symm
  | cons name names ih =>
    cases values with
    | nil => cases hlength
    | cons value values =>
      obtain ⟨hname, hnames⟩ := List.nodup_cons.mp h
      have hother : ∀ group ∈ names.zip values, name ≠ group.1 := by
        rintro group mem rfl
        exact hname (List.of_mem_zip mem).1
      have hself := get?_bindGroup_self (name, value) (hnone name List.mem_cons_self)
      have hrest := ih hnames (Nat.succ.inj hlength) (params.bindGroup (name, value))
        fun other mem => by
          have hne : other ≠ name := fun heq => hname (heq ▸ mem)
          rw [get?_bindGroup_of_ne params hne]
          exact hnone other (List.mem_cons_of_mem name mem)
      rw [List.zip_cons_cons, List.foldl_cons, List.map_cons, get?_foldl_of_not_mem hother, hself,
        hrest]

/-! ## Values -/

theorem mem_bindIn {name value : String} {entries : List (String × String)}
    {entry : String × String} (h : entry ∈ bindIn name value entries) :
    entry = (name, value) ∨ entry ∈ entries := by
  induction entries with
  | nil => exact .inl (List.mem_singleton.mp h)
  | cons other entries ih =>
    simp only [bindIn] at h
    split at h <;> rename_i hname
    · rcases List.mem_cons.mp h with rfl | h
      · exact .inl (by rw [hname])
      · exact .inr (List.mem_cons_of_mem _ h)
    · rcases List.mem_cons.mp h with rfl | h
      · exact .inr List.mem_cons_self
      · exact (ih h).imp_right (List.mem_cons_of_mem _)

theorem mem_bindGroup {params : Params} {group : String × Option String}
    {entry : String × String} (h : entry ∈ (params.bindGroup group).entries) :
    entry ∈ params.entries ∨ (entry.1, some entry.2) = group := by
  obtain ⟨name, value⟩ := group
  cases value with
  | none => exact .inl h
  | some value =>
    rcases mem_bindIn h with rfl | h
    · exact .inr rfl
    · exact .inl h

theorem mem_foldl_bindGroup {groups : List (String × Option String)} {params : Params}
    {entry : String × String} (h : entry ∈ (groups.foldl bindGroup params).entries) :
    entry ∈ params.entries ∨ (entry.1, some entry.2) ∈ groups := by
  induction groups generalizing params with
  | nil => exact .inl h
  | cons group groups ih =>
    rcases ih h with h | h
    · rcases mem_bindGroup h with h | rfl
      · exact .inl h
      · exact .inr List.mem_cons_self
    · exact .inr (List.mem_cons_of_mem group h)

/-- What is bound is the value of a group. -/
theorem mem_of_mem_ofGroups {groups : List (String × Option String)}
    {entry : String × String} (h : entry ∈ (ofGroups groups).entries) :
    (entry.1, some entry.2) ∈ groups := by
  have hall : entry ∈ empty.entries ∨ _ := mem_foldl_bindGroup h
  exact hall.resolve_left List.not_mem_nil

end RouteChain.Params
