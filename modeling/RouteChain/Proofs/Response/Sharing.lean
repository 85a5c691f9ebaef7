import Mathlib.Data.List.Induction
import Mathlib.Logic.Relation
import RouteChain.Response.Handles

/-!
# Sharing recorders

Handles that are connected by copying share a recorder, and nobody else writes to it. Through each
of them one sees what a single recorder would hold on which the calls through all of them were made.

## Main definitions

* `HandleAct`, `HandleAnswer` — what is done with handles, and the answers.
* `Handles.act`, `Handles.actAll` — an act on handles, and acts in order.
* `HandleAct.Shares` — two handles are connected by copying.
* `HandleAct.callsTo`, `HandleAct.repliesTo` — the calls through the handles that share a recorder
  with this one, and the replies to these calls.
* `Owned` — the handles have numbers that tell the ones that share a recorder from the others.

The main result is `Handles.act_like_recorders`.
-/

namespace RouteChain

inductive HandleAct where
  | fresh
  | copy (handle : Nat)
  | call (handle : Nat) (call : WriterCall)
  | save (handle : Nat)
  deriving Repr, DecidableEq

/-- The answer to an act: the number of a handle or a snapshot, or what a call replies. -/
inductive HandleAnswer where
  | handle (handle : Nat)
  | reply (reply : Reply)
  | snapshot (snapshot : Nat)
  deriving Repr, DecidableEq

namespace HandleAct

def subject? : HandleAct → Option Nat
  | .fresh => none
  | .copy handle | .call handle _ | .save handle => some handle

/-- What an act makes a handle from, if it makes one: the handle that is copied, or none for a
handle on a new recorder. -/
def source? : HandleAct → Option (Option Nat)
  | .fresh => some none
  | .copy handle => some (some handle)
  | .call _ _ | .save _ => none

def sources (acts : List HandleAct) : List (Option Nat) :=
  acts.filterMap source?

def handleCount (acts : List HandleAct) : Nat :=
  (sources acts).length

/-- With so many handles to begin with, every act is addressed to a handle that is there. -/
def areAddressed (count : Nat) : List HandleAct → Bool
  | [] => true
  | act :: acts => act.subject?.all (· < count) && areAddressed (count + handleCount [act]) acts

theorem sources_append (acts others : List HandleAct) :
    sources (acts ++ others) = sources acts ++ sources others :=
  List.filterMap_append

theorem sources_concat_of_none {acts : List HandleAct} {last : HandleAct}
    (h : last.source? = none) : sources (acts ++ [last]) = sources acts := by
  simp [sources, h]

theorem handleCount_append (acts others : List HandleAct) :
    handleCount (acts ++ others) = handleCount acts + handleCount others := by
  simp [handleCount, sources_append]

/-! ## Handles that share a recorder -/

/-- A handle is a copy of one that is there before it. -/
def IsCopy (sources : List (Option Nat)) (handle other : Nat) : Prop :=
  handle < other ∧ sources[other]? = some (some handle)

/-- Two handles are connected by copying. -/
def Shares (sources : List (Option Nat)) : Nat → Nat → Prop :=
  Relation.EqvGen (IsCopy sources)

theorem Shares.append {sources : List (Option Nat)} {handle other : Nat}
    (shares : Shares sources handle other) (more : List (Option Nat)) :
    Shares (sources ++ more) handle other := by
  refine Relation.EqvGen.mono (fun first second copied => ⟨copied.1, ?_⟩) _ _ shares
  have inside := (List.getElem?_eq_some_iff.mp copied.2).1
  rw [List.getElem?_append_left inside, copied.2]

end HandleAct

open HandleAct

theorem getElem?_concat_eq_some_iff {α : Type} {items : List α} {last item : α} {i : Nat} :
    (items ++ [last])[i]? = some item ↔
      items[i]? = some item ∨ i = items.length ∧ last = item := by
  grind

/-- The handles that come from these sources have numbers: a copy has the number of what it is a
copy of, and any other handle has a number that no handle had before. -/
inductive Owned : List (Option Nat) → List Nat → Prop where
  | nil : Owned [] []
  | fresh {sources : List (Option Nat)} {owners : List Nat} {source : Option Nat} {owner : Nat}
      (owned : Owned sources owners) (absent : source.bind (owners[·]?) = none)
      (new : owner ∉ owners) : Owned (sources ++ [source]) (owners ++ [owner])
  | copy {sources : List (Option Nat)} {owners : List Nat} {handle owner : Nat}
      (owned : Owned sources owners) (present : owners[handle]? = some owner) :
      Owned (sources ++ [some handle]) (owners ++ [owner])

namespace Owned

variable {sources : List (Option Nat)} {owners : List Nat}

theorem length_eq (owned : Owned sources owners) : owners.length = sources.length := by
  induction owned with
  | nil => rfl
  | fresh _ _ _ ih | copy _ _ ih => simp [ih]

/-- A copy has the number of what it is a copy of. -/
theorem eq_of_isCopy (owned : Owned sources owners) {handle other : Nat}
    (copied : IsCopy sources handle other) :
    ∃ owner, owners[handle]? = some owner ∧ owners[other]? = some owner := by
  obtain ⟨hlt, hsource⟩ := copied
  induction owned with
  | nil => simp at hsource
  | @fresh sources owners source last owned absent new ih =>
    obtain hold | ⟨rfl, rfl⟩ := getElem?_concat_eq_some_iff.mp hsource
    · obtain ⟨owner, hhandle, hother⟩ := ih hold
      exact ⟨owner, getElem?_concat_eq_some_iff.mpr (.inl hhandle),
        getElem?_concat_eq_some_iff.mpr (.inl hother)⟩
    · have hout : owners.length ≤ handle := List.getElem?_eq_none_iff.mp absent
      have hlength := owned.length_eq
      omega
  | @copy sources owners first last owned present ih =>
    obtain hold | ⟨rfl, heq⟩ := getElem?_concat_eq_some_iff.mp hsource
    · obtain ⟨owner, hhandle, hother⟩ := ih hold
      exact ⟨owner, getElem?_concat_eq_some_iff.mpr (.inl hhandle),
        getElem?_concat_eq_some_iff.mpr (.inl hother)⟩
    · obtain rfl := Option.some.inj heq
      exact ⟨last, getElem?_concat_eq_some_iff.mpr (.inl present),
        getElem?_concat_eq_some_iff.mpr (.inr ⟨owned.length_eq.symm, rfl⟩)⟩

/-- Handles of one number are connected. -/
theorem shares_of_eq (owned : Owned sources owners) {handle other owner : Nat}
    (hhandle : owners[handle]? = some owner) (hother : owners[other]? = some owner) :
    Shares sources handle other := by
  induction owned generalizing handle other owner with
  | nil => simp at hhandle
  | fresh _ _ new ih =>
    rw [getElem?_concat_eq_some_iff] at hhandle hother
    obtain hhandle | ⟨rfl, eq⟩ := hhandle <;> obtain hother | ⟨rfl, rfl⟩ := hother
    · exact (ih hhandle hother).append _
    · exact absurd (List.mem_of_getElem? hhandle) new
    · exact absurd (eq ▸ List.mem_of_getElem? hother) new
    · exact .refl _
  | @copy sources owners first last owned present ih =>
    -- any handle that has the number already is connected with the new one through `first`
    have hlast : Shares (sources ++ [some first]) first owners.length := by
      refine .rel _ _ ⟨(List.getElem?_eq_some_iff.mp present).1, ?_⟩
      rw [owned.length_eq, List.getElem?_concat_length]
    rw [getElem?_concat_eq_some_iff] at hhandle hother
    obtain hhandle | ⟨rfl, eq⟩ := hhandle <;> obtain hother | ⟨rfl, rfl⟩ := hother
    · exact (ih hhandle hother).append _
    · exact ((ih hhandle present).append _).trans _ _ _ hlast
    · exact (((ih hother (eq ▸ present)).append _).trans _ _ _ hlast).symm
    · exact .refl _

/-- Two handles are connected if and only if they have one number. A handle that is not there is
connected to itself only. -/
theorem shares_iff (owned : Owned sources owners) (handle other : Nat) :
    Shares sources handle other ↔
      handle = other ∨ ∃ owner, owners[handle]? = some owner ∧ owners[other]? = some owner := by
  constructor
  · intro shares
    induction shares with
    | rel _ _ copied => exact .inr (owned.eq_of_isCopy copied)
    | refl => exact .inl rfl
    | symm _ _ _ ih => exact ih.imp Eq.symm fun ⟨owner, hfirst, hlast⟩ => ⟨owner, hlast, hfirst⟩
    | trans _ _ _ _ _ ih ih' =>
      obtain rfl | ⟨owner, hfirst, hmiddle⟩ := ih
      · exact ih'
      · obtain rfl | ⟨_, hagain, hlast⟩ := ih'
        · exact .inr ⟨owner, hfirst, hmiddle⟩
        · exact .inr ⟨owner, hfirst, hlast.trans (hagain.symm.trans hmiddle)⟩
  · rintro (rfl | ⟨owner, hhandle, hother⟩)
    · exact .refl _
    · exact owned.shares_of_eq hhandle hother

theorem shares_iff_of_owner (owned : Owned sources owners) {handle owner : Nat}
    (h : owners[handle]? = some owner) (other : Nat) :
    Shares sources handle other ↔ owners[other]? = some owner := by
  rw [owned.shares_iff]
  constructor
  · rintro (rfl | ⟨_, hhandle, hother⟩)
    · exact h
    · exact hother.trans (hhandle.symm.trans h)
  · exact fun hother => .inr ⟨owner, h, hother⟩

end Owned

namespace HandleAct

/-- The number of the first of the handles that a handle shares its recorder with, for all handles
in order. -/
def groups (sources : List (Option Nat)) : List Nat :=
  sources.foldl (fun groups source =>
    groups ++ [(source.bind (groups[·]?)).getD groups.length]) []

theorem owned_groups (sources : List (Option Nat)) :
    Owned sources (groups sources) ∧ ∀ group ∈ groups sources, group < sources.length := by
  induction sources using List.reverseRecOn with
  | nil => exact ⟨.nil, by simp [groups]⟩
  | append_singleton sources source ih =>
    obtain ⟨owned, hlt⟩ := ih
    have hlength := owned.length_eq
    have hgroups : groups (sources ++ [source]) = groups sources ++
        [(source.bind ((groups sources)[·]?)).getD (groups sources).length] := by
      simp [groups]
    rw [hgroups]
    cases hsource : source.bind ((groups sources)[·]?) with
    | none =>
      refine ⟨.fresh owned hsource fun mem => Nat.ne_of_lt (hlt _ mem) hlength, ?_⟩
      grind
    | some group =>
      obtain ⟨handle, rfl, present⟩ := Option.bind_eq_some_iff.mp hsource
      refine ⟨.copy owned present, ?_⟩
      have := hlt group (List.mem_of_getElem? present)
      grind

instance (sources : List (Option Nat)) (handle other : Nat) :
    Decidable (Shares sources handle other) :=
  decidable_of_iff (handle = other ∨
      (groups sources)[handle]?.isSome ∧ (groups sources)[handle]? = (groups sources)[other]?) <| by
    rw [(owned_groups sources).1.shares_iff]
    grind

/-! ## Calls and replies -/

/-- The calls that are made through these handles, in order. -/
def callsThrough (through : Nat → Bool) (acts : List HandleAct) : List WriterCall :=
  acts.filterMap fun
    | .call handle made => if through handle then some made else none
    | _ => none

def repliesThrough (through : Nat → Bool) (acts : List HandleAct) (answers : List HandleAnswer) :
    List Reply :=
  (acts.zip answers).filterMap fun
    | (.call handle _, .reply reply) => if through handle then some reply else none
    | _ => none

theorem callsThrough_cons (through : Nat → Bool) (first : HandleAct) (acts : List HandleAct) :
    callsThrough through (first :: acts) =
      callsThrough through [first] ++ callsThrough through acts :=
  List.filterMap_append (l := [first])

theorem repliesThrough_cons (through : Nat → Bool) (first : HandleAct) (acts : List HandleAct)
    (answer : HandleAnswer) (answers : List HandleAnswer) :
    repliesThrough through (first :: acts) (answer :: answers) =
      repliesThrough through [first] [answer] ++ repliesThrough through acts answers :=
  List.filterMap_append (l := [(first, answer)])

/-- The calls through the handles that are connected with this one, in order. -/
def callsTo (acts : List HandleAct) (handle : Nat) : List WriterCall :=
  callsThrough (fun other => Shares (sources acts) handle other) acts

def repliesTo (acts : List HandleAct) (answers : List HandleAnswer) (handle : Nat) : List Reply :=
  repliesThrough (fun other => Shares (sources acts) handle other) acts answers

end HandleAct

/-! ## One act -/

namespace Handles

def act (handles : Handles) : HandleAct → Option (HandleAnswer × Handles)
  | .fresh => some (.handle handles.fresh.1, handles.fresh.2)
  | .copy handle => do
    let (copied, later) ← handles.copy handle
    return (.handle copied, later)
  | .call handle call => do
    let (reply, later) ← handles.call handle call
    return (.reply reply, later)
  | .save handle => do
    let (snapshot, later) ← handles.save handle
    return (.snapshot snapshot, later)

def actAll (handles : Handles) : List HandleAct → Option (List HandleAnswer × Handles)
  | [] => some ([], handles)
  | first :: acts => do
    let (answer, later) ← handles.act first
    let (answers, last) ← later.actAll acts
    return (answer :: answers, last)

inductive Acts (handles : Handles) : HandleAct → HandleAnswer → Handles → Prop where
  | fresh : Acts handles .fresh (.handle handles.owners.length)
      { handles with
        recorders := handles.recorders ++ [{}]
        owners := handles.owners ++ [handles.recorders.length] }
  | copy {handle owner : Nat} (present : handles.owners[handle]? = some owner) :
      Acts handles (.copy handle) (.handle handles.owners.length)
        { handles with owners := handles.owners ++ [owner] }
  | call {handle owner : Nat} {recorder : Recorder} (call : WriterCall)
      (present : handles.owners[handle]? = some owner)
      (there : handles.recorders[owner]? = some recorder) :
      Acts handles (.call handle call) (.reply (call.apply recorder).1)
        { handles with recorders := handles.recorders.set owner (call.apply recorder).2 }
  | save {handle : Nat} {recorder : Recorder} (there : handles.recorder? handle = some recorder) :
      Acts handles (.save handle) (.snapshot handles.snapshots.length)
        { handles with snapshots := handles.snapshots ++ [recorder] }

variable {handles later : Handles}

theorem act_eq_some_iff {first : HandleAct} {answer : HandleAnswer} :
    handles.act first = some (answer, later) ↔ Acts handles first answer later := by
  constructor
  · intro h
    cases first with
    | fresh =>
      obtain ⟨rfl, rfl⟩ := Prod.mk.inj (Option.some.inj h)
      exact .fresh
    | copy handle =>
      simp only [act, copy, Option.bind_eq_bind, Option.bind_eq_some_iff,
        Option.map_eq_some_iff] at h
      obtain ⟨_, ⟨owner, present, rfl⟩, h⟩ := h
      obtain ⟨rfl, rfl⟩ := Prod.mk.inj (Option.some.inj h)
      exact .copy present
    | call handle call =>
      simp only [act, Handles.call, Option.bind_eq_bind, Option.bind_eq_some_iff] at h
      obtain ⟨_, ⟨owner, present, recorder, there, hcall⟩, h⟩ := h
      obtain rfl := Option.some.inj hcall
      obtain ⟨rfl, rfl⟩ := Prod.mk.inj (Option.some.inj h)
      exact .call call present there
    | save handle =>
      simp only [act, save, Option.bind_eq_bind, Option.bind_eq_some_iff,
        Option.map_eq_some_iff] at h
      obtain ⟨_, ⟨recorder, there, rfl⟩, h⟩ := h
      obtain ⟨rfl, rfl⟩ := Prod.mk.inj (Option.some.inj h)
      exact .save there
  · intro acts
    cases acts with
    | fresh => rfl
    | copy present => simp [act, copy, present]
    | call call present there => simp [act, Handles.call, present, there]
    | save there => simp [act, save, there]

/-- What has been made before an act is there after it. -/
theorem Acts.grows {first : HandleAct} {answer : HandleAnswer}
    (acts : Acts handles first answer later) :
    handles.owners <+: later.owners ∧ handles.snapshots <+: later.snapshots := by
  cases acts with
  | fresh | copy => exact ⟨List.prefix_append _ _, List.prefix_rfl⟩
  | call => exact ⟨List.prefix_rfl, List.prefix_rfl⟩
  | save => exact ⟨List.prefix_rfl, List.prefix_append _ _⟩

/-- These acts have led to these handles: the recorders tell the handles that are connected from the
others, and all of them are there. -/
structure Traced (past : List HandleAct) (handles : Handles) : Prop where
  owned : Owned (sources past) handles.owners
  there : ∀ owner ∈ handles.owners, owner < handles.recorders.length

namespace Traced

variable {past : List HandleAct}

theorem nil : Traced [] {} :=
  ⟨.nil, by simp⟩

theorem length_eq (traced : Traced past handles) : handles.owners.length = handleCount past :=
  traced.owned.length_eq

theorem exists_owner (traced : Traced past handles) {handle : Nat}
    (made : handle < handleCount past) : ∃ owner, handles.owners[handle]? = some owner :=
  ⟨_, List.getElem?_eq_getElem (traced.length_eq.symm ▸ made)⟩

/-- One more act is traced. -/
theorem act (traced : Traced past handles) {first : HandleAct} {answer : HandleAnswer}
    (acts : Acts handles first answer later) : Traced (past ++ [first]) later := by
  obtain ⟨owned, there⟩ := traced
  cases acts with
  | fresh =>
    refine ⟨?_, by grind⟩
    rw [sources_append]
    exact .fresh owned rfl fun mem => Nat.lt_irrefl _ (there _ mem)
  | copy present =>
    refine ⟨?_, by grind⟩
    rw [sources_append]
    exact .copy owned present
  | call made present =>
    refine ⟨?_, by simpa using there⟩
    rwa [sources_concat_of_none rfl]
  | save =>
    refine ⟨?_, there⟩
    rwa [sources_concat_of_none rfl]

/-- An act that is addressed to a handle that has been made can be carried out. -/
theorem exists_acts (traced : Traced past handles) {first : HandleAct}
    (addressed : first.subject?.all (· < handleCount past) = true) :
    ∃ answer later, Acts handles first answer later := by
  have hrecorder : ∀ handle < handleCount past, ∃ owner recorder,
      handles.owners[handle]? = some owner ∧ handles.recorders[owner]? = some recorder := by
    intro handle made
    obtain ⟨owner, present⟩ := traced.exists_owner made
    have hthere := traced.there _ (List.mem_of_getElem? present)
    exact ⟨owner, _, present, List.getElem?_eq_getElem hthere⟩
  cases first with
  | fresh => exact ⟨_, _, .fresh⟩
  | copy handle =>
    obtain ⟨owner, _, present, _⟩ := hrecorder handle (by simpa [subject?] using addressed)
    exact ⟨_, _, .copy present⟩
  | call handle made =>
    obtain ⟨owner, recorder, present, there⟩ :=
      hrecorder handle (by simpa [subject?] using addressed)
    exact ⟨_, _, .call made present there⟩
  | save handle =>
    obtain ⟨owner, recorder, present, there⟩ :=
      hrecorder handle (by simpa [subject?] using addressed)
    have hsaved : handles.recorder? handle = some recorder := by simp [recorder?, present, there]
    exact ⟨_, _, .save hsaved⟩

end Traced

/-! ## Acts in order -/

variable {past acts before after : List HandleAct} {answers : List HandleAnswer}

theorem actAll_cons_eq_some_iff {first : HandleAct} :
    handles.actAll (first :: acts) = some (answers, later) ↔
      ∃ answer middle rest, Acts handles first answer middle ∧
        middle.actAll acts = some (rest, later) ∧ answers = answer :: rest := by
  simp only [actAll, Option.bind_eq_bind, Option.bind_eq_some_iff, Prod.exists, act_eq_some_iff]
  constructor
  · rintro ⟨answer, middle, first, rest, last, others, h⟩
    obtain ⟨rfl, rfl⟩ := Prod.mk.inj (Option.some.inj h)
    exact ⟨answer, middle, rest, first, others, rfl⟩
  · rintro ⟨answer, middle, rest, first, others, rfl⟩
    exact ⟨answer, middle, first, rest, later, others, rfl⟩

/-- Every act gets one answer. -/
theorem length_actAll (h : handles.actAll acts = some (answers, later)) :
    answers.length = acts.length := by
  induction acts generalizing handles answers with
  | nil =>
    obtain ⟨rfl, rfl⟩ := Prod.mk.inj (Option.some.inj h)
    rfl
  | cons first acts ih =>
    obtain ⟨answer, middle, rest, -, others, rfl⟩ := actAll_cons_eq_some_iff.mp h
    exact congrArg (· + 1) (ih others)

/-- Acts in two parts are carried out in order. -/
theorem exists_middle (h : handles.actAll (before ++ after) = some (answers, later)) :
    ∃ early middle late, handles.actAll before = some (early, middle) ∧
      middle.actAll after = some (late, later) ∧ answers = early ++ late := by
  induction before generalizing handles answers with
  | nil => exact ⟨[], handles, answers, rfl, h, rfl⟩
  | cons first before ih =>
    obtain ⟨answer, next, rest, one, others, rfl⟩ := actAll_cons_eq_some_iff.mp h
    obtain ⟨early, middle, late, hbefore, hafter, rfl⟩ := ih others
    exact ⟨answer :: early, middle, late,
      actAll_cons_eq_some_iff.mpr ⟨answer, next, early, one, hbefore, rfl⟩, hafter, rfl⟩

/-- What has been made before some acts is there after them. -/
theorem grows_actAll (h : handles.actAll acts = some (answers, later)) :
    handles.owners <+: later.owners ∧ handles.snapshots <+: later.snapshots := by
  induction acts generalizing handles answers with
  | nil =>
    obtain ⟨rfl, rfl⟩ := Prod.mk.inj (Option.some.inj h)
    exact ⟨List.prefix_rfl, List.prefix_rfl⟩
  | cons first acts ih =>
    obtain ⟨answer, middle, rest, one, others, rfl⟩ := actAll_cons_eq_some_iff.mp h
    obtain ⟨owners, snapshots⟩ := ih others
    exact ⟨one.grows.1.trans owners, one.grows.2.trans snapshots⟩

namespace Traced

theorem actAll (traced : Traced past handles)
    (h : handles.actAll acts = some (answers, later)) : Traced (past ++ acts) later := by
  induction acts generalizing past handles answers with
  | nil =>
    obtain ⟨rfl, rfl⟩ := Prod.mk.inj (Option.some.inj h)
    simpa using traced
  | cons first acts ih =>
    obtain ⟨answer, middle, rest, one, others, rfl⟩ := actAll_cons_eq_some_iff.mp h
    rw [List.append_cons]
    exact ih (traced.act one) others

/-- Acts that are addressed to handles that have been made can be carried out. -/
theorem exists_actAll (traced : Traced past handles)
    (addressed : areAddressed (handleCount past) acts = true) :
    ∃ answers later, handles.actAll acts = some (answers, later) := by
  induction acts generalizing past handles with
  | nil => exact ⟨_, _, rfl⟩
  | cons first acts ih =>
    simp only [areAddressed, Bool.and_eq_true] at addressed
    obtain ⟨answer, middle, one⟩ := traced.exists_acts addressed.1
    rw [← handleCount_append] at addressed
    obtain ⟨answers, last, others⟩ := ih (traced.act one) addressed.2
    exact ⟨_, _, actAll_cons_eq_some_iff.mpr ⟨answer, middle, answers, one, others, rfl⟩⟩

end Traced

/-! ## Recorders -/

theorem getElem?_of_prefix {α : Type} {items more : List α} {item : α} {i : Nat}
    (grows : items <+: more) (h : items[i]? = some item) : more[i]? = some item := by
  obtain ⟨rest, rfl⟩ := grows
  rwa [List.getElem?_append_left (List.getElem?_eq_some_iff.mp h).1]

theorem getD_concat_self {α : Type} (items : List α) (item : α) (i : Nat) :
    (items ++ [item])[i]?.getD item = items[i]?.getD item := by
  grind

/-- The recorder of a number, and a new one where there is none yet. -/
def recorderOf (handles : Handles) (owner : Nat) : Recorder :=
  handles.recorders[owner]?.getD {}

/-- A recorder gets the call that is made through a handle of its number, and no other one. -/
theorem Acts.applyAll_eq {first : HandleAct} {answer : HandleAnswer}
    (acts : Acts handles first answer later) {owners : List Nat} (grows : later.owners <+: owners)
    (owner : Nat) :
    WriterCall.applyAll (handles.recorderOf owner)
        (callsThrough (fun handle => owners[handle]? = some owner) [first]) =
      (repliesThrough (fun handle => owners[handle]? = some owner) [first] [answer],
        later.recorderOf owner) := by
  cases acts with
  | fresh => exact congrArg (Prod.mk []) (getD_concat_self handles.recorders {} owner).symm
  | copy | save => rfl
  | @call handle written recorder made present there =>
    have hwritten : owners[handle]? = some written := getElem?_of_prefix grows present
    by_cases heq : written = owner
    · subst heq
      have hrecorder : handles.recorderOf written = recorder := by simp [recorderOf, there]
      have hinside := (List.getElem?_eq_some_iff.mp there).1
      have hlater : recorderOf { handles with
          recorders := handles.recorders.set written (made.apply recorder).2 } written =
            (made.apply recorder).2 := by
        simp [recorderOf, hinside]
      simp [callsThrough, repliesThrough, hwritten, WriterCall.applyAll, hrecorder, hlater]
    · simp [callsThrough, repliesThrough, hwritten, heq, WriterCall.applyAll, recorderOf]

/-- A recorder gets the calls that are made through handles of its number, and no other ones. Since
handles keep their numbers, these are the numbers after all acts. -/
theorem applyAll_of_actAll (h : handles.actAll acts = some (answers, later)) (owner : Nat) :
    WriterCall.applyAll (handles.recorderOf owner)
        (callsThrough (fun handle => later.owners[handle]? = some owner) acts) =
      (repliesThrough (fun handle => later.owners[handle]? = some owner) acts answers,
        later.recorderOf owner) := by
  induction acts generalizing handles answers with
  | nil =>
    obtain ⟨rfl, rfl⟩ := Prod.mk.inj (Option.some.inj h)
    rfl
  | cons first acts ih =>
    obtain ⟨answer, middle, rest, one, others, rfl⟩ := actAll_cons_eq_some_iff.mp h
    have hfirst := one.applyAll_eq (grows_actAll others).1 owner
    rw [callsThrough_cons, repliesThrough_cons, WriterCall.applyAll_append, hfirst, ih others]

/-- The recorder of a handle is the one of its number. -/
theorem Traced.recorder?_eq (traced : Traced past handles) {handle owner : Nat}
    (h : handles.owners[handle]? = some owner) :
    handles.recorder? handle = some (handles.recorderOf owner) := by
  have hthere := traced.there owner (List.mem_of_getElem? h)
  simp [recorder?, recorderOf, h, hthere]

/-- Acts by which nobody writes to its recorder do not change what is seen through a handle. -/
theorem recorder?_of_unshared (traced : Traced past handles)
    (h : handles.actAll acts = some (answers, later)) {handle : Nat}
    (made : handle < handleCount past) (unshared : ∀ other call, .call other call ∈ acts →
      ¬ Shares (sources (past ++ acts)) handle other) :
    later.recorder? handle = handles.recorder? handle := by
  have tracedLater := traced.actAll h
  obtain ⟨owner, howner⟩ := traced.exists_owner made
  have hlater := getElem?_of_prefix (grows_actAll h).1 howner
  have hcalls : callsThrough (fun other => later.owners[other]? = some owner) acts = [] := by
    rw [callsThrough, List.filterMap_eq_nil_iff]
    rintro (_ | _ | ⟨other, call⟩ | _) mem
    case call =>
      have hother := unshared other call mem
      rw [tracedLater.owned.shares_iff_of_owner hlater] at hother
      simp [hother]
    all_goals rfl
  have hsame := applyAll_of_actAll h owner
  rw [hcalls] at hsame
  rw [traced.recorder?_eq howner, tracedLater.recorder?_eq hlater]
  exact congrArg some (Prod.mk.inj hsame).2.symm

section
variable (h : actAll {} acts = some (answers, later))
include h

theorem traced_of_actAll : Traced acts later :=
  Traced.nil.actAll h

/-- The recorder of a handle got the calls through the handles that are connected with it. -/
theorem recorder?_of_actAll {handle : Nat} (made : handle < handleCount acts) :
    ∃ recorder, later.recorder? handle = some recorder ∧
      WriterCall.applyAll ({} : Recorder) (callsTo acts handle) =
        (repliesTo acts answers handle, recorder) := by
  have traced := traced_of_actAll h
  obtain ⟨owner, howner⟩ := traced.exists_owner made
  have hshares : (fun other => decide (Shares (sources acts) handle other)) =
      fun other => decide (later.owners[other]? = some owner) := by
    funext other
    exact decide_eq_decide.mpr (traced.owned.shares_iff_of_owner howner other)
  refine ⟨_, traced.recorder?_eq howner, ?_⟩
  rw [callsTo, repliesTo, hshares]
  exact applyAll_of_actAll h owner

/-- What is seen through a handle is what a new recorder holds after the calls through the handles
that are connected with it. -/
theorem eq_of_recorder? {handle : Nat} {recorder : Recorder}
    (hrecorder : later.recorder? handle = some recorder) :
    recorder = (WriterCall.applyAll ({} : Recorder) (callsTo acts handle)).2 := by
  have made : handle < handleCount acts := by
    obtain ⟨owner, howner, -⟩ := Option.bind_eq_some_iff.mp hrecorder
    rw [← (traced_of_actAll h).length_eq]
    exact (List.getElem?_eq_some_iff.mp howner).1
  obtain ⟨_, hseen, hcalls⟩ := recorder?_of_actAll h made
  rw [hcalls]
  exact Option.some.inj (hrecorder.symm.trans hseen)

end

/-- The answer to one of some acts. -/
theorem exists_acts_of_actAll {first : HandleAct}
    (h : handles.actAll (before ++ first :: after) = some (answers, later)) :
    ∃ early middle answer next, handles.actAll before = some (early, middle) ∧
      Acts middle first answer next ∧ answers[before.length]? = some answer ∧
      next.snapshots <+: later.snapshots := by
  obtain ⟨early, middle, late, hbefore, hafter, rfl⟩ := exists_middle h
  obtain ⟨answer, next, rest, one, others, rfl⟩ := actAll_cons_eq_some_iff.mp hafter
  refine ⟨early, middle, answer, next, hbefore, one, ?_, (grows_actAll others).2⟩
  rw [← length_actAll hbefore, List.getElem?_append_right (Nat.le_refl _), Nat.sub_self]
  rfl

/-- Handles are made on new recorders and as copies of one another, calls are made through them, and
snapshots are taken, all that in any order. Then the handles that are connected by copying act like
a single recorder on which the calls through all of them are made in order: it replies to these
calls as they have been replied to, and holds what is seen through each of the handles. Calls
through other handles change nothing in that, and a snapshot holds for ever what was seen when it
was taken. The handles are numbered in the order in which they are made. -/
theorem act_like_recorders (addressed : areAddressed 0 acts = true) :
    ∃ answers handles, actAll {} acts = some (answers, handles) ∧
      (∀ handle < handleCount acts, ∃ recorder, handles.recorder? handle = some recorder ∧
        WriterCall.applyAll ({} : Recorder) (callsTo acts handle) =
          (repliesTo acts answers handle, recorder)) ∧
      (∀ before after, acts = before ++ after → ∃ early middle,
        actAll {} before = some (early, middle) ∧ early <+: answers ∧
        ∀ handle < handleCount before,
          (∀ other call, .call other call ∈ after → ¬ Shares (sources acts) handle other) →
          handles.recorder? handle = middle.recorder? handle) ∧
      (∀ before handle after, acts = before ++ .save handle :: after → ∃ snapshot,
        answers[before.length]? = some (.snapshot snapshot) ∧
        handles.snapshots[snapshot]? =
          some (WriterCall.applyAll ({} : Recorder) (callsTo before handle)).2) ∧
      ∀ before first after, acts = before ++ first :: after → first.source?.isSome = true →
        answers[before.length]? = some (.handle (handleCount before)) := by
  obtain ⟨answers, handles, h⟩ := Traced.nil.exists_actAll addressed
  refine ⟨answers, handles, h, fun handle made => recorder?_of_actAll h made, ?_, ?_, ?_⟩
  · rintro before after rfl
    obtain ⟨early, middle, late, hbefore, hafter, rfl⟩ := exists_middle h
    exact ⟨early, middle, hbefore, List.prefix_append _ _, fun handle made unshared =>
      recorder?_of_unshared (traced_of_actAll hbefore) hafter made unshared⟩
  · rintro before handle after rfl
    obtain ⟨early, middle, _, _, hbefore, one, hanswer, hsnapshots⟩ := exists_acts_of_actAll h
    cases one with
    | save there =>
      refine ⟨_, hanswer, ?_⟩
      rw [← eq_of_recorder? hbefore there]
      exact getElem?_of_prefix hsnapshots (List.getElem?_concat_length ..)
  · rintro before first after rfl making
    obtain ⟨early, middle, answer, _, hbefore, one, hanswer, -⟩ := exists_acts_of_actAll h
    rw [hanswer, ← (traced_of_actAll hbefore).length_eq]
    cases one with
    | fresh | copy => rfl
    | call | save => simp [source?] at making

/-- Of three handles on one recorder the second is written to, and a snapshot through the first
tells. The response is ended through the third, and cannot be ended through the first again. The
handle on another recorder has nothing to do with that. -/
theorem act_like_recorders_of_copies :
    let acts : List HandleAct := [.fresh, .copy 0, .fresh, .call 1 (.edit (.append [104, 105])),
      .save 0, .copy 1, .call 2 .finish, .call 3 .finish, .call 0 .finish, .call 2 .isEnded]
    areAddressed 0 acts = true ∧
      callsTo acts 0 = [.edit (.append [104, 105]), .finish, .finish] ∧
      callsTo acts 2 = [.finish, .isEnded] ∧
      ∃ answers handles, actAll {} acts = some (answers, handles) ∧
        repliesTo acts answers 0 = [.done, .finished none, .finished (some .alreadyEnded)] ∧
        ∃ snapshot, answers[4]? = some (.snapshot snapshot) ∧ handles.snapshots[snapshot]? =
          some ⟨({} : Response).edit (.append [104, 105]), false⟩ := by
  intro acts
  have addressed : areAddressed 0 acts = true := by decide
  have hcalls : callsTo acts 0 = [.edit (.append [104, 105]), .finish, .finish] := by decide
  obtain ⟨answers, handles, h, recorders, -, snapshots, -⟩ := act_like_recorders addressed
  refine ⟨addressed, hcalls, by decide, answers, handles, h, ?_, ?_⟩
  · obtain ⟨recorder, -, hreplies⟩ := recorders 0 (by decide)
    rw [hcalls] at hreplies
    exact (Prod.mk.inj hreplies).1.symm
  · have hbefore : callsTo (acts.take 4) 0 = [.edit (.append [104, 105])] := by decide
    have hsnapshot := snapshots (acts.take 4) 0 (acts.drop 5) rfl
    rwa [hbefore] at hsnapshot

end Handles

end RouteChain
