import RouteChain.Proofs.Server.Books

/-!
# The chain of a call

The books of a server always show what has become of the chain of a call, as if its request had been
served all alone: nobody goes on with it but those who keep it.

## Main definitions

* `Server.Tracks` — books that show what has become of the chain of a call.

The main result is `Server.Tracks.step`: as long as a call is not abandoned, the books show what has
become of its chain, whatever is done at the server.
-/

namespace RouteChain

variable {ρ : Type}

namespace Server

/-! ## Slots -/

/-- In a server in order, every chain that is kept can be found in its slot. -/
theorem Orderly.held?_eq {server : Server ρ} (h : server.Orderly) {held : HeldChain ρ}
    (mem : held ∈ server.held) : server.held? held.slot = some held := by
  have hslots := h.slots
  unfold held?
  generalize server.held = chains at hslots mem
  induction chains with
  | nil => simp at mem
  | cons first chains ih =>
    rw [List.map_cons, List.nodup_cons] at hslots
    rcases List.mem_cons.mp mem with rfl | mem
    · simp
    · have hne : first.slot ≠ held.slot := fun heq =>
        hslots.1 (heq ▸ List.mem_map_of_mem mem)
      rw [List.find?_cons_of_neg (by simpa using hne)]
      exact ih hslots.2 mem

theorem slot_of_held? {server : Server ρ} {slot : Nat} {held : HeldChain ρ}
    (h : server.held? slot = some held) : held ∈ server.held ∧ held.slot = slot :=
  ⟨List.mem_of_find?_eq_some h, by simpa using List.find?_some h⟩

/-! ## Books that track a chain -/

/-- The books show what has become of the chain of a call: its writer as it is, and the chain where
it stands if it is kept. -/
structure Tracks (server : Server ρ) (id : Nat) (fate : Fate Outlet ρ) (closed : Bool) : Prop where
  booked : server.called[id]? = some ⟨fate.response, closed⟩
  kept : server.held.filter (fun held => held.ticket = .called id) = fate.standing (.called id)

namespace Tracks

variable {server : Server ρ} {id : Nat} {fate : Fate Outlet ρ} {closed : Bool}

/-- The kept chains of a call are the one that its books show. -/
theorem mem_iff (tracks : server.Tracks id fate closed) {held : HeldChain ρ} :
    held ∈ fate.standing (.called id) ↔ held ∈ server.held ∧ held.ticket = .called id := by
  rw [← tracks.kept, List.mem_filter, decide_eq_true_iff]

/-- The books show the chain of a call that is found in a slot. -/
theorem fate_of_held? (tracks : server.Tracks id fate closed) {slot : Nat} {held : HeldChain ρ}
    (found : server.held? slot = some held) (hticket : held.ticket = .called id) :
    fate = .held slot held.chain := by
  obtain ⟨mem, rfl⟩ := slot_of_held? found
  have hstanding := tracks.mem_iff.mpr ⟨mem, hticket⟩
  cases fate with
  | gone => simp [Fate.standing] at hstanding
  | held slot chain =>
    obtain rfl : held = ⟨slot, .called id, chain⟩ := by simpa [Fate.standing] using hstanding
    rfl

/-- The chain of a call is kept if the books show that somebody keeps it. -/
theorem isHeld_iff (tracks : server.Tracks id fate closed) :
    server.isHeld (.called id) = true ↔ ∃ slot chain, fate = .held slot chain := by
  have hany : server.isHeld (.called id) = true ↔ ∃ held, held ∈ fate.standing (.called id) := by
    simp [isHeld, tracks.mem_iff]
  rw [hany]
  cases fate with
  | gone chain response => simp [Fate.standing]
  | held slot chain => simp [Fate.standing]

/-- Keeping the writer of another request does not change what the books show. -/
theorem record (tracks : server.Tracks id fate closed) {ticket : Ticket}
    (hne : ticket ≠ .called id) (outlet : Outlet) :
    (server.record ticket outlet).Tracks id fate closed :=
  ⟨(called_record_of_ne server outlet hne).trans tracks.booked, by
    rw [held_record]
    exact tracks.kept⟩

/-- The kept chains of a call when a slot has been filled with the chain of another request. -/
theorem filter_putBy (tracks : server.Tracks id fate closed) {new : HeldChain ρ}
    (hne : new.ticket ≠ .called id) :
    (server.putBy new).2.held.filter (fun held => held.ticket = .called id) =
      (fate.standing (.called id)).filter (fun held => held.slot ≠ new.slot) := by
  rw [held_putBy, List.filter_append, vacate, List.filter_filter, ← tracks.kept, List.filter_filter]
  simp [hne, Bool.and_comm]

/-- The chain of a call stays where it stands when the chain of another request is put into another
slot. -/
theorem putBy_of_ne (tracks : server.Tracks id fate closed) (orderly : server.Orderly)
    {new : HeldChain ρ} (hne : new.ticket ≠ .called id)
    (h : ∀ old, server.held? new.slot = some old → old.ticket ≠ .called id) :
    (server.putBy new).2.Tracks id fate closed := by
  refine ⟨(called_putBy_of_ne server new h).trans tracks.booked, ?_⟩
  rw [tracks.filter_putBy hne, List.filter_eq_self]
  intro held mem
  obtain ⟨hheld, hticket⟩ := tracks.mem_iff.mp mem
  have hslot : held.slot ≠ new.slot := fun heq =>
    h held (heq ▸ orderly.held?_eq hheld) hticket
  simpa using hslot

/-- The chain of a call is given up when the chain of another request is put into its slot. -/
theorem putBy_of_eq (tracks : server.Tracks id fate closed) (new : HeldChain ρ)
    {old : HeldChain ρ} (hne : new.ticket ≠ .called id) (found : server.held? new.slot = some old)
    (hold : old.ticket = .called id) :
    fate = .held new.slot old.chain ∧
      (server.putBy new).2.Tracks id old.chain.giveUp.fate closed := by
  have hfate := tracks.fate_of_held? found hold
  refine ⟨hfate, ?_, ?_⟩
  · rw [called_putBy_of_eq server new found hold, tracks.booked]
    rfl
  · rw [tracks.filter_putBy hne, hfate]
    simp [Fate.standing, Chain.giveUp]

/-- Books in which a run of the call is entered track its chain, unless it was kept before. -/
theorem settle_self (run : Run Outlet ρ) {outlet : Outlet}
    (booked : server.called[id]? = some ⟨outlet, closed⟩)
    (absent : ∀ held ∈ server.held, held.ticket ≠ .called id) :
    (server.settle (.called id) run).server.Tracks id run.fate closed := by
  have hrecord : (server.record (.called id) run.fate.response).called[id]? =
      some ⟨run.fate.response, closed⟩ := by
    rw [called_record_self, booked]
    rfl
  have hnone : server.held.filter (fun held => held.ticket = .called id) = [] := by
    simpa using absent
  cases fate : run.fate with
  | gone chain response =>
    rw [settle_of_gone server _ fate]
    exact ⟨by simpa [fate, Fate.response] using hrecord, by rwa [held_record]⟩
  | held slot chain =>
    rw [settle_of_held server _ fate]
    constructor
    · refine (called_putBy_of_ne _ _ fun old found => ?_).trans
        (by simpa [fate, Fate.response] using hrecord)
      exact absent old (by simpa using (slot_of_held? found).1)
    · rw [held_putBy, List.filter_append]
      have hvacate : ∀ held ∈ ((server.record (.called id) chain.response).vacate slot).held,
          held.ticket ≠ .called id := fun held mem =>
        absent held (by simpa using (List.mem_filter.mp mem).1)
      rw [List.filter_eq_nil_iff.mpr (by simpa using hvacate)]
      simp [Fate.standing]

/-- Books in which a run of another request is entered track the chain as well. It is given up if it
stands in the slot in which the other one is put. -/
theorem settle_other (orderly : server.Orderly) {run : Run Outlet ρ}
    (tracks : server.Tracks id run.fate closed) {ticket : Ticket} (hne : ticket ≠ .called id)
    (other : Run Outlet ρ) :
    (server.settle ticket other).server.Tracks id
      (((server.displacement id other).map Behaviour.resumption).foldl Run.goOn run).fate
      closed := by
  cases fate : other.fate with
  | gone chain response =>
    have hnothing : server.displacement id other = [] := by simp only [displacement, fate]
    rw [settle_of_gone server ticket fate, hnothing]
    exact tracks.record hne response
  | held slot chain =>
    have recorded := tracks.record hne chain.response
    rw [settle_of_held server ticket fate]
    by_cases old : ∃ old, server.held? slot = some old ∧ old.ticket = .called id
    · obtain ⟨old, found, hold⟩ := old
      have hgivenUp : server.displacement id other = [.drop] := by
        simp [displacement, fate, found, hold]
      obtain ⟨hfate, given⟩ := recorded.putBy_of_eq ⟨slot, ticket, chain⟩ hne
        ((held?_record server ticket chain.response slot).trans found) hold
      have hgoOn : (run.goOn (Behaviour.resumption .drop)).fate = old.chain.giveUp.fate := by
        simp only [Run.goOn, hfate]
        rfl
      rw [hgivenUp, List.map_singleton, List.foldl_cons, List.foldl_nil, hgoOn]
      exact given
    · have hnothing : server.displacement id other = [] := by
        cases found : server.held? slot with
        | none => simp [displacement, fate, found]
        | some held =>
          have hheld : held.ticket ≠ .called id := fun heq => old ⟨held, found, heq⟩
          simp [displacement, fate, found, hheld]
      rw [hnothing]
      refine recorded.putBy_of_ne (orderly.record _ _) hne fun held found hheld => ?_
      exact old ⟨held, by simpa using found, hheld⟩

/-! ## Acts -/

/-- The chain of a call stays where it stands when another slot is emptied. -/
theorem vacate (orderly : server.Orderly) (tracks : server.Tracks id fate closed) {slot : Nat}
    {held : HeldChain ρ} (found : server.held? slot = some held) (hne : held.ticket ≠ .called id) :
    (server.vacate slot).Tracks id fate closed := by
  refine ⟨tracks.booked, ?_⟩
  have hslot : ∀ other ∈ fate.standing (.called id), other.slot ≠ slot := by
    rintro other mem rfl
    obtain ⟨hother, hticket⟩ := tracks.mem_iff.mp mem
    obtain rfl : other = held := Option.some.inj ((orderly.held?_eq hother).symm.trans found)
    exact hne hticket
  rw [Server.vacate, List.filter_filter]
  rw [← tracks.kept] at hslot ⊢
  refine List.filter_congr fun other mem => ?_
  by_cases hticket : other.ticket = .called id
  · have := hslot other (List.mem_filter.mpr ⟨mem, by simpa using hticket⟩)
    simp [this]
  · simp [hticket]

theorem close (tracks : server.Tracks id fate closed) :
    (server.close id).Tracks id fate true := by
  refine ⟨?_, tracks.kept⟩
  simp [Server.close, tracks.booked]

theorem close_of_ne (tracks : server.Tracks id fate closed) {other : Nat} (hne : other ≠ id) :
    (server.close other).Tracks id fate closed := by
  refine ⟨?_, tracks.kept⟩
  simp [Server.close, tracks.booked, hne]

theorem abandon_of_ne (tracks : server.Tracks id fate closed) {other : Nat} (hne : other ≠ id) :
    (server.abandon other).Tracks id fate closed := by
  refine ⟨(tracks.close_of_ne hne).booked, ?_⟩
  have hleave : ∀ held ∈ fate.standing (.called id), held.leave other = held := by
    intro held mem
    have hticket := (tracks.mem_iff.mp mem).2
    simp [HeldChain.leave, hticket, Ne.symm hne]
  rw [held_abandon, List.filter_map]
  have hticket : (fun held : HeldChain ρ => decide (held.ticket = .called id)) ∘
      HeldChain.leave other = fun held => decide (held.ticket = .called id) := by
    funext held
    simp
  rw [hticket, tracks.kept]
  exact (List.map_congr_left hleave).trans (List.map_id' _)

/-- Every act leaves books that track the chain of a call, if it is not about the response. -/
theorem step (orderly : server.Orderly) {run : Run Outlet ρ}
    (tracks : server.Tracks id run.fate closed) (act : Act ρ) (hpoll : act ≠ .poll id)
    (habandon : act ≠ .abandon id) :
    (server.step act).server.Tracks id
      (((server.moves id act).map Behaviour.resumption).foldl Run.goOn run).fate closed := by
  cases act with
  | dispatch request outlet =>
    exact settle_other (orderly.dispatched outlet) ⟨tracks.booked, tracks.kept⟩ (by simp) _
  | call request =>
    have hlt : id < server.called.length := (List.getElem?_eq_some_iff.mp tracks.booked).1
    have hne : Ticket.called server.called.length ≠ .called id := by
      intro heq
      cases heq
      exact Nat.lt_irrefl _ hlt
    refine settle_other (orderly.called ⟨.delivering {}, false⟩) ⟨?_, tracks.kept⟩ hne _
    rw [List.getElem?_append_left hlt]
    exact tracks.booked
  | resume slot behaviour =>
    simp only [Server.step, resume]
    cases found : server.held? slot with
    | none => simpa [moves, found] using tracks
    | some held =>
      by_cases hticket : held.ticket = .called id
      · have hfate := tracks.fate_of_held? found hticket
        have absent : ∀ other ∈ (server.vacate slot).held, other.ticket ≠ .called id := by
          intro other mem heq
          obtain ⟨hother, hslot⟩ := List.mem_filter.mp mem
          have hstanding := tracks.mem_iff.mpr ⟨hother, heq⟩
          rw [hfate] at hstanding
          obtain rfl : other = ⟨slot, .called id, held.chain⟩ := by
            simpa [Fate.standing] using hstanding
          simp at hslot
        have hgoOn : (run.goOn behaviour.resumption).fate = (held.chain.resume behaviour).fate := by
          simp only [Run.goOn, hfate]
          rfl
        have booked : (server.vacate slot).called[id]? = some ⟨run.fate.response, closed⟩ :=
          tracks.booked
        have := settle_self (held.chain.resume behaviour) booked absent
        simpa [moves, found, hticket, hgoOn] using this
      · have := settle_other (orderly.vacate slot) (tracks.vacate orderly found hticket) hticket
          (held.chain.resume behaviour)
        simpa [moves, found, hticket] using this
  | poll other =>
    have hne : other ≠ id := fun heq => hpoll (heq ▸ rfl)
    rcases server.server_step_poll other with heq | heq <;> rw [heq]
    · exact tracks
    · exact tracks.close_of_ne hne
  | abandon other => exact tracks.abandon_of_ne fun heq => habandon (heq ▸ rfl)

end Tracks

end Server

end RouteChain
