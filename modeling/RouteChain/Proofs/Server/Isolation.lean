import Mathlib.Data.List.Nodup
import RouteChain.Proofs.Server.Tracking

/-!
# Requests apart

Requests that are under way at one server do not meet. As long as nobody puts a chain into a slot
where the chain of another request stands, each request goes as it would if it were the only one.

## Main definitions

* `Server.run?`, `Server.subject?` — the run that an act starts, and the request that it is about.
* `Server.Apart` — acts in which no chain takes the place of the chain of another request.
* `Server.only` — a server with nothing in its books but one request.
* `Server.actsOf`, `Server.sightsOf` — what is done with one request, and what is seen of it.
* `Server.Tidy` — servers as they are after acts apart.

The main result is `Server.served_alone`: what is seen of each request, and what is left of it in
the books, is what comes of its own acts at a server that takes nothing else.
-/

namespace RouteChain

variable {σ ρ : Type}

def Fate.slot? : Fate σ ρ → Option Nat
  | .gone _ _ => none
  | .held slot _ => some slot

/-! ## One request -/

def Ticket.first : Ticket → Ticket
  | .dispatched _ => .dispatched 0
  | .called _ => .called 0

def HeldChain.alone (held : HeldChain ρ) : HeldChain ρ :=
  { held with ticket := held.ticket.first }

def Act.alone : Act ρ → Act ρ
  | .poll _ => .poll 0
  | .abandon _ => .abandon 0
  | act => act

namespace Server

/-- The server with nothing in its books but this request, which is the first of its kind. -/
def only (server : Server ρ) (ticket : Ticket) : Server ρ where
  service := server.service
  dispatched :=
    match ticket with
    | .dispatched id => server.dispatched[id]?.toList
    | .called _ => []
  called :=
    match ticket with
    | .dispatched _ => []
    | .called id => server.called[id]?.toList
  held := (server.held.filter fun held => held.ticket = ticket).map HeldChain.alone

/-- The writer of a request as its last run has left it. -/
def outlet? (server : Server ρ) : Ticket → Option Outlet
  | .dispatched id => server.dispatched[id]?
  | .called id => server.called[id]?.map PendingCall.outlet

/-! ## Acts of one request -/

/-- The run that an act starts, with the ticket of the request. -/
def run? (server : Server ρ) : Act ρ → Option (Ticket × Run Outlet ρ)
  | .dispatch request outlet =>
    some (.dispatched server.dispatched.length, server.service.dispatcher.dispatch request outlet)
  | .call request =>
    some (.called server.called.length, server.service.call request (.delivering {}))
  | .resume slot behaviour =>
    (server.held? slot).map fun held => (held.ticket, held.chain.resume behaviour)
  | .poll _ | .abandon _ => none

/-- The server when the run of an act starts: a new request has its place in the books, and a chain
that is gone on with has left its slot. -/
def ready (server : Server ρ) : Act ρ → Server ρ
  | .dispatch _ outlet => { server with dispatched := server.dispatched ++ [outlet] }
  | .call _ => { server with called := server.called ++ [⟨.delivering {}, false⟩] }
  | .resume slot _ => server.vacate slot
  | .poll _ | .abandon _ => server

def subject? (server : Server ρ) : Act ρ → Option Ticket
  | .poll id | .abandon id => some (.called id)
  | act => (server.run? act).map Prod.fst

/-- Does every chain of another request stay in its slot? -/
def parts (server : Server ρ) (act : Act ρ) : Bool :=
  (server.run? act).all fun (ticket, run) =>
    server.held.all fun held => held.ticket = ticket || run.fate.slot? ≠ some held.slot

/-- During these acts, no chain is put into a slot where the chain of another request stands. -/
def Apart (server : Server ρ) : List (Act ρ) → Prop
  | [] => True
  | act :: acts => server.parts act = true ∧ (server.step act).server.Apart acts

/-- What is done with this request during some acts, as if it were the first of its kind. -/
def actsOf (server : Server ρ) (ticket : Ticket) : List (Act ρ) → List (Act ρ)
  | [] => []
  | act :: acts =>
    let later := (server.step act).server.actsOf ticket acts
    if server.subject? act = some ticket then act.alone :: later else later

end Server

/-! ## What is seen -/

/-- What is seen of an act: what happens, whether a panic goes on, and what is found by somebody who
asks for a response. -/
structure Sight (ρ : Type) where
  log : List (Happening ρ)
  panicked : Bool
  found : Option Poll

namespace Server

def found? (server : Server ρ) : Act ρ → Option Poll
  | .poll id => (server.poll id).map Prod.fst
  | _ => none

def sight (server : Server ρ) (act : Act ρ) : Sight ρ where
  log := (server.step act).log
  panicked := (server.step act).panicked
  found := server.found? act

def sights (server : Server ρ) : List (Act ρ) → List (Sight ρ)
  | [] => []
  | act :: acts => server.sight act :: (server.step act).server.sights acts

/-- What is seen of this request during some acts. -/
def sightsOf (server : Server ρ) (ticket : Ticket) : List (Act ρ) → List (Sight ρ)
  | [] => []
  | act :: acts =>
    let later := (server.step act).server.sightsOf ticket acts
    if server.subject? act = some ticket then server.sight act :: later else later

/-! ## Runs with room -/

/-- The chain of the run, if somebody keeps it, finds its slot empty. -/
def HasRoom (server : Server ρ) (run : Run Outlet ρ) : Prop :=
  ∀ held ∈ server.held, run.fate.slot? ≠ some held.slot

/-- A run with room is entered into the books and changes nothing else. -/
theorem settle_of_hasRoom {server : Server ρ} {run : Run Outlet ρ} (room : server.HasRoom run)
    (ticket : Ticket) :
    server.settle ticket run =
      { log := run.log
        server := { server.record ticket run.fate.response with
          held := server.held ++ run.fate.standing ticket }
        panicked := run.unwinds } := by
  cases fate : run.fate with
  | gone chain response =>
    have hheld : (server.record ticket response).held = server.held := held_record _ _ _
    simp only [settle, fate, Fate.response, Fate.standing, List.append_nil, ← hheld]
  | held slot chain =>
    have hslot : ∀ held ∈ server.held, held.slot ≠ slot := fun held mem heq =>
      room held mem (by rw [fate, heq]; rfl)
    have hnone : (server.record ticket chain.response).held? slot = none := by
      rw [held?_record]
      exact List.find?_eq_none.mpr (by simpa using hslot)
    have hheld : server.held.filter (fun held => decide (held.slot ≠ slot)) = server.held :=
      List.filter_eq_self.mpr (by simpa using hslot)
    simp only [settle, fate, Fate.response, Fate.standing, putBy, hnone, List.append_nil, vacate,
      held_record, hheld, Run.log]

/-! ## The books of one request -/

/-- Nothing is known of a request that has not been taken. -/
theorem only_new (service : Service ρ) (ticket : Ticket) :
    ({ service } : Server ρ).only ticket = { service } := by
  cases ticket <;> simp [only]

@[simp] theorem getElem?_zero_toList {α : Type} (a? : Option α) : a?.toList[0]? = a? := by
  cases a? <;> rfl

theorem outlet?_only (server : Server ρ) (ticket : Ticket) :
    (server.only ticket).outlet? ticket.first = server.outlet? ticket := by
  cases ticket <;> simp [only, outlet?, Ticket.first]

/-- The writer of the request is kept in its place. -/
theorem only_record_self (server : Server ρ) (ticket : Ticket) (outlet : Outlet) :
    (server.record ticket outlet).only ticket =
      (server.only ticket).record ticket.first outlet := by
  cases ticket with
  | dispatched id =>
    have hset : (server.dispatched.set id outlet)[id]? =
        server.dispatched[id]?.map fun _ => outlet := by
      rw [List.getElem?_set_self']
      rfl
    simp only [record, only, Ticket.first, hset]
    cases server.dispatched[id]? <;> rfl
  | called id =>
    simp only [record, only, Ticket.first, List.getElem?_modify_eq]
    cases server.called[id]? <;> rfl

/-- The writer of another request is kept elsewhere. -/
theorem only_record_of_ne (server : Server ρ) {ticket other : Ticket} (hne : other ≠ ticket)
    (outlet : Outlet) : (server.record other outlet).only ticket = server.only ticket := by
  cases other with
  | dispatched n =>
    cases ticket with
    | called id => rfl
    | dispatched id =>
      have hn : n ≠ id := fun heq => hne (congrArg _ heq)
      simp [record, only, hn]
  | called n =>
    cases ticket with
    | dispatched id => rfl
    | called id =>
      have hn : n ≠ id := fun heq => hne (congrArg _ heq)
      simp [record, only, hn]

theorem held_only (server : Server ρ) (ticket : Ticket) :
    (server.only ticket).held =
      (server.held.filter fun held => held.ticket = ticket).map HeldChain.alone := rfl

/-- The chains of other requests are not kept where only this one is. -/
theorem HasRoom.only {server : Server ρ} {run : Run Outlet ρ} (room : server.HasRoom run)
    (ticket : Ticket) : (server.only ticket).HasRoom run := by
  intro alone mem
  obtain ⟨held, hheld, rfl⟩ := List.mem_map.mp mem
  exact room held (List.mem_filter.mp hheld).1

/-- A run of the request is entered into its books. -/
theorem settle_only {server : Server ρ} {run : Run Outlet ρ} (room : server.HasRoom run)
    (ticket : Ticket) :
    (server.only ticket).settle ticket.first run =
      { server.settle ticket run with
        server := (server.settle ticket run).server.only ticket } := by
  rw [settle_of_hasRoom room, settle_of_hasRoom (room.only ticket), ← only_record_self]
  have hstanding : (server.held ++ run.fate.standing ticket).filter
        (fun held => held.ticket = ticket) =
      server.held.filter (fun held => held.ticket = ticket) ++ run.fate.standing ticket := by
    rw [List.filter_append]
    cases run.fate <;> simp [Fate.standing]
  have halone : (run.fate.standing ticket).map HeldChain.alone =
      run.fate.standing ticket.first := by
    cases run.fate <;> rfl
  cases ticket <;>
    simp only [only, hstanding, List.map_append, halone, Ticket.first]

/-- A run of another request is not entered into the books of this one. -/
theorem only_settle_of_ne {server : Server ρ} {run : Run Outlet ρ} (room : server.HasRoom run)
    {ticket other : Ticket} (hne : other ≠ ticket) :
    (server.settle other run).server.only ticket = server.only ticket := by
  rw [settle_of_hasRoom room, ← only_record_of_ne server hne run.fate.response]
  have hnone : (run.fate.standing other).filter (fun held => held.ticket = ticket) = [] := by
    cases run.fate <;> simp [Fate.standing, hne]
  cases ticket <;> simp [only, List.filter_append, hnone]

/-! ## Tidy servers -/

/-- Is there a place for this request in the books? -/
def Booked (server : Server ρ) : Ticket → Prop
  | .dispatched id => id < server.dispatched.length
  | .called id => id < server.called.length

/-- A server as it is after acts apart: no two chains stand in one slot, no request has two of them,
and each belongs to a request in the books. -/
structure Tidy (server : Server ρ) : Prop where
  slots : (server.held.map HeldChain.slot).Nodup
  tickets : (server.held.map HeldChain.ticket).Nodup
  booked : ∀ held ∈ server.held, server.Booked held.ticket

/-- A server that has taken nothing is tidy. -/
theorem tidy_new (service : Service ρ) : ({ service } : Server ρ).Tidy :=
  ⟨List.nodup_nil, List.nodup_nil, by simp⟩

theorem Booked.of_le {server other : Server ρ} {ticket : Ticket} (h : server.Booked ticket)
    (hdispatched : server.dispatched.length ≤ other.dispatched.length)
    (hcalled : server.called.length ≤ other.called.length) : other.Booked ticket := by
  cases ticket with
  | dispatched id => exact Nat.lt_of_lt_of_le h hdispatched
  | called id => exact Nat.lt_of_lt_of_le h hcalled

@[simp] theorem length_dispatched_record (server : Server ρ) (ticket : Ticket) (outlet : Outlet) :
    (server.record ticket outlet).dispatched.length = server.dispatched.length := by
  cases ticket <;> simp [record]

/-- A server in which a run with room has been entered is tidy, if the chain of the request was not
kept before. -/
theorem Tidy.settle {server : Server ρ} (tidy : server.Tidy) {ticket : Ticket}
    {run : Run Outlet ρ} (room : server.HasRoom run) (booked : server.Booked ticket)
    (absent : ∀ held ∈ server.held, held.ticket ≠ ticket) :
    (server.settle ticket run).server.Tidy := by
  rw [settle_of_hasRoom room]
  cases fate : run.fate with
  | gone chain response =>
    simp only [Fate.standing, List.append_nil, Fate.response]
    refine ⟨tidy.slots, tidy.tickets, fun held mem => (tidy.booked held mem).of_le ?_ ?_⟩ <;> simp
  | held slot chain =>
    have hslot : ∀ held ∈ server.held, held.slot ≠ slot := fun held mem heq =>
      room held mem (by rw [fate, heq]; rfl)
    simp only [Fate.standing, Fate.response]
    refine ⟨?_, ?_, fun held mem => ?_⟩
    · rw [List.map_append, List.nodup_append]
      refine ⟨tidy.slots, by simp, ?_⟩
      simpa using fun held mem => hslot held mem
    · rw [List.map_append, List.nodup_append]
      refine ⟨tidy.tickets, by simp, ?_⟩
      simpa using fun held mem => absent held mem
    · have hbooked : server.Booked held.ticket := by
        rcases List.mem_append.mp mem with mem | mem
        · exact tidy.booked held mem
        · rw [List.mem_singleton.mp mem]
          exact booked
      exact hbooked.of_le (by simp) (by simp)

theorem Tidy.close {server : Server ρ} (tidy : server.Tidy) (id : Nat) :
    (server.close id).Tidy :=
  ⟨tidy.slots, tidy.tickets, fun held mem =>
    (tidy.booked held mem).of_le Nat.le.refl (Nat.le_of_eq (length_called_close server id).symm)⟩

theorem Tidy.abandon {server : Server ρ} (tidy : server.Tidy) (id : Nat) :
    (server.abandon id).Tidy := by
  have hslots : (server.held.map (HeldChain.leave id)).map HeldChain.slot =
      server.held.map HeldChain.slot := by simp
  have htickets : (server.held.map (HeldChain.leave id)).map HeldChain.ticket =
      server.held.map HeldChain.ticket := by simp
  refine ⟨?_, ?_, fun left mem => ?_⟩
  · rw [held_abandon, hslots]
    exact tidy.slots
  · rw [held_abandon, htickets]
    exact tidy.tickets
  · obtain ⟨held, hheld, rfl⟩ := List.mem_map.mp (server.held_abandon id ▸ mem)
    rw [HeldChain.ticket_leave]
    exact ((tidy.close id).booked held hheld).of_le Nat.le.refl Nat.le.refl

/-! ## When a run starts -/

variable {server : Server ρ} {act : Act ρ} {ticket : Ticket} {run : Run Outlet ρ}

/-- An act is about the request whose run it starts. -/
theorem subject?_of_run? (started : server.run? act = some (ticket, run)) :
    server.subject? act = some ticket := by
  cases act with
  | poll id => simp [run?] at started
  | abandon id => simp [run?] at started
  | _ => simp [subject?, started]

/-- Who goes on with a chain in a slot starts a run of the request to which the chain belongs. -/
theorem exists_held_of_run? {slot : Nat} {behaviour : Behaviour ρ}
    (started : server.run? (.resume slot behaviour) = some (ticket, run)) :
    ∃ held, server.held? slot = some held ∧ held.ticket = ticket ∧
      held.chain.resume behaviour = run := by
  simpa [run?] using started

/-- What comes of an act is what comes of the run that it starts. -/
theorem step_of_run? (started : server.run? act = some (ticket, run)) :
    server.step act = (server.ready act).settle ticket run := by
  cases act with
  | dispatch request outlet =>
    obtain ⟨rfl, rfl⟩ : _ = ticket ∧ _ = run := by simpa [run?] using started
    rfl
  | call request =>
    obtain ⟨rfl, rfl⟩ : _ = ticket ∧ _ = run := by simpa [run?] using started
    rfl
  | resume slot behaviour =>
    obtain ⟨held, found, rfl, rfl⟩ := exists_held_of_run? started
    simp only [step, resume, found, Option.map_some, Option.getD_some, ready]
  | poll id => simp [run?] at started
  | abandon id => simp [run?] at started

/-- The chains that are kept when a run starts have been kept before. -/
theorem mem_of_mem_ready {held : HeldChain ρ} (mem : held ∈ (server.ready act).held) :
    held ∈ server.held := by
  cases act with
  | resume slot behaviour => exact (List.mem_filter.mp mem).1
  | _ => exact mem

/-- When the run of a request starts it is in the books, and its chain is not kept. -/
theorem Tidy.ready (tidy : server.Tidy) (started : server.run? act = some (ticket, run)) :
    (server.ready act).Tidy ∧ (server.ready act).Booked ticket ∧
      ∀ held ∈ (server.ready act).held, held.ticket ≠ ticket := by
  cases act with
  | dispatch request outlet =>
    obtain ⟨rfl, -⟩ : _ = ticket ∧ _ = run := by simpa [run?] using started
    refine ⟨⟨tidy.slots, tidy.tickets, fun held mem => ?_⟩, by simp [Booked, Server.ready], ?_⟩
    · exact (tidy.booked held mem).of_le (by simp [Server.ready]) (by simp [Server.ready])
    · rintro held mem heq
      have := tidy.booked held mem
      simp [heq, Booked] at this
  | call request =>
    obtain ⟨rfl, -⟩ : _ = ticket ∧ _ = run := by simpa [run?] using started
    refine ⟨⟨tidy.slots, tidy.tickets, fun held mem => ?_⟩, by simp [Booked, Server.ready], ?_⟩
    · exact (tidy.booked held mem).of_le (by simp [Server.ready]) (by simp [Server.ready])
    · rintro held mem heq
      have := tidy.booked held mem
      simp [heq, Booked] at this
  | resume slot behaviour =>
    obtain ⟨held, found, rfl, rfl⟩ := exists_held_of_run? started
    obtain ⟨mem, hslot⟩ := slot_of_held? found
    refine ⟨⟨tidy.slots.sublist (List.filter_sublist.map _),
      tidy.tickets.sublist (List.filter_sublist.map _),
      fun other hother => tidy.booked other (List.mem_filter.mp hother).1⟩,
      tidy.booked held mem, fun other hother heq => ?_⟩
    obtain ⟨hother, hne⟩ := List.mem_filter.mp hother
    obtain rfl : other = held := List.inj_on_of_nodup_map tidy.tickets hother mem heq
    simp [hslot] at hne
  | poll id => simp [run?] at started
  | abandon id => simp [run?] at started

/-- If every chain of another request stays in its slot, a run has room. -/
theorem Tidy.hasRoom (tidy : server.Tidy) (apart : server.parts act = true)
    (started : server.run? act = some (ticket, run)) : (server.ready act).HasRoom run := by
  intro held mem
  have hne := (tidy.ready started).2.2 held mem
  have hapart : ∀ held ∈ server.held, held.ticket = ticket ∨ run.fate.slot? ≠ some held.slot := by
    simpa [parts, started] using apart
  exact (hapart held (mem_of_mem_ready mem)).resolve_left hne

/-! ## Acts of the request -/

/-- The chain in the slot of a server with one request, if it belongs to the request. -/
theorem held?_only {slot : Nat} {held : HeldChain ρ} (found : server.held? slot = some held) :
    (server.only held.ticket).held? slot = some held.alone := by
  have hslot : (fun held : HeldChain ρ => decide (held.slot = slot)) ∘ HeldChain.alone =
      fun held => decide (held.slot = slot) := rfl
  obtain ⟨hheld, before, after, heq, hbefore⟩ := List.find?_eq_some_iff_append.mp found
  rw [held?, held_only, List.find?_map, hslot, List.find?_filter, heq, List.find?_append,
    List.find?_eq_none.mpr (by simpa using fun other mem _ => hbefore other mem)]
  simp [hheld]

theorem only_vacate (server : Server ρ) (ticket : Ticket) (slot : Nat) :
    (server.vacate slot).only ticket = (server.only ticket).vacate slot := by
  have hheld : ((server.held.filter fun held => held.slot ≠ slot).filter
        fun held => held.ticket = ticket).map HeldChain.alone =
      ((server.held.filter fun held => held.ticket = ticket).map HeldChain.alone).filter
        fun held => held.slot ≠ slot := by
    rw [List.filter_map, List.filter_filter, List.filter_filter]
    refine congrArg _ (List.filter_congr fun held _ => ?_)
    exact Bool.and_comm _ _
  simp only [only, vacate, hheld]

/-- The run that an act of the request starts is the same at a server with nothing else. -/
theorem run?_only (started : server.run? act = some (ticket, run)) :
    (server.only ticket).run? act.alone = some (ticket.first, run) := by
  cases act with
  | dispatch request outlet =>
    obtain ⟨rfl, rfl⟩ : _ = ticket ∧ _ = run := by simpa [run?] using started
    simp [run?, only, Act.alone, Ticket.first]
  | call request =>
    obtain ⟨rfl, rfl⟩ : _ = ticket ∧ _ = run := by simpa [run?] using started
    simp [run?, only, Act.alone, Ticket.first]
  | resume slot behaviour =>
    obtain ⟨held, found, rfl, rfl⟩ := exists_held_of_run? started
    simp [run?, Act.alone, held?_only found, HeldChain.alone]
  | poll id => simp [run?] at started
  | abandon id => simp [run?] at started

/-- The books of the request when a run of it starts. -/
theorem only_ready_self (started : server.run? act = some (ticket, run)) :
    (server.ready act).only ticket = (server.only ticket).ready act.alone := by
  cases act with
  | dispatch request outlet =>
    obtain ⟨rfl, -⟩ : _ = ticket ∧ _ = run := by simpa [run?] using started
    simp [only, ready, Act.alone]
  | call request =>
    obtain ⟨rfl, -⟩ : _ = ticket ∧ _ = run := by simpa [run?] using started
    simp [only, ready, Act.alone]
  | resume slot behaviour => exact only_vacate server ticket slot
  | poll id => simp [run?] at started
  | abandon id => simp [run?] at started

theorem getElem?_append_singleton_of_ne {α : Type} {l : List α} {a : α} {n : Nat}
    (h : n ≠ l.length) : (l ++ [a])[n]? = l[n]? := by
  rcases Nat.lt_or_gt_of_ne h with hlt | hgt
  · exact List.getElem?_append_left hlt
  · rw [List.getElem?_eq_none (by rw [List.length_append]; exact hgt),
      List.getElem?_eq_none (Nat.le_of_lt hgt)]

/-- The books of the request when a run of another one starts. -/
theorem Tidy.only_ready_of_ne (tidy : server.Tidy) {other : Ticket}
    (started : server.run? act = some (other, run)) (hne : other ≠ ticket) :
    (server.ready act).only ticket = server.only ticket := by
  cases act with
  | dispatch request outlet =>
    obtain ⟨rfl, -⟩ : _ = other ∧ _ = run := by simpa [run?] using started
    cases ticket with
    | called id => rfl
    | dispatched id =>
      have hid : id ≠ server.dispatched.length := fun heq => hne (congrArg _ heq.symm)
      simp [only, Server.ready, getElem?_append_singleton_of_ne hid]
  | call request =>
    obtain ⟨rfl, -⟩ : _ = other ∧ _ = run := by simpa [run?] using started
    cases ticket with
    | dispatched id => rfl
    | called id =>
      have hid : id ≠ server.called.length := fun heq => hne (congrArg _ heq.symm)
      simp [only, Server.ready, getElem?_append_singleton_of_ne hid]
  | resume slot behaviour =>
    obtain ⟨held, found, rfl, rfl⟩ := exists_held_of_run? started
    obtain ⟨mem, hslot⟩ := slot_of_held? found
    have hstays : ∀ kept ∈ server.held, kept.ticket = ticket → kept.slot ≠ slot := by
      rintro kept hkept rfl heq
      obtain rfl : kept = held :=
        List.inj_on_of_nodup_map tidy.slots hkept mem (heq.trans hslot.symm)
      exact hne rfl
    have hkept : (server.held.filter fun kept => kept.slot ≠ slot).filter
          (fun kept => kept.ticket = ticket) =
        server.held.filter fun kept => kept.ticket = ticket := by
      rw [List.filter_filter]
      refine List.filter_congr fun kept mem => ?_
      simpa using hstays kept mem
    simp only [only, Server.ready, vacate, hkept]
  | poll id => simp [run?] at started
  | abandon id => simp [run?] at started

/-! ## Calls that are asked for or given up -/

theorem isHeld_only (server : Server ρ) (id : Nat) :
    (server.only (.called id)).isHeld (.called 0) = server.isHeld (.called id) := by
  rw [isHeld, held_only, List.any_map, List.any_filter, isHeld]
  refine congrArg server.held.any (funext fun held => ?_)
  by_cases h : held.ticket = .called id <;> simp [h, HeldChain.alone, Ticket.first]

theorem only_close_self (server : Server ρ) (id : Nat) :
    (server.close id).only (.called id) = (server.only (.called id)).close 0 := by
  simp only [only, close, List.getElem?_modify_eq]
  cases server.called[id]? <;> rfl

theorem only_close_of_ne (server : Server ρ) {id : Nat} (hne : ticket ≠ .called id) :
    (server.close id).only ticket = server.only ticket := by
  cases ticket with
  | dispatched n => rfl
  | called n =>
    have hn : id ≠ n := fun heq => hne (congrArg _ heq.symm)
    simp [only, close, hn]

/-- What is found of a call depends on nothing else in the books. -/
theorem poll_only (server : Server ρ) (id : Nat) :
    (server.only (.called id)).poll 0 =
      (server.poll id).map fun (poll, server) => (poll, server.only (.called id)) := by
  have hcall : (server.only (.called id)).called[0]? = server.called[id]? := by simp [only]
  rw [poll_eq, poll_eq, hcall, isHeld_only, Option.map_map]
  refine congrArg (fun f => server.called[id]?.map f) (funext fun call => ?_)
  simp only [Function.comp_apply, ← only_close_self]
  split <;> rfl

theorem filter_map_leave (id : Nat) (ticket : Ticket) (chains : List (HeldChain ρ)) :
    (chains.map (HeldChain.leave id)).filter (fun held => held.ticket = ticket) =
      (chains.filter fun held => held.ticket = ticket).map (HeldChain.leave id) := by
  rw [List.filter_map]
  refine congrArg _ (List.filter_congr fun held _ => ?_)
  rw [Function.comp_apply, HeldChain.ticket_leave]

theorem only_abandon_self (server : Server ρ) (id : Nat) :
    (server.abandon id).only (.called id) = (server.only (.called id)).abandon 0 := by
  have hheld : ((server.held.map (HeldChain.leave id)).filter
        fun held => held.ticket = .called id).map HeldChain.alone =
      (server.only (.called id)).held.map (HeldChain.leave 0) := by
    rw [filter_map_leave, held_only, List.map_map, List.map_map]
    refine List.map_congr_left fun held mem => ?_
    have hticket : held.ticket = .called id := by simpa using (List.mem_filter.mp mem).2
    simp [HeldChain.leave, HeldChain.alone, hticket, Ticket.first]
  calc (server.abandon id).only (.called id)
      = { (server.close id).only (.called id) with
          held := ((server.held.map (HeldChain.leave id)).filter
            fun held => held.ticket = .called id).map HeldChain.alone } := rfl
    _ = { (server.only (.called id)).close 0 with
          held := (server.only (.called id)).held.map (HeldChain.leave 0) } := by
        rw [only_close_self, hheld]
    _ = (server.only (.called id)).abandon 0 := rfl

theorem only_abandon_of_ne (server : Server ρ) {id : Nat} (hne : ticket ≠ .called id) :
    (server.abandon id).only ticket = server.only ticket := by
  have hheld : (server.held.map (HeldChain.leave id)).filter (fun held => held.ticket = ticket) =
      server.held.filter fun held => held.ticket = ticket := by
    rw [filter_map_leave]
    refine (List.map_congr_left fun held mem => ?_).trans (List.map_id' _)
    have hticket : held.ticket = ticket := by simpa using (List.mem_filter.mp mem).2
    exact HeldChain.leave_of_ne (hticket ▸ hne)
  calc (server.abandon id).only ticket
      = { (server.close id).only ticket with
          held := ((server.held.map (HeldChain.leave id)).filter
            fun held => held.ticket = ticket).map HeldChain.alone } := rfl
    _ = server.only ticket := by
        rw [hheld, only_close_of_ne server hne]
        rfl

/-! ## Every act -/

/-- An act about a request starts a run of it, or asks for its response, or gives that up. -/
theorem started_of_subject? (h : server.subject? act = some ticket) :
    (∃ run, server.run? act = some (ticket, run)) ∨
      ∃ id, ticket = .called id ∧ (act = .poll id ∨ act = .abandon id) := by
  cases act with
  | poll id => exact .inr ⟨id, (Option.some.inj h).symm, .inl rfl⟩
  | abandon id => exact .inr ⟨id, (Option.some.inj h).symm, .inr rfl⟩
  | _ =>
    simp only [subject?, Option.map_eq_some_iff, Prod.exists] at h
    obtain ⟨_, run, started, rfl⟩ := h
    exact .inl ⟨run, started⟩

/-- An act about a request is seen the same, and leaves the same of it, at a server with nothing
else. -/
theorem Tidy.step_self (tidy : server.Tidy) (apart : server.parts act = true)
    (h : server.subject? act = some ticket) :
    (server.only ticket).sight act.alone = server.sight act ∧
      ((server.only ticket).step act.alone).server = (server.step act).server.only ticket := by
  rcases started_of_subject? h with ⟨run, started⟩ | ⟨id, rfl, rfl | rfl⟩
  · have hfound : (server.only ticket).found? act.alone = server.found? act := by
      cases act with
      | poll id => simp [run?] at started
      | _ => rfl
    rw [sight, sight, hfound, step_of_run? started, step_of_run? (run?_only started),
      ← only_ready_self started, settle_only (tidy.hasRoom apart started)]
    exact ⟨rfl, rfl⟩
  · simp only [sight, Act.alone, found?, step, poll_only]
    cases server.poll id <;> simp
  · exact ⟨rfl, (only_abandon_self server id).symm⟩

/-- An act about another request leaves the books of this one as they are. -/
theorem Tidy.step_of_ne (tidy : server.Tidy) (apart : server.parts act = true)
    (h : server.subject? act ≠ some ticket) :
    (server.step act).server.only ticket = server.only ticket := by
  cases started : server.run? act with
  | some startedRun =>
    obtain ⟨other, run⟩ := startedRun
    have hne : other ≠ ticket := by
      rintro rfl
      exact h (subject?_of_run? started)
    rw [step_of_run? started, only_settle_of_ne (tidy.hasRoom apart started) hne,
      tidy.only_ready_of_ne started hne]
  | none =>
    cases act with
    | dispatch request outlet => simp [run?] at started
    | call request => simp [run?] at started
    | resume slot behaviour =>
      have found : server.held? slot = none := by simpa [run?] using started
      simp [step, resume, found]
    | poll id =>
      have hne : ticket ≠ .called id := fun heq => h (congrArg some heq.symm)
      rcases server.server_step_poll id with heq | heq <;> rw [heq]
      exact only_close_of_ne server hne
    | abandon id => exact only_abandon_of_ne server fun heq => h (congrArg some heq.symm)

/-- An act that leaves the chains of other requests in their slots leaves a server tidy. -/
theorem Tidy.step (tidy : server.Tidy) (apart : server.parts act = true) :
    (server.step act).server.Tidy := by
  cases started : server.run? act with
  | some startedRun =>
    obtain ⟨ticket, run⟩ := startedRun
    obtain ⟨ready, booked, absent⟩ := tidy.ready started
    rw [step_of_run? started]
    exact ready.settle (tidy.hasRoom apart started) booked absent
  | none =>
    cases act with
    | dispatch request outlet => simp [run?] at started
    | call request => simp [run?] at started
    | resume slot behaviour =>
      have found : server.held? slot = none := by simpa [run?] using started
      simpa [Server.step, resume, found] using tidy
    | poll id =>
      rcases server.server_step_poll id with heq | heq <;> rw [heq]
      · exact tidy
      · exact tidy.close id
    | abandon id => exact tidy.abandon id

/-! ## Requests apart -/

/-- What is done with a request during acts apart is seen the same, and leaves the same of it, at a
server with nothing else. -/
theorem Tidy.only_after (tidy : server.Tidy) (acts : List (Act ρ)) (apart : server.Apart acts)
    (ticket : Ticket) :
    (server.only ticket).sights (server.actsOf ticket acts) = server.sightsOf ticket acts ∧
      (server.only ticket).after (server.actsOf ticket acts) =
        (server.after acts).only ticket := by
  induction acts generalizing server with
  | nil => exact ⟨rfl, rfl⟩
  | cons act acts ih =>
    obtain ⟨first, later⟩ := apart
    obtain ⟨hsights, hafter⟩ := ih (tidy.step first) later
    by_cases h : server.subject? act = some ticket
    · obtain ⟨hsight, hstep⟩ := tidy.step_self first h
      simp only [actsOf, sightsOf, if_pos h, sights, hsight, hstep, hsights, true_and]
      simpa only [after, List.foldl_cons, hstep] using hafter
    · have hstep := tidy.step_of_ne first h
      simp only [actsOf, sightsOf, if_neg h]
      rw [hstep] at hsights hafter
      exact ⟨hsights, hafter⟩

/-- Requests that are kept apart do not meet: for every service and all acts during which no chain
is put into a slot where the chain of another request stands, each request is seen to go as it does
when only its own acts are done, in the same order. Each of its actions is invoked with the same to
see, and in the end its books are the same: its response, and its chain if somebody still keeps
it. -/
theorem served_alone (service : Service ρ) (acts : List (Act ρ)) (ticket : Ticket)
    (apart : ({ service } : Server ρ).Apart acts) :
    let own := ({ service } : Server ρ).actsOf ticket acts
    let alone := ({ service } : Server ρ).after own
    let all := ({ service } : Server ρ).after acts
    ({ service } : Server ρ).sightsOf ticket acts = ({ service } : Server ρ).sights own ∧
      all.outlet? ticket = alone.outlet? ticket.first ∧ all.only ticket = alone := by
  intro own alone all
  obtain ⟨hsights, hafter⟩ := (tidy_new service).only_after acts apart ticket
  rw [only_new] at hsights hafter
  exact ⟨hsights.symm, by rw [← outlet?_only, ← hafter], hafter.symm⟩

/-- Two requests are put by in slots of their own. The action that has the second panics before the
first goes on, which is answered as if there were no other. -/
theorem served_alone_of_slots :
    let puts : RouteEntry Unit := ⟨.any, .any, .middleware, .look fun view =>
      .hold (if view.request.path = "/a" then 0 else 1)⟩
    let handler : RouteEntry Unit := ⟨.any, .any, .handler, .send 200 [104, 105]⟩
    let service : Service Unit := ⟨[puts, handler], none⟩
    let first : Act Unit := .dispatch { method := .get, path := "/a" } (.recording {})
    let second : Act Unit := .call { method := .get, path := "/b" }
    let acts : List (Act Unit) := [first, second, .resume 1 .panic, .resume 0 .pass]
    let own : List (Act Unit) := [first, .resume 0 .pass]
    ({ service } : Server Unit).Apart acts ∧
      ({ service } : Server Unit).actsOf (.dispatched 0) acts = own ∧
      ({ service } : Server Unit).sightsOf (.dispatched 0) acts =
        ({ service } : Server Unit).sights own ∧
      (({ service } : Server Unit).after acts).outlet? (.dispatched 0) =
        (({ service } : Server Unit).after own).outlet? (.dispatched 0) := by
  intro puts handler service first second acts own
  have apart : ({ service } : Server Unit).Apart acts := ⟨rfl, rfl, rfl, rfl, True.intro⟩
  have hown : ({ service } : Server Unit).actsOf (.dispatched 0) acts = own := rfl
  obtain ⟨hsights, houtlet, -⟩ := served_alone service acts (.dispatched 0) apart
  rw [hown] at hsights houtlet
  exact ⟨apart, hown, hsights, houtlet⟩

end Server

end RouteChain
