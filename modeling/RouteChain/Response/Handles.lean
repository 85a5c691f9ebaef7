import RouteChain.Response.Recorder

/-!
# Handles on recorders

Several handles may share one recorder: a copy of a handle writes to the same response. A snapshot
keeps what a recorder held at some time.

## Main definitions

* `Handles` — handles on recorders, by number, and snapshots.
* `Handles.fresh`, `Handles.copy` — a handle on a new recorder, and on one that is there.
* `Handles.call`, `Handles.recorder?` — writing through a handle, and looking through it.
* `Handles.save`, `Handles.isSaved?` — taking a snapshot, and comparing with one.
-/

namespace RouteChain

/-- Handles on recorders. The handle `i` is on the recorder number `owners[i]`. -/
structure Handles where
  recorders : List Recorder := []
  owners : List Nat := []
  snapshots : List Recorder := []
  deriving Repr, DecidableEq

namespace Handles

/-- Adds a handle on a new recorder, and tells its number. -/
def fresh (handles : Handles) : Nat × Handles :=
  (handles.owners.length,
    { handles with
      recorders := handles.recorders ++ [{}]
      owners := handles.owners ++ [handles.recorders.length] })

/-- Adds a handle on the recorder of another one, and tells its number. -/
def copy (handles : Handles) (handle : Nat) : Option (Nat × Handles) :=
  handles.owners[handle]?.map (fun owner =>
    (handles.owners.length, { handles with owners := handles.owners ++ [owner] }))

def recorder? (handles : Handles) (handle : Nat) : Option Recorder :=
  handles.owners[handle]?.bind (fun owner => handles.recorders[owner]?)

def call (handles : Handles) (handle : Nat) (call : WriterCall) : Option (Reply × Handles) := do
  let owner ← handles.owners[handle]?
  let recorder ← handles.recorders[owner]?
  let (reply, recorder) := call.apply recorder
  return (reply, { handles with recorders := handles.recorders.set owner recorder })

/-- Keeps a snapshot of the recorder of a handle, and tells its number. -/
def save (handles : Handles) (handle : Nat) : Option (Nat × Handles) :=
  (handles.recorder? handle).map (fun recorder =>
    (handles.snapshots.length, { handles with snapshots := handles.snapshots ++ [recorder] }))

/-- Does the recorder of a handle hold the same as a snapshot? -/
def isSaved? (handles : Handles) (handle snapshot : Nat) : Option Bool := do
  let recorder ← handles.recorder? handle
  let saved ← handles.snapshots[snapshot]?
  return recorder = saved

end Handles

end RouteChain
