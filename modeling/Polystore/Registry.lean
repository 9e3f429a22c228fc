import Polystore.OrderedMap

/-!
# The registry of live connections

The registry maps identifiers to live connections. Work on one connection is serialized: each
connection sits in a *slot* with a lock of its own. A task that uses a connection holds its slot for
the length of a block. Replacing or removing a connection takes its slot off the map at once; the
task that did so then queues for the slot like everybody else, empties it and closes the connection.
So whoever waited before is served first, and whoever comes later finds the new slot. The map has a
lock too, which every task takes for the moment in which it reads or changes the map.

A lock is a queue of tasks: the first one has the lock, the others wait for it in that order. Who
gives a lock up leaves the queue, and the next one is handed the lock.

The registry is a machine: tasks are started, blocks are left, calls of `close` come back, and tasks
that were handed a lock go on when it is their turn. Each input is answered by a list of events.

* `SlotKey`, `Slot`, `Place`, `Operation`, `Errand`, `Stage`, `Registry`;
* `Input`, `Event`;
* `Registry.step`: one input, and its special cases `start`, `leave`, `closed`, `resume`, `cancel`;
* `Registry.run`: inputs one after another;
* `Registry.ready?`, `Registry.isIdle`: whether a task can go on by itself;
* `Registry.ids`, `Registry.contains`, `Registry.size`: the map as callers see it.
-/

namespace Polystore

/-- The name of a slot: an identifier, and how many slots it had before. -/
structure SlotKey where
  id : String
  generation : Nat
deriving DecidableEq, Repr

/-- A connection, the task that holds it, and behind that task those that wait. A slot loses its
connection when it is emptied. -/
structure Slot (τ κ : Type) where
  connection : Option κ
  queue : List τ
deriving Repr

/-- What has a lock: the map of identifiers, and each slot. -/
inductive Place
  | map
  | slot (key : SlotKey)
deriving DecidableEq, Repr

/-- What a task is started for. -/
inductive Operation (κ : Type)
  | access (id : String)
  | replace (id : String) (connection : κ)
  | remove (id : String)
  | closeAll
deriving DecidableEq, Repr

/-- What a task needs a lock for: to look at the map, to use a connection under an identifier, or to
close it and to retire further slots behind. -/
inductive Errand (κ : Type)
  | operate (operation : Operation κ)
  | use (slot : SlotKey) (id : String)
  | retire (slot : SlotKey) (rest : List SlotKey)
deriving DecidableEq, Repr

/-- Where an unfinished task stands. A task that runs and holds no lock stands nowhere. -/
inductive Stage (κ : Type)
  /-- It waits for a lock. -/
  | waiting (errand : Errand κ)
  /-- It has the lock and did not go on yet. -/
  | granted (errand : Errand κ)
  /-- It found an empty slot and looks its identifier up again. -/
  | retrying (id : String)
  /-- In a block that uses the connection of a slot. -/
  | inside (slot : SlotKey) (connection : κ)
  /-- In the call that closes a connection; further slots are to be retired. -/
  | closing (connection : κ) (rest : List SlotKey)
deriving DecidableEq, Repr

/-- The map of identifiers and its queue, all slots there ever were, and the unfinished tasks. -/
structure Registry (τ κ : Type) where
  live : OrderedMap String Nat
  queue : List τ
  slots : OrderedMap SlotKey (Slot τ κ)
  tasks : OrderedMap τ (Stage κ)
deriving Repr

/-- What happens to the registry. -/
inductive Input (τ κ : Type)
  | start (task : τ) (operation : Operation κ)
  /-- A task leaves its block, in the regular way or by an exception. -/
  | leave (task : τ) (raised : Bool)
  /-- The call of `close` that a task waits for returns or raises an exception. -/
  | closed (task : τ) (raised : Bool)
  /-- A task that was handed a lock goes on. -/
  | resume (task : τ)
  | cancel (task : τ)
deriving DecidableEq, Repr

/-- What can be seen of the registry. -/
inductive Event (τ κ : Type)
  | started (task : τ) (operation : Operation κ)
  /-- A task finds nothing to use, which ends it. -/
  | refused (task : τ) (id : String)
  | entered (task : τ) (id : String) (connection : κ)
  | left (task : τ) (connection : κ) (raised : Bool)
  | closing (task : τ) (connection : κ)
  | closed (task : τ) (connection : κ) (raised : Bool)
  /-- A task ends, in the regular way or by an exception. -/
  | finished (task : τ) (raised : Bool)
  | cancelled (task : τ)
deriving DecidableEq, Repr

def Errand.place {κ : Type} : Errand κ → Place
  | .operate _ => .map
  | .use key _ => .slot key
  | .retire key _ => .slot key

/-- A task that waits is handed its lock. -/
def Stage.grant {κ : Type} : Stage κ → Stage κ
  | .waiting errand => .granted errand
  | stage => stage

namespace Registry

variable {τ κ : Type} [DecidableEq τ]

/-- The registry without connections. -/
def empty : Registry τ κ := ⟨[], [], [], []⟩

/-- The identifiers, in the order of registration. -/
def ids (r : Registry τ κ) : List String := OrderedMap.keys r.live

/-- Whether an identifier is registered. -/
def contains (r : Registry τ κ) (id : String) : Bool := OrderedMap.contains r.live id

/-- The number of registered identifiers. -/
def size (r : Registry τ κ) : Nat := r.live.length

/-- The name of the slot of a registered identifier. -/
def liveKey? (r : Registry τ κ) (id : String) : Option SlotKey :=
  (OrderedMap.get? r.live id).map (⟨id, ·⟩)

/-- The slots on the map, in the order of registration. -/
def liveKeys (r : Registry τ κ) : List SlotKey := r.live.map fun entry => ⟨entry.1, entry.2⟩

def held? (r : Registry τ κ) (key : SlotKey) : Option κ :=
  (OrderedMap.get? r.slots key).bind Slot.connection

/-- The connection of a registered identifier. -/
def connection? (r : Registry τ κ) (id : String) : Option κ := (r.liveKey? id).bind r.held?

/-- The name of the next slot of an identifier. -/
def nextKey (r : Registry τ κ) (id : String) : SlotKey :=
  ⟨id, (r.slots.filter fun entry => entry.1.id = id).length⟩

def stage? (r : Registry τ κ) (t : τ) : Option (Stage κ) := OrderedMap.get? r.tasks t

/-- The tasks that have a lock or wait for it. -/
def queueAt (r : Registry τ κ) : Place → List τ
  | .map => r.queue
  | .slot key => ((OrderedMap.get? r.slots key).map Slot.queue).getD []

/-! ## Small changes -/

def setStage (r : Registry τ κ) (t : τ) (stage : Stage κ) : Registry τ κ :=
  { r with tasks := OrderedMap.insert r.tasks t stage }

def dropTask (r : Registry τ κ) (t : τ) : Registry τ κ :=
  { r with tasks := OrderedMap.erase r.tasks t }

def modifySlot (r : Registry τ κ) (key : SlotKey) (f : Slot τ κ → Slot τ κ) : Registry τ κ :=
  { r with slots := OrderedMap.modify r.slots key f }

def modifyQueue (r : Registry τ κ) (p : Place) (f : List τ → List τ) : Registry τ κ :=
  match p with
  | .map => { r with queue := f r.queue }
  | .slot key => r.modifySlot key fun slot => { slot with queue := f slot.queue }

/-- Take the connection out of a slot. -/
def drain (r : Registry τ κ) (key : SlotKey) : Registry τ κ :=
  r.modifySlot key fun slot => { slot with connection := none }

/-- Put a connection into a new slot and the slot on the map. -/
def register (r : Registry τ κ) (id : String) (c : κ) : Registry τ κ :=
  { r with
    live := OrderedMap.insert r.live id (r.nextKey id).generation
    slots := r.slots ++ [(r.nextKey id, ⟨some c, []⟩)] }

def unregister (r : Registry τ κ) (id : String) : Registry τ κ :=
  { r with live := OrderedMap.erase r.live id }

/-- Take all identifiers off the map. -/
def unregisterAll (r : Registry τ κ) : Registry τ κ := { r with live := [] }

/-! ## Locks -/

def isTaken (r : Registry τ κ) (p : Place) : Bool := !(r.queueAt p).isEmpty

/-- Ask for the lock of an errand: a free one is had at once. -/
def lineUp (r : Registry τ κ) (t : τ) (errand : Errand κ) : Registry τ κ :=
  (r.modifyQueue errand.place (· ++ [t])).setStage t
    (if r.isTaken errand.place then .waiting errand else .granted errand)

/-- A task is handed the lock that it waits for. -/
def grant (r : Registry τ κ) (t : τ) : Registry τ κ :=
  match r.stage? t with
  | some stage => r.setStage t stage.grant
  | none => r

/-- The first task in a queue gives the lock up, and the second one is handed it. -/
def release (r : Registry τ κ) (p : Place) : Registry τ κ :=
  match (r.queueAt p)[1]? with
  | some next => (r.modifyQueue p List.tail).grant next
  | none => r.modifyQueue p List.tail

/-- A task gives its lock up and stands nowhere. -/
def quit (r : Registry τ κ) (t : τ) (p : Place) : Registry τ κ := (r.release p).dropTask t

/-! ## Accesses -/

def refuse (r : Registry τ κ) (t : τ) (id : String) : Registry τ κ × Option (Event τ κ) :=
  (r, some (.refused t id))

/-- With the slot in hand, begin the block; or, if the slot is empty, give it up and look again. -/
def enter (r : Registry τ κ) (t : τ) (key : SlotKey) (id : String) :
    Registry τ κ × Option (Event τ κ) :=
  match r.held? key with
  | some c => (r.setStage t (.inside key c), some (.entered t id c))
  | none => ((r.quit t (.slot key)).setStage t (.retrying id), none)

/-- Take a slot that was looked up, or wait for it. -/
def use (r : Registry τ κ) (t : τ) (key : SlotKey) (id : String) :
    Registry τ κ × Option (Event τ κ) :=
  let next := r.lineUp t (.use key id)
  if r.isTaken (.slot key) then (next, none) else next.enter t key id

/-! ## Retiring -/

def finish (r : Registry τ κ) (t : τ) (raised : Bool) : Registry τ κ × Option (Event τ κ) :=
  (r, some (.finished t raised))

/-- With the slot in hand, take the connection out and give the slot up. -/
def vacate (r : Registry τ κ) (t : τ) (key : SlotKey) : Registry τ κ × Option κ :=
  ((r.drain key).quit t (.slot key), r.held? key)

def close (r : Registry τ κ) (t : τ) (c : κ) (rest : List SlotKey) :
    Registry τ κ × Option (Event τ κ) :=
  (r.setStage t (.closing c rest), some (.closing t c))

/-- Retire slots one after another: wait for a slot, empty it, and call `close` on what it held. -/
def retire (r : Registry τ κ) (t : τ) : List SlotKey → Registry τ κ × Option (Event τ κ)
  | [] => r.finish t false
  | key :: rest =>
    let next := r.lineUp t (.retire key rest)
    if r.isTaken (.slot key) then (next, none)
    else
      match next.vacate t key with
      | (next, some c) => next.close t c rest
      | (next, none) => next.retire t rest

/-- Go on with a slot that was handed over for retiring. -/
def retireHeld (r : Registry τ κ) (t : τ) (key : SlotKey) (rest : List SlotKey) :
    Registry τ κ × Option (Event τ κ) :=
  match r.vacate t key with
  | (next, some c) => next.close t c rest
  | (next, none) => next.retire t rest

/-! ## Operations -/

/-- With the map in hand, read or change it and give it up; then go on with the slots found. -/
def operate (r : Registry τ κ) (t : τ) : Operation κ → Registry τ κ × Option (Event τ κ)
  | .access id =>
    match r.liveKey? id with
    | some key => (r.quit t .map).use t key id
    | none => (r.quit t .map).refuse t id
  | .replace id c => ((r.register id c).quit t .map).retire t (r.liveKey? id).toList
  | .remove id => ((r.unregister id).quit t .map).retire t (r.liveKey? id).toList
  | .closeAll => (r.unregisterAll.quit t .map).retire t r.liveKeys

/-- Take the map for an operation, or wait for it. -/
def seek (r : Registry τ κ) (t : τ) (operation : Operation κ) :
    Registry τ κ × Option (Event τ κ) :=
  let next := r.lineUp t (.operate operation)
  if r.isTaken .map then (next, none) else next.operate t operation

/-! ## Inputs -/

/-- Start a task. The name of an unfinished task cannot be used again. -/
def start (r : Registry τ κ) (t : τ) (operation : Operation κ) :
    Registry τ κ × Option (Event τ κ) :=
  match r.stage? t with
  | none => r.seek t operation
  | some _ => (r, none)

/-- A task leaves its block; an exception of the block ends the task. -/
def leave (r : Registry τ κ) (t : τ) (raised : Bool) : Registry τ κ × Option (Event τ κ) :=
  match r.stage? t with
  | some (.inside key _) => (r.quit t (.slot key)).finish t raised
  | _ => (r, none)

/-- A call of `close` comes back. An exception of the call is noted elsewhere and goes no further. -/
def closed (r : Registry τ κ) (t : τ) : Registry τ κ × Option (Event τ κ) :=
  match r.stage? t with
  | some (.closing _ rest) => (r.dropTask t).retire t rest
  | _ => (r, none)

/-- A task that was handed a lock goes on. -/
def resume (r : Registry τ κ) (t : τ) : Registry τ κ × Option (Event τ κ) :=
  match r.stage? t with
  | some (.granted (.operate operation)) => r.operate t operation
  | some (.granted (.use key id)) => r.enter t key id
  | some (.granted (.retire key rest)) => r.retireHeld t key rest
  | some (.retrying id) => (r.dropTask t).seek t (.access id)
  | _ => (r, none)

/-- A task is cancelled: it leaves its queue or its block, or it waits for `close` no longer. -/
def cancel (r : Registry τ κ) (t : τ) : Registry τ κ × Option (Event τ κ) :=
  match r.stage? t with
  | some (.waiting errand) =>
    ((r.modifyQueue errand.place (·.filter (· ≠ t))).dropTask t, some (.cancelled t))
  | some (.granted errand) => (r.quit t errand.place, some (.cancelled t))
  | some (.inside key _) => (r.quit t (.slot key), some (.cancelled t))
  | some (.retrying _) | some (.closing ..) => (r.dropTask t, some (.cancelled t))
  | none => (r, none)

def answer (r : Registry τ κ) : Input τ κ → Registry τ κ × Option (Event τ κ)
  | .start t operation => r.start t operation
  | .leave t raised => r.leave t raised
  | .closed t _ => r.closed t
  | .resume t => r.resume t
  | .cancel t => r.cancel t

/-- What an input that takes effect shows by itself. -/
def notice (r : Registry τ κ) : Input τ κ → Option (Event τ κ)
  | .start t operation => if (r.stage? t).isNone then some (.started t operation) else none
  | .leave t raised =>
    match r.stage? t with
    | some (.inside _ c) => some (.left t c raised)
    | _ => none
  | .closed t raised =>
    match r.stage? t with
    | some (.closing c _) => some (.closed t c raised)
    | _ => none
  | .resume _ | .cancel _ => none

def step (r : Registry τ κ) (input : Input τ κ) : Registry τ κ × List (Event τ κ) :=
  ((r.answer input).1, (r.notice input).toList ++ (r.answer input).2.toList)

def run (r : Registry τ κ) : List (Input τ κ) → Registry τ κ × List (Event τ κ)
  | [] => (r, [])
  | input :: inputs =>
    (((r.step input).1.run inputs).1, (r.step input).2 ++ ((r.step input).1.run inputs).2)

def ready? (r : Registry τ κ) : Option τ :=
  r.tasks.findSome? fun entry =>
    if entry.2 matches .granted .. | .retrying .. then some entry.1 else none

/-- Whether no task can go on by itself. -/
def isIdle (r : Registry τ κ) : Bool := r.ready?.isNone

end Registry

end Polystore
