import Polystore.Registry

/-!
# Rehearsals

A rehearsal drives a registry of stand-in connections by a script. After each step of the script the
tasks go on until all of them wait for something outside. A stand-in closes at once, fails to close,
or waits until it is released.

* `ClosingManner`, `StandIn`;
* `ScriptStep`, `Mark`: what a script does, and what can be seen;
* `Rehearsal`, `Rehearsal.perform`.
-/

namespace Polystore

/-- How a stand-in closes. -/
inductive ClosingManner
  | atOnce
  | failing
  | held
deriving DecidableEq, Repr

/-- A stand-in for a connection. -/
structure StandIn where
  name : String
  closing : ClosingManner
deriving DecidableEq, Repr

/-- A step of a script. -/
inductive ScriptStep
  | start (tag : String) (operation : Operation StandIn)
  /-- Let a task leave its block, or a stand-in close. -/
  | release (name : String)
  | cancel (tag : String)
deriving Repr

/-- What can be seen of a registry. -/
inductive Mark
  | entered (tag connection : String)
  | refused (tag : String)
  | closing (connection : String)
  | closed (connection : String)
  | finished (tag : String)
  | cancelled (tag : String)
deriving DecidableEq, Repr

/-- A registry of stand-ins and what was seen. -/
structure Rehearsal where
  registry : Registry String StandIn
  seen : List Mark
deriving Repr

namespace Rehearsal

def mark? : Event String StandIn → Option Mark
  | .started .. | .left .. | .closed _ _ true => none
  | .entered t _ c => some (.entered t c.name)
  | .refused t _ => some (.refused t)
  | .closing _ c => some (.closing c.name)
  | .closed _ c false => some (.closed c.name)
  | .finished t _ => some (.finished t)
  | .cancelled t => some (.cancelled t)

/-- Feed an input to the registry, and let stand-ins close. The fuel bounds how many of them do. -/
def feed (fuel : Nat) (r : Rehearsal) (input : Input String StandIn) : Rehearsal :=
  let (registry, events) := r.registry.step input
  let r : Rehearsal := ⟨registry, r.seen ++ events.filterMap mark?⟩
  match fuel, events.getLast? with
  | fuel + 1, some (.closing t c) =>
    match c.closing with
    | .atOnce => feed fuel r (.closed t false)
    | .failing => feed fuel r (.closed t true)
    | .held => r
  | _, _ => r

def settle : (fuel : Nat) → Rehearsal → Rehearsal
  | 0, r => r
  | fuel + 1, r =>
    match r.registry.ready? with
    | some t => settle fuel (feed r.registry.slots.length r (.resume t))
    | none => r

/-- The task that waits for a stand-in to close. -/
def closer? (r : Rehearsal) (name : String) : Option String :=
  r.registry.tasks.findSome? fun (t, stage) =>
    match stage with
    | .closing c _ => if c.name = name then some t else none
    | _ => none

def input? (r : Rehearsal) : ScriptStep → Option (Input String StandIn)
  | .start tag operation => some (.start tag operation)
  | .cancel tag => some (.cancel tag)
  | .release name =>
    match OrderedMap.get? r.registry.tasks name, r.closer? name with
    | some (.inside ..), _ => some (.leave name false)
    | _, some t => some (.closed t false)
    | _, none => none

/-- Perform a step of a script; only what it shows is seen afterwards. -/
def perform (r : Rehearsal) (s : ScriptStep) : Rehearsal :=
  let r := { r with seen := [] }
  match r.input? s with
  | none => r
  | some input =>
    let r := feed (r.registry.slots.length + 1) r input
    settle (r.registry.tasks.length + 1) r

def start : Rehearsal := ⟨.empty, []⟩

end Rehearsal

end Polystore
