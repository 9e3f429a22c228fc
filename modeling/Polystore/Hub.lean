import Polystore.Connection
import Polystore.Registry

/-!
# The hub

The hub is what a shell talks to. It keeps live connections by identifier and a history of the
commands that were executed. Its commands run one after another, each as one task of the registry.

* `Hub`, `Hub.start`;
* `Hub.withConnection`: a session with the connection of an identifier;
* `Hub.connect`, `Hub.disconnect`, `Hub.closeAll`: opening and closing;
* `Hub.query`: a command, which is kept in the history;
* `Hub.schema`, `Hub.define`, `Hub.readKey`, `Hub.listKeys`: what is not kept.
-/

namespace Polystore

/-- Settings, live connections and history; and the number of the next client. -/
structure Hub where
  settings : Settings
  registry : Registry Unit Connection
  history : History
  nextClient : Nat

/-- A command of the hub: a dialogue that changes the hub, also if it fails. -/
abbrev HubCommand (α : Type) : Type := Hub → Dialogue (Except Failure α × Hub)

namespace Hub

/-- The hub without connections. A history may be given; otherwise the settings say how large it
is. -/
def start (settings : Settings) (history : Option History) : Except Fault Hub :=
  match history with
  | some history => .ok ⟨settings, .empty, history, 0⟩
  | none => do
    let history ← (History.ofSize settings.historySize).mapError .capacity
    return ⟨settings, .empty, history, 0⟩

/-- The identifiers of live connections, in the order of registration. -/
def ids (h : Hub) : List String := h.registry.ids

/-! ## Tasks -/

/-- A session with the connection of an identifier. -/
def withConnection {α : Type} (id : String) (body : Connection → Session α) :
    HubCommand α := fun h =>
  match h.registry.start () (.access id) with
  | (registry, some (.entered _ _ c)) => do
    let result ← (body c).run
    return (result, { h with registry := (registry.leave () !result.isOk).1 })
  | (registry, _) => return (.error (.core .notConnected), { h with registry })

/-- Close a connection that was taken off. A failure is noted and goes no further. -/
def closeQuietly (c : Connection) : Dialogue Unit := do
  match ← c.close.run with
  | .ok () => return ()
  | .error _ => Dialogue.log .closeFailed

/-- Let the task of the registry go on until it is finished, closing what it asks to close. The
fuel bounds the number of connections. -/
def finish (fuel : Nat) (registry : Registry Unit Connection)
    (event : Option (Event Unit Connection)) : Dialogue (Registry Unit Connection) :=
  match fuel, event with
  | fuel + 1, some (.closing _ c) => do
    closeQuietly c
    let (registry, event) := registry.closed ()
    finish fuel registry event
  | _, _ => return registry

/-- Perform an operation on the registry. -/
def perform (registry : Registry Unit Connection) (operation : Operation Connection) :
    Dialogue (Registry Unit Connection) :=
  let (next, event) := registry.start () operation
  finish (registry.size + 1) next event

/-! ## Commands -/

/-- Open a connection and register it, in place of the one with the same identifier. -/
def connect (d : Descriptor) : HubCommand Unit := fun h => do
  let opened ← (Connection.connect h.nextClient d h.settings).run
  let h := { h with nextClient := h.nextClient + 1 }
  match opened with
  | .error f => return (.error f, h)
  | .ok c =>
    if h.registry.contains d.id then Dialogue.log .replacing
    let registry ← perform h.registry (.replace d.id c)
    Dialogue.log .connected
    return (.ok (), { h with registry })

/-- Take the connection of an identifier off and close it; without one, nothing happens. -/
def disconnect (id : String) : HubCommand Unit := fun h => do
  let registry ← perform h.registry (.remove id)
  Dialogue.log .disconnected
  return (.ok (), { h with registry })

def closeAll : HubCommand Unit := fun h => do
  let registry ← perform h.registry .closeAll
  return (.ok (), { h with registry })

/-- Keep a command in the history. Time is not measured. -/
def remember (h : Hub) (id text : String) (error : Option String) : Hub :=
  { h with history := h.history.record ⟨id, text, 0, error⟩ }

/-- Run a command. If it succeeds or fails with a core error, it is kept in the history. -/
def query (id text : String) : HubCommand QueryResult := fun h => do
  match ← withConnection id (·.execute text) h with
  | (.ok table, h) =>
    Dialogue.log .commandExecuted
    return (.ok (.ofTable table), h.remember id text none)
  | (.error (.core e), h) =>
    Dialogue.log .commandFailed
    return (.error (.core e), h.remember id text (some e.message))
  | (.error (.fault f), h) => return (.error (.fault f), h)

def schema (id : String) : HubCommand (List SchemaEntry) := withConnection id (·.schema)

def define (id text : String) : HubCommand Unit := withConnection id (·.executeDefinition text)

/-- The connection to a key-value store, or what else is not supported. -/
def keyValue (c : Connection) (what : Unsupported) : Session Redis :=
  match c.keyValue? with
  | some c => pure c
  | none => Session.refuse (.unsupported what)

def readKey (id key : String) : HubCommand Table :=
  withConnection id fun c => do (← keyValue c .keyRead).value key

/-- The keys that match a pattern; an empty pattern stands for the one of the settings. -/
def listKeys (id : String) (pattern : Option String) : HubCommand (List KeyInfo) := fun h =>
  let given := pattern.getD ""
  let pattern := if given.isEmpty then h.settings.keyPattern else given
  withConnection id (fun c => do (← keyValue c .keyListing).keys pattern) h

def forget (h : Hub) : Hub := { h with history := h.history.clear }

end Hub

end Polystore
