import Polystore.Backend
import Polystore.Native.Request

/-!
# Dialogues with native clients

A dialogue is a computation that makes calls to native clients and goes on with their replies. It
also leaves notes for the log. Nothing is said about where replies come from: a dialogue is run
against any *responder*, and a statement about all responders is a statement about all clients.

* `Note`: what is logged;
* `Dialogue`, with its monad, `Dialogue.call` and `Dialogue.log`;
* `Session`: dialogues that may fail, with `Session.ask`, `Session.onFailure`, `Session.atEnd`;
* `Responder`, `Dialogue.run`: running a dialogue, with a trace of what happens.
-/

namespace Polystore

/-- What is noted. -/
inductive Note
  | opened (family : Family)
  | replacing
  | closeFailed
  | connected
  | disconnected
  | commandFailed
  | commandExecuted
deriving DecidableEq, Repr

/-- A dialogue with the result of a type. -/
inductive Dialogue (α : Type) : Type
  | done (x : α)
  | ask (c : Call) (next : c.Reply → Dialogue α)
  | note (n : Note) (next : Dialogue α)

namespace Dialogue

variable {α β : Type}

/-- Go on with the result of a dialogue. -/
def bind : Dialogue α → (α → Dialogue β) → Dialogue β
  | done x, f => f x
  | ask c next, f => .ask c fun reply => (next reply).bind f
  | note n next, f => .note n (next.bind f)

instance : Monad Dialogue where
  pure := .done
  bind := .bind

def call (c : Call) : Dialogue c.Reply := .ask c .done

def log (n : Note) : Dialogue Unit := .note n (.done ())

end Dialogue

/-! ## Sessions -/

abbrev Session (α : Type) : Type := ExceptT Failure Dialogue α

namespace Session

variable {α β : Type}

def refuse (e : CoreError) : Session α := throw (.core e)

def fault (f : Fault) : Session α := throw (.fault f)

/-- The value of a computation that may fail with a core error. -/
def ofCore : Except CoreError α → Session α
  | .ok x => pure x
  | .error e => refuse e

/-- The value of a computation that may fail with a fault. -/
def ofFault : Except Fault α → Session α
  | .ok x => pure x
  | .error f => fault f

/-- The value of a computation that may fail in any way. -/
def ofResult : Except Failure α → Session α
  | .ok x => pure x
  | .error f => throw f

/-- Ask a client; an error that it raises is a fault. -/
def ask (client : Nat) (request : Request) : Session request.Answer :=
  ExceptT.mk do
    match ← Dialogue.call ⟨client, request⟩ with
    | .ok answer => return .ok answer
    | .error e => return .error (.fault (.native e))

def note (n : Note) : Session Unit := ExceptT.lift (Dialogue.log n)

/-- The outcome of a session, as a value. -/
def outcome (s : Session α) : Session (Except Failure α) := ExceptT.lift s.run

def mapFailure (f : Failure → Failure) (s : Session α) : Session α :=
  ExceptT.mk do return (← s.run).mapError f

/-- Do something before failing; if that fails, its failure counts. -/
def onFailure (s : Session α) (cleanup : Session Unit) : Session α := do
  match ← outcome s with
  | .ok x => pure x
  | .error f =>
    cleanup
    throw f

/-- Do something at the end in any case; if that fails, its failure counts. -/
def atEnd (s : Session α) (cleanup : Session Unit) : Session α := do
  let result ← outcome s
  cleanup
  match result with
  | .ok x => pure x
  | .error f => throw f

end Session

/-- Every failure as an error of the connection. -/
def asConnectError (f : Failure) : Failure := .core (.connect (.native f.message))

/-- Every failure as an error of the engine. -/
def asNativeError (f : Failure) : Failure := .core (.native f.message)

/-- Failures that one client raises as errors of the engine; other failures as they are. -/
def watching (isWatched : NativeKind → Bool) : Failure → Failure
  | .fault (.native e) => if isWatched e.kind then .core (.native e.text) else .fault (.native e)
  | f => f

/-! ## Running -/

/-- Whatever replies to calls. -/
structure Responder (σ : Type) where
  reply : σ → (c : Call) → c.Reply × σ

/-- What happens in a dialogue. -/
inductive Happening
  /-- A call, with the error that was raised if there was one. -/
  | called (c : Call) (failure : Option NativeError)
  | noted (n : Note)

/-- What a run of a dialogue gives: its result, the state of the responder and what happened. -/
structure Run (σ α : Type) where
  result : α
  state : σ
  trace : List Happening

namespace Dialogue

variable {α σ : Type}

/-- Run a dialogue against a responder. -/
def run (responder : Responder σ) (state : σ) : Dialogue α → Run σ α
  | done x => ⟨x, state, []⟩
  | ask c next =>
    let (reply, state) := responder.reply state c
    let failure := match reply with
      | .ok _ => none
      | .error e => some e
    let rest := run responder state (next reply)
    { rest with trace := .called c failure :: rest.trace }
  | note n next =>
    let rest := run responder state next
    { rest with trace := .noted n :: rest.trace }

end Dialogue

end Polystore
