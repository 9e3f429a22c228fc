import Polystore.Cli.Arguments
import Polystore.Hub
import Polystore.Native.Log
import Polystore.Schema.Report
import Polystore.Sql.Layout

/-!
# One command

The program runs one command: it opens a connection, asks for what is to be done, shows the answer
and closes the connection in any case.

* `Cli.Arguments.descriptor`: what to connect to;
* `Cli.answer`, `Cli.askEngine`, `Cli.perform`: the dialogue of the program;
* `Cli.printed`: an answer as it is shown;
* `Cli.Outcome`, `Cli.run`: the whole program, against any responder.
-/

namespace Polystore.Cli

/-- The identifier of the connection. -/
def connectionId : String := "cli"

namespace Arguments

variable (a : Arguments)

def descriptor : Descriptor :=
  ⟨connectionId, connectionId, a.kind, a.host, a.port, a.database, a.user, a.password, a.tls⟩

def dialect : Option Dialect := dialectOf (some a.kind)

def exportOptions : ExportOptions :=
  { ExportOptions.default with headers := a.headers, dialect := a.dialect.map Dialect.name }

/-- A table in the format that is asked for. -/
def shown (t : Table) : Except Failure String := t.exported a.output.name a.exportOptions

end Arguments

/-- A command whose result is shown as a text. -/
def showing {α : Type} (command : HubCommand α) (f : α → Except Failure String) :
    HubCommand String := fun h => do
  let (result, h) ← command h
  return (result.bind f, h)

def report (entries : List Value) : Except Failure String :=
  (reportJson entries).mapError (Failure.fault ∘ .json)

/-- The answer of an open connection. -/
def answer (a : Arguments) : Question → HubCommand String
  | .command => showing (Hub.query connectionId a.command) fun result => a.shown result.table
  | .schema =>
    showing (Hub.schema connectionId) fun entries => report (entries.map SchemaEntry.toValue)
  | .keys pattern =>
    showing (Hub.listKeys connectionId (some pattern)) fun keys =>
      report (keys.map KeyInfo.toValue)
  | .value key => showing (Hub.readKey connectionId key) a.shown

/-- The answer of an engine: connect, ask and close. -/
def askEngine (a : Arguments) (q : Question) (hub : Hub) : Dialogue (Except Failure String) := do
  match ← hub.connect a.descriptor with
  | (.error f, _) => return .error f
  | (.ok (), hub) =>
    let (result, hub) ← answer a q hub
    let _ ← hub.closeAll
    return result

/-- The dialogue of the program. Only formatting needs no connection. -/
def perform (a : Arguments) (settings : Settings) : Dialogue (Except Failure String) :=
  match a.mode with
  | .format => return (Sql.format a.dialect a.command).mapError .core
  | .ask q =>
    match Hub.start settings none with
    | .ok hub => askEngine a q hub
    | .error f => return .error (.fault f)

/-! ## The program -/

/-- An answer as it is shown: one line feed at the end, and nothing at all for no text. -/
def printed (text : String) : String :=
  if text.isEmpty then ""
  else String.ofList ((text.toList.reverse.dropWhile (· == '\n')).reverse ++ ['\n'])

/-- What the program leaves: its status, its output and its messages. -/
structure Outcome where
  status : Nat
  output : String
  messages : List String
deriving DecidableEq, Repr

def succeeded : Nat := 0

def failed : Nat := 1

/-- The status of a refused command line. -/
def refused : Nat := 2

/-- The outcome of an answer, if it is no fault. -/
def Outcome.ofAnswer (notes : List String) : Except Failure String → Except Fault Outcome
  | .ok text => .ok ⟨succeeded, printed text, notes⟩
  | .error (.core e) => .ok ⟨failed, "", notes ++ ["error: " ++ e.message]⟩
  | .error (.fault f) => .error f

/-- The outcome of a command line that is not gone through to its end. -/
def Outcome.ofStop : Stop → Outcome
  | .help => ⟨succeeded, help, []⟩
  | .refused e => ⟨refused, "", [usage, "dbdeck: error: " ++ e.message]⟩

/-- The program, against a responder. A fault ends it without an outcome. -/
def run {σ : Type} (responder : Responder σ) (state : σ) (source : SettingsSource)
    (given : List String) : Run σ (Except Fault Outcome) :=
  match Arguments.read given with
  | .error stop => ⟨.ok (.ofStop stop), state, []⟩
  | .ok a =>
    let prepared := do
      let settings ← Settings.load source
      return (settings, ← threshold settings.logLevel)
    match prepared with
    | .error f => ⟨.error f, state, []⟩
    | .ok (settings, least) =>
      let done := (perform a settings).run responder state
      { done with result := Outcome.ofAnswer (shownNotes least done.trace) done.result }

end Polystore.Cli
