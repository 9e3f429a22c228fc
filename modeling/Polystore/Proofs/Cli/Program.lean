import Polystore.Cli.Program
import Polystore.Proofs.Hub.Clients

/-!
# Running one command

The program closes the connection that it opens, once and as the last thing that it asks a client
for, whatever becomes of the command. Its status tells how the command ended.

* `Cli.attempt`: the command by itself, which closes nothing; `Cli.ending`: how it ends;
* **`Cli.ensures_answer`**, **`Cli.releases_askEngine`**: what is called behind an open connection;
* `Cli.Accounted`, **`Cli.run_accounted`**: what a run of the program leaves behind.
-/

namespace Polystore.Cli

variable {σ α : Type} {hub : Hub} {m : OrderedMap String Nat}

/-! ## The command by itself -/

/-- Connect and ask; nothing is closed. -/
def attempt (a : Arguments) (q : Question) (hub : Hub) : Dialogue (Except Failure String) := do
  match ← hub.connect a.descriptor with
  | (.error f, _) => return .error f
  | (.ok (), hub) => return (← answer a q hub).1

/-- The hub of the program, and the least severity of what it shows. -/
def prepared (source : SettingsSource) : Except Fault (Nat × Hub) := do
  let settings ← Settings.load source
  let least ← threshold settings.logLevel
  let hub ← Hub.start settings none
  return (least, hub)

theorem exists_of_prepared {source : SettingsSource} {least : Nat} {hub : Hub}
    (h : prepared source = .ok (least, hub)) : ∃ settings, Settings.load source = .ok settings ∧
      threshold settings.logLevel = .ok least ∧ Hub.start settings none = .ok hub := by
  cases hload : Settings.load source with
  | error f => simp [prepared, hload, bind, Except.bind] at h
  | ok settings =>
    cases hleast : threshold settings.logLevel with
    | error f => simp [prepared, hload, hleast, bind, Except.bind] at h
    | ok least' =>
      cases hstart : Hub.start settings none with
      | error f => simp [prepared, hload, hleast, hstart, bind, Except.bind] at h
      | ok hub' =>
        simp only [prepared, hload, hleast, hstart, bind, Except.bind, pure, Except.pure,
          Except.ok.injEq, Prod.mk.injEq] at h
        obtain ⟨rfl, rfl⟩ := h
        exact ⟨settings, rfl, hleast, hstart⟩

/-- How a command ends that nobody cleans up behind: with a text, or with what is raised. -/
def ending (responder : Responder σ) (state : σ) (source : SettingsSource) (a : Arguments)
    (q : Question) : Except Failure String :=
  match prepared source with
  | .error f => .error (.fault f)
  | .ok (_, hub) => ((attempt a q hub).run responder state).result

/-- Closing the connection changes nothing about how a command ends. -/
theorem result_askEngine (responder : Responder σ) (state : σ) (a : Arguments) (q : Question)
    (hub : Hub) : ((askEngine a q hub).run responder state).result =
      ((attempt a q hub).run responder state).result := by
  simp only [askEngine, attempt, Dialogue.run_bind]
  generalize (Hub.connect a.descriptor hub).run responder state = connecting
  obtain ⟨⟨result, hub'⟩, state', trace⟩ := connecting
  cases result with
  | error f => rfl
  | ok x => simp only [Dialogue.run_bind]; rfl

/-! ## Calls -/

/-- What a command calls does not depend on how its result is shown. -/
theorem ensures_showing {command : HubCommand α} {f : α → Except Failure String}
    (h : (command hub).Ensures fun trace (result, h') =>
      (Live m h'.registry ∧ h'.nextClient = hub.nextClient) ∧
        Attends (OrderedMap.get? m connectionId) trace result) :
    (showing command f hub).Ensures fun trace r =>
      Live m r.2.registry ∧ closedClients trace = [] := by
  refine Dialogue.ensures_bind.mpr (h.mono fun trace r ⟨hlive, hattends⟩ => ⟨hlive.1, ?_⟩)
  simpa using hattends.closedClients_eq_nil

/-- **An answer leaves the connection open.** -/
theorem ensures_answer (hm : Live m hub.registry) (a : Arguments) (q : Question) :
    (answer a q hub).Ensures fun trace r => Live m r.2.registry ∧ closedClients trace = [] := by
  cases q with
  | command => exact ensures_showing (Hub.ensures_query hm connectionId a.command)
  | schema =>
    exact ensures_showing (Hub.ensures_withConnection hm connectionId fun c => c.talks_schema)
  | keys pattern =>
    exact ensures_showing (Hub.ensures_withConnection hm connectionId fun c =>
      Hub.talks_keyValue c _ fun c => c.talks_keys)
  | value key =>
    exact ensures_showing (Hub.ensures_withConnection hm connectionId fun c =>
      Hub.talks_keyValue c _ fun c => c.talks_value)

/-- A trace in which a client is opened, and closed once, by the last call. -/
structure Releases (n : Nat) (trace : List Happening) : Prop where
  opened : n ∈ openedClients trace
  once : closedClients trace = [n]
  last : ∃ call, (calls trace).getLast? = some call ∧ call.client = n ∧
    call.request.isClosing = true

theorem releases_append {n : Nat} {opening asking closing : List Happening}
    (hopened : openedClients opening = [n]) (hkept : closedClients opening = [])
    (hasked : closedClients asking = []) (hcloses : Closes [n] closing) :
    Releases n (opening ++ (asking ++ closing)) := by
  obtain ⟨call, hcall⟩ : ∃ call, calls closing = [call] :=
    List.length_eq_one_iff.mp (by rw [← List.length_map (f := Call.client), hcloses.clients]; rfl)
  have hclient := hcloses.clients
  rw [hcall, List.map_singleton, List.singleton_inj] at hclient
  constructor
  case opened => simp [hopened]
  case once => simp [hkept, hasked, hcloses.closedClients_eq]
  case last =>
    refine ⟨call, ?_, hclient, hcloses.closing call (by simp [hcall])⟩
    simp [hcall]

/-- **A connection that is opened is closed**, once and last. -/
theorem releases_askEngine (hm : Live [] hub.registry) (responder : Responder σ) (state : σ)
    (a : Arguments) (q : Question)
    (hok : ((hub.connect a.descriptor).run responder state).result.1.isOk = true) :
    Releases hub.nextClient ((askEngine a q hub).run responder state).trace := by
  have hconnect := (Hub.ensures_connect hm a.descriptor).run responder state
  simp only [askEngine, Dialogue.run_bind]
  revert hok hconnect
  obtain ⟨⟨result, connected⟩, state', opening⟩ := (hub.connect a.descriptor).run responder state
  cases result with
  | error f => nofun
  | ok x =>
    rintro - ⟨-, ⟨⟨⟩, -⟩ | ⟨-, hlive, hopened, hclosed, -⟩⟩
    have hanswer := (ensures_answer hlive a q).run responder state'
    simp only [Dialogue.run_bind]
    revert hanswer
    obtain ⟨⟨result, answered⟩, state'', asking⟩ := (answer a q connected).run responder state'
    rintro ⟨hlive', hasked⟩
    have hcloses := (Hub.ensures_closeAll hlive').run responder state''
    revert hcloses
    obtain ⟨⟨result', closed⟩, state''', closing⟩ := answered.closeAll.run responder state''
    rintro ⟨-, -, -, hcloses⟩
    have hall := releases_append hopened hclosed hasked hcloses
    rwa [← List.append_nil closing] at hall

/-! ## The program -/

/-- What a run of the program leaves behind, if its command ends in some way and the connection was
opened or not. -/
structure Accounted (ending : Except Failure String) (connected : Prop)
    (run : Run σ (Except Fault Outcome)) : Prop where
  released : connected → Releases 0 run.trace
  /-- The program fails, and shows nothing, just if a core error was raised. -/
  failed : (∃ o, run.result = .ok o ∧ o.status = 1 ∧ o.output = "") ↔
    ∃ e, ending = .error (.core e)
  /-- It is told as the last message. -/
  told : ∀ e, ending = .error (.core e) →
    ∃ notes, run.result = .ok ⟨1, "", notes ++ ["error: " ++ e.message]⟩
  /-- The program succeeds just if nothing was raised. -/
  succeeded : (∃ o, run.result = .ok o ∧ o.status = 0) ↔ ∃ text, ending = .ok text
  shown : ∀ text, ending = .ok text → ∃ notes, run.result = .ok ⟨0, printed text, notes⟩
  /-- Whatever else was raised ends the program. -/
  escaped : ∀ f, run.result = .error f ↔ ending = .error (.fault f)

/-- The status and the messages of the program, from how its command ends. -/
theorem accounted_of_result {ending : Except Failure String} {connected : Prop}
    {run : Run σ (Except Fault Outcome)} (notes : List String)
    (hresult : run.result = Outcome.ofAnswer notes ending)
    (hreleased : connected → Releases 0 run.trace) : Accounted ending connected run := by
  cases ending with
  | ok text =>
    refine ⟨hreleased, ?_, ?_, ?_, ?_, ?_⟩ <;> simp [hresult, Outcome.ofAnswer, succeeded]
  | error f =>
    cases f with
    | core e =>
      refine ⟨hreleased, ?_, ?_, ?_, ?_, ?_⟩ <;> simp [hresult, Outcome.ofAnswer, failed]
    | fault f => refine ⟨hreleased, ?_, ?_, ?_, ?_, ?_⟩ <;> simp [hresult, Outcome.ofAnswer]

section Run

variable {given : List String} {a : Arguments} {q : Question}
  (hread : Arguments.read given = .ok a) (hmode : a.mode = .ask q) (responder : Responder σ)
  (state : σ) {source : SettingsSource}

include hread hmode

/-- Nothing is called if there is no hub. -/
theorem run_of_prepared_error {f : Fault} (hprepared : prepared source = .error f) :
    (run responder state source given).result = .error f := by
  cases hload : Settings.load source with
  | error f' =>
    simp only [prepared, hload, bind, Except.bind, Except.error.injEq] at hprepared
    simp only [run, hread, hload, bind, Except.bind, hprepared]
  | ok settings =>
    cases hleast : threshold settings.logLevel with
    | error f' =>
      simp only [prepared, hload, hleast, bind, Except.bind, Except.error.injEq] at hprepared
      simp only [run, hread, hload, hleast, bind, Except.bind, hprepared]
    | ok least =>
      cases hstart : Hub.start settings none with
      | error f' =>
        simp only [prepared, hload, hleast, hstart, bind, Except.bind, Except.error.injEq]
          at hprepared
        simp only [run, hread, hload, hleast, bind, Except.bind, pure, Except.pure, perform, hmode,
          hstart, hprepared]
        rfl
      | ok hub => simp [prepared, hload, hleast, hstart, bind, Except.bind, pure, Except.pure]
          at hprepared

/-- Otherwise the engine is asked. -/
theorem run_of_prepared {least : Nat} {hub : Hub} (hprepared : prepared source = .ok (least, hub)) :
    run responder state source given =
      let done := (askEngine a q hub).run responder state
      { done with result := Outcome.ofAnswer (shownNotes least done.trace) done.result } := by
  obtain ⟨settings, hload, hleast, hstart⟩ := exists_of_prepared hprepared
  simp only [run, hread, hload, hleast, bind, Except.bind, pure, Except.pure, perform, hmode,
    hstart]

/-- **The program closes its connection and reports every core error**, whatever the clients reply
and whatever is asked for. -/
theorem run_accounted (source : SettingsSource) :
    Accounted (ending responder state source a q)
      (∃ least hub, prepared source = .ok (least, hub) ∧
        ((hub.connect a.descriptor).run responder state).result.1.isOk = true)
      (run responder state source given) := by
  cases hprepared : prepared source with
  | error f =>
    refine accounted_of_result [] ?_ nofun
    rw [run_of_prepared_error hread hmode responder state hprepared, ending, hprepared]
    rfl
  | ok p =>
    obtain ⟨least, hub⟩ := p
    obtain ⟨settings, -, -, hstart⟩ := exists_of_prepared hprepared
    have hlive : Live [] hub.registry := (Hub.tracks_start hstart).live
    have hzero : hub.nextClient = 0 := (Hub.eq_of_start hstart).2
    rw [run_of_prepared hread hmode responder state hprepared]
    refine accounted_of_result
      (shownNotes least ((askEngine a q hub).run responder state).trace) ?_ ?_
    · rw [ending, hprepared]
      simp only [result_askEngine]
    · rintro ⟨least', hub', ⟨⟩, hok⟩
      have hreleases := releases_askEngine hlive responder state a q hok
      rwa [hzero] at hreleases

end Run

/-- A key-value client that is gone after its first probe, and cannot even be closed. -/
def goneAfterProbe : Responder Unit where
  reply state c :=
    match c with
    | ⟨_, .redis (.client _)⟩ => (.ok (), state)
    | ⟨_, .redis .ping⟩ => (.ok (.bool true), state)
    | _ => (.error ⟨.keyValueConnection, "gone"⟩, state)

/-- Its error is reported, and the client was called to close all the same. -/
theorem run_accounted_gone :
    let given := ["--type", "redis", "--get", "k"]
    let a : Arguments := ⟨"redis", "localhost", none, "", "", none, false, .csv, true,
      .ask (.value "k"), ""⟩
    Arguments.read given = .ok a ∧
      Accounted (ending goneAfterProbe () .missing a (.value "k"))
        (∃ least hub, prepared .missing = .ok (least, hub) ∧
          ((hub.connect a.descriptor).run goneAfterProbe ()).result.1.isOk = true)
        (run goneAfterProbe () .missing given) ∧
      (∃ least hub, prepared .missing = .ok (least, hub) ∧
        ((hub.connect a.descriptor).run goneAfterProbe ()).result.1.isOk = true) ∧
      (run goneAfterProbe () .missing given).result = .ok ⟨1, "",
        ["ERROR dbdeck.registry: Failed to close connection", "error: gone"]⟩ := by
  intro given a
  have hread : Arguments.read given = .ok a := rfl
  let hub : Hub := ⟨.default, .empty, .empty 500, 0⟩
  exact ⟨hread, run_accounted hread rfl goneAfterProbe () .missing,
    ⟨30, hub, rfl, by decide +kernel⟩, rfl⟩

end Polystore.Cli
