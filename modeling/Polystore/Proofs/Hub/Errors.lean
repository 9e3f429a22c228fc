import Polystore.Proofs.Engine.Errors
import Polystore.Proofs.Hub.Run

/-!
# Errors of commands

A query, a schema or a definition runs as a task with the connection of an identifier. What it is
told by the connection is what the caller of the hub is told, and what its clients exchange is what
they exchange with the connection.

* `Action.isCommand`: the commands whose errors are told;
* `Tells`: what the end of a command tells about the errors of clients;
* `Hub.tells_act`: every command tells;
* **`Hub.errors_told`**: which failures are outside the taxonomy, and what the others carry;
* **`Hub.system_error_escapes`**: a failure outside the taxonomy.
-/

namespace Polystore

/-- The commands that use a connection of any family. -/
def Action.isCommand : Action → Bool
  | .query .. => true
  | .schema _ => true
  | .define .. => true
  | _ => false

/-- If answers have their shape, the last error that was raised is reported as it is watched for,
and without one no failure is outside the taxonomy. -/
def Tells {α : Type} (xs : List Exchange) (result : Except Failure α) : Prop :=
  (∀ x ∈ xs, x.IsShaped) →
    (∀ r e, lastRaised? xs = some (r, e) → result = .error (watchedReport r.isWatched e)) ∧
      (lastRaised? xs = none → ∀ f, result ≠ .error (.fault f))

theorem tells_notConnected {α : Type} :
    Tells [] (.error (.core .notConnected) : Except Failure α) := by
  intro _
  refine ⟨fun r e h => ?_, fun _ f hf => by cases hf⟩
  rw [lastRaised?_nil] at h
  cases h

/-- What is made of a success tells the same. -/
theorem Tells.map {α β : Type} {xs : List Exchange} {result : Except Failure α}
    (h : Tells xs result) (g : α → β) : Tells xs (result.map g) := by
  intro hshaped
  obtain ⟨hraised, hown⟩ := h hshaped
  refine ⟨fun r e hlast => ?_, fun hnone f hf => ?_⟩
  · rw [hraised r e hlast]
    rfl
  · cases result with
    | ok x => cases hf
    | error f' =>
      cases hf
      exact hown hnone f rfl

theorem Connection.Tells.meets {α : Type} {c : Connection} {s : Session α} (h : c.Tells s) :
    s.Meets Polystore.Tells := by
  refine h.mono fun xs result hresult hshaped => ?_
  obtain ⟨hwatched, hraised, hown, -⟩ := hresult hshaped
  refine ⟨fun r e hlast => ?_, fun hnone f hf => ?_⟩
  · obtain ⟨x, hx, rfl⟩ := exists_of_lastRaised? hlast
    rw [hwatched x hx]
    exact hraised _ e hlast
  · obtain ⟨e, he⟩ := hown hnone (.fault f) hf
    cases he

namespace Hub

variable {h : Hub} {id text : String}

/-- A task with a connection exchanges what it exchanges with the connection. -/
theorem meets_withConnection {α : Type} {body : Connection → Session α}
    {Q : List Exchange → Except Failure α → Prop} (hnone : Q [] (.error (.core .notConnected)))
    (hbody : ∀ c, (body c).Meets Q) :
    (withConnection id body h).Meets fun xs r => Q xs r.1 := by
  unfold withConnection
  split
  · next c _ =>
    refine Dialogue.meets_bind.mpr ((hbody c).mono fun xs result hresult => ?_)
    simpa using hresult
  · exact hnone

/-- Every command tells about the errors of clients. -/
theorem tells_act {a : Action} (ha : a.isCommand = true) :
    (act a h).Meets fun xs r => Tells xs r.1 := by
  cases a with
  | query id text =>
    refine Dialogue.meets_bind.mpr ((meets_withConnection tells_notConnected
      fun c => c.tells_execute.meets).mono ?_)
    rintro xs ⟨result, h'⟩ hresult
    have htold : Tells (xs ++ []) (result.map QueryResult.ofTable) := by
      simpa using hresult.map QueryResult.ofTable
    cases result with
    | ok table => exact htold
    | error f =>
      cases f with
      | core e => exact htold
      | fault f => exact htold
  | schema id => exact meets_withConnection tells_notConnected fun c => c.tells_schema.meets
  | define id text =>
    exact meets_withConnection tells_notConnected fun c => c.tells_executeDefinition.meets
  | _ => cases ha

variable {σ : Type} {a : Action}

/-- **What callers are told about the errors of clients.** A command fails outside the taxonomy if
and only if the last error that a client raised is of a kind that its engine does not watch for, and
then with this error; if the engine watches for it, the failure is an error of the engine with the
text of the client. -/
theorem errors_told (responder : Responder σ) (state : σ) (h : Hub) (ha : a.isCommand = true)
    (hshaped : ∀ x ∈ (act a h).exchanges responder state, x.IsShaped) :
    let result := ((act a h).run responder state).result.1
    let raised? := lastRaised? ((act a h).exchanges responder state)
    (∀ f, result = .error (.fault f) ↔
      ∃ r e, raised? = some (r, e) ∧ r.isWatched e.kind = false ∧ f = .native e) ∧
    ∀ r e, raised? = some (r, e) → r.isWatched e.kind = true →
      result = .error (.core (.native e.text)) := by
  intro result raised?
  obtain ⟨hraised, hown⟩ := (tells_act ha).run responder state hshaped
  refine ⟨fun f => ⟨fun hf => ?_, ?_⟩, fun r e hlast hwatched => ?_⟩
  · cases hlast : raised? with
    | none => exact absurd hf (hown hlast f)
    | some re =>
      obtain ⟨r, e⟩ := re
      have hresult := (hraised r e hlast).symm.trans hf
      cases hwatched : r.isWatched e.kind with
      | true => simp [watchedReport, hwatched] at hresult
      | false =>
        exact ⟨r, e, rfl, hwatched,
          by simpa [watchedReport, hwatched, unwatched] using hresult.symm⟩
  · rintro ⟨r, e, hlast, hwatched, rfl⟩
    refine (hraised r e hlast).trans ?_
    simp [watchedReport, hwatched, unwatched]
  · refine (hraised r e hlast).trans ?_
    simp [watchedReport, hwatched]

/-- Key-value clients that raise an error at every command. -/
def failing (e : NativeError) : Responder Unit where
  reply state c :=
    match c with
    | ⟨_, .redis (.client _)⟩ => (.ok (), state)
    | ⟨_, .redis .ping⟩ => (.ok (.bool true), state)
    | _ => (.error e, state)

/-- A hub with one connection to a key-value store. -/
def cacheHub : Hub :=
  let d : Descriptor := ⟨"k", "cache", "redis", "h", some 6379, "0", "", none, false⟩
  ((connect d ⟨.default, .empty, .empty 500, 0⟩).run (failing ⟨.system, "boom"⟩) ()).result.2

theorem isShaped_failing (e : NativeError) (state : Unit) (c : Call) :
    Exchange.IsShaped ⟨c, ((failing e).reply state c).1⟩ := by
  obtain ⟨client, request⟩ := c
  intro answer hanswer
  cases request with
  | redis r =>
    cases r with
    | client login => trivial
    | ping => trivial
    | _ => cases hanswer
  | _ => cases hanswer

/-- An error that the engine watches for is told with its text. -/
theorem errors_told_watched :
    (Action.query "k" "GET greeting").isCommand = true ∧
      (∀ x ∈ (act (.query "k" "GET greeting") cacheHub).exchanges
        (failing ⟨.keyValueResponse, "WRONGTYPE"⟩) (), x.IsShaped) ∧
      ((act (.query "k" "GET greeting") cacheHub).run
        (failing ⟨.keyValueResponse, "WRONGTYPE"⟩) ()).result.1 =
          .error (.core (.native "WRONGTYPE")) := by
  have hshaped := Dialogue.forall_exchanges (isShaped_failing ⟨.keyValueResponse, "WRONGTYPE"⟩)
    (act (.query "k" "GET greeting") cacheHub) ()
  have hlast : lastRaised? ((act (.query "k" "GET greeting") cacheHub).exchanges
      (failing ⟨.keyValueResponse, "WRONGTYPE"⟩) ()) =
        some (.redis (.command ["GET", "greeting"]), ⟨.keyValueResponse, "WRONGTYPE"⟩) := by
    with_unfolding_all rfl
  exact ⟨rfl, hshaped, (errors_told _ () cacheHub rfl hshaped).2 _ _ hlast rfl⟩

/-- **An error of the system escapes.** The connection is live and no answer has a wrong shape, but
the failure of the query is outside the taxonomy, and the history knows nothing of it. -/
theorem system_error_escapes :
    cacheHub.ids = ["k"] ∧
      (∀ x ∈ (act (.query "k" "GET greeting") cacheHub).exchanges (failing ⟨.system, "boom"⟩) (),
        x.IsShaped) ∧
      ((act (.query "k" "GET greeting") cacheHub).run (failing ⟨.system, "boom"⟩) ()).result.1 =
        .error (.fault (.native ⟨.system, "boom"⟩)) ∧
      ((act (.query "k" "GET greeting") cacheHub).run
        (failing ⟨.system, "boom"⟩) ()).result.2.history.entries none = [] :=
  ⟨rfl, Dialogue.forall_exchanges (isShaped_failing _) _ (), by with_unfolding_all rfl,
    by with_unfolding_all rfl⟩

end Hub

end Polystore
