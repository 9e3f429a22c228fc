import Polystore.Proofs.Engine.Calls

/-!
# Opening connections

What was opened on the way to a connection is closed again when the connection cannot be had: once,
and by a call to the same client. There is one exception. The probe of a key-value client may raise
an error that is not watched for; then the client is deserted.

* `desertedClients`: the clients whose probe raises such an error;
* `Tidy`, `Session.Tidies`: on failure everything in hand is closed or deserted, on success
  everything is kept; `Tidies.bind` and the like put such sessions together;
* **`Connection.tidies_connect`**, **`Connection.connect_settled`**: opening a connection is tidy.
-/

namespace Polystore

open Session

/-! ## Traces -/

/-- The client whose first probe raises an error that is not watched for. -/
def Happening.deserted? : Happening → Option Nat
  | .called ⟨n, .redis .ping⟩ (some e) => if e.kind.isKeyValue then none else some n
  | _ => none

/-- The clients whose first probe raises an error that is not watched for. -/
def desertedClients (trace : List Happening) : List Nat := trace.filterMap Happening.deserted?

theorem Happening.deserted?_of_ne (client : Nat) {r : Request} (h : r ≠ .redis .ping)
    (failure : Option NativeError) : deserted? (.called ⟨client, r⟩ failure) = none := by
  unfold deserted?
  split
  · simp_all
  · rfl

@[simp] theorem desertedClients_append (trace rest : List Happening) :
    desertedClients (trace ++ rest) = desertedClients trace ++ desertedClients rest :=
  List.filterMap_append

/-- With some clients in hand, a session succeeds and has opened others as well, or it fails and
leaves no client open that it does not desert. -/
structure Tidy (held opened : List Nat) (trace : List Happening) (ok : Bool) : Prop where
  kept : ok = true →
    openedClients trace = opened ∧ closedClients trace = [] ∧ desertedClients trace = []
  settled : ok = false → openedClients trace <+: opened ∧
    closedClients trace ++ desertedClients trace = held ++ openedClients trace

theorem Tidy.append {held opened more : List Nat} {trace rest : List Happening} {ok : Bool}
    (h : Tidy held opened trace true) (h' : Tidy (held ++ opened) more rest ok) :
    Tidy held (opened ++ more) (trace ++ rest) ok := by
  obtain ⟨hopened, hclosed, hdeserted⟩ := h.kept rfl
  constructor
  case kept =>
    intro hok
    obtain ⟨hopened', hclosed', hdeserted'⟩ := h'.kept hok
    simp [hopened, hclosed, hdeserted, hopened', hclosed', hdeserted']
  case settled =>
    intro hfail
    obtain ⟨hfirst, hsettled⟩ := h'.settled hfail
    simp only [openedClients_append, closedClients_append, desertedClients_append, hopened, hclosed,
      hdeserted, List.nil_append, hsettled, List.append_assoc]
    exact ⟨(List.prefix_append_right_inj opened).mpr hfirst, trivial⟩

/-- What opens, closes and deserts nothing changes nothing. -/
theorem Tidy.cons {held opened : List Nat} {trace : List Happening} {ok : Bool} {c : Call}
    {failure : Option NativeError} (hopen : c.request.isOpening = false)
    (hclose : c.request.isClosing = false)
    (hkeep : Happening.deserted? (.called c failure) = none) (h : Tidy held opened trace ok) :
    Tidy held opened (.called c failure :: trace) ok := by
  have hopened : openedClients (.called c failure :: trace) = openedClients trace := by
    cases failure <;> simp [openedClients, Happening.opened?, hopen, List.filterMap_cons]
  have hclosed : closedClients (.called c failure :: trace) = closedClients trace := by
    simp [closedClients, Happening.closed?, hclose]
  have hdeserted : desertedClients (.called c failure :: trace) = desertedClients trace := by
    simp [desertedClients, hkeep]
  constructor <;> rw [hopened, hclosed, hdeserted]
  · exact h.kept
  · exact h.settled

/-! ## Sessions -/

/-- With some clients in hand, a session opens others, or fails and leaves none open. -/
def Session.Tidies {α : Type} (held opened : List Nat) (s : Session α) : Prop :=
  s.Ensures fun trace result => Tidy held opened trace result.isOk

namespace Session.Tidies

variable {α β : Type} {s : Session α} {f : α → Session β} {client : Nat}
  {held opened more : List Nat}

theorem pure {x : α} : (Pure.pure x : Session α).Tidies held [] :=
  ensures_pure.mpr ⟨fun _ => ⟨rfl, rfl, rfl⟩, nofun⟩

theorem note {n : Note} : (Session.note n).Tidies held [] :=
  ensures_note.mpr ⟨fun _ => ⟨rfl, rfl, rfl⟩, nofun⟩

/-- A session that fails with nothing in hand has nothing to close. -/
theorem throw {e : Failure} : (MonadExcept.throw e : Session α).Tidies [] opened :=
  ensures_throw.mpr ⟨nofun, fun _ => ⟨List.nil_prefix, rfl⟩⟩

theorem ofCore {x : Except CoreError α} : (Session.ofCore x).Tidies [] [] := by
  cases x with
  | ok x => exact Tidies.pure
  | error e => exact Tidies.throw

theorem ofFault {x : Except Fault α} : (Session.ofFault x).Tidies [] [] := by
  cases x with
  | ok x => exact Tidies.pure
  | error f => exact Tidies.throw

theorem ofResult {x : Except Failure α} : (Session.ofResult x).Tidies [] [] := by
  cases x with
  | ok x => exact Tidies.pure
  | error f => exact Tidies.throw

/-- A request that opens a client, with nothing in hand before. -/
theorem opening {r : Request} (hopen : r.isOpening = true) (hclose : r.isClosing = false) :
    (Session.ask client r).Tidies [] [client] := by
  have hprobe := Happening.deserted?_of_ne client (r := r) (by rintro rfl; cases hopen)
  refine ensures_ask.mpr ⟨fun answer => ⟨fun _ => ?_, nofun⟩, fun e => ⟨nofun, fun _ => ?_⟩⟩
  · simp [openedClients, closedClients, desertedClients, Happening.opened?, Happening.closed?,
      hopen, hclose, hprobe]
  · simp [openedClients, closedClients, desertedClients, Happening.opened?, Happening.closed?,
      hclose, hprobe, List.filterMap_cons]

theorem bind (hs : s.Tidies held opened) (hf : ∀ x, (f x).Tidies (held ++ opened) more) :
    (s >>= f).Tidies held (opened ++ more) := by
  refine ensures_bind.mpr (hs.mono fun trace result htrace => ?_)
  cases result with
  | error e =>
    obtain ⟨hopened, hsettled⟩ := htrace.settled rfl
    exact ⟨nofun, fun _ => ⟨hopened.trans (List.prefix_append ..), hsettled⟩⟩
  | ok x => exact (hf x).mono fun rest _ hrest => htrace.append hrest

theorem mapFailure {g : Failure → Failure} (hs : s.Tidies held opened) :
    (s.mapFailure g).Tidies held opened := by
  refine ensures_mapFailure.mpr (hs.mono fun trace result htrace => ?_)
  cases result <;> exact htrace

/-- The client in hand is closed, whatever it replies, and the session fails. -/
theorem closing {r : Request} (hopen : r.isOpening = false) (hclose : r.isClosing = true)
    {e : r.Answer → Failure} :
    (Session.ask client r >>= fun answer => (MonadExcept.throw (e answer) : Session α)).Tidies
      [client] [] := by
  have hprobe := Happening.deserted?_of_ne client (r := r) (by rintro rfl; cases hclose)
  refine ensures_bind.mpr (ensures_ask.mpr ⟨fun answer => ⟨nofun, fun _ => ?_⟩,
    fun e => ⟨nofun, fun _ => ?_⟩⟩)
  · simp [openedClients, closedClients, desertedClients, Happening.opened?, Happening.closed?,
      hopen, hclose, hprobe]
  · simp [openedClients, closedClients, desertedClients, Happening.opened?, Happening.closed?,
      hclose, hprobe]

/-- A client in hand is asked something; what follows sees to it in any case. -/
theorem attempt {r : Request} (hopen : r.isOpening = false) (hclose : r.isClosing = false)
    {f : Except Failure r.Answer → Session β} (hok : ∀ x, (f (.ok x)).Tidies [client] [])
    (herror : ∀ e, (f (.error (.fault (.native e)))).Ensures fun rest result =>
      Tidy [client] [] (.called ⟨client, r⟩ (some e) :: rest) result.isOk) :
    (Session.outcome (Session.ask client r) >>= f).Tidies [client] [] := by
  refine ensures_bind.mpr (ensures_outcome.mpr (ensures_ask.mpr ⟨fun answer => ?_, herror⟩))
  have hkeep : Happening.deserted? (.called ⟨client, r⟩ none) = none := by
    unfold Happening.deserted?
    split <;> simp_all
  exact (hok answer).mono fun rest _ hrest => hrest.cons hopen hclose hkeep

end Session.Tidies

/-! ## Connections -/

variable {n : Nat} {d : Descriptor} {s : Settings}

theorem Sqlite.tidies_connect {timeout : Number.Binary64} :
    (connect n d timeout).Tidies [] [n] := .opening rfl rfl

theorem Postgres.tidies_connect {timeout : Number.Binary64} :
    (connect n d timeout).Tidies [] [n] := by
  have hfetch : (onFailure (ask n (.fetchValue "SELECT current_schema()"))
      (ask n .close)).Tidies [n] [] := by
    refine .attempt rfl rfl (fun _ => .pure) fun e => ?_
    have hclosing : (ask n .close >>= fun _ => (throw (.fault (.native e)) : Session Value)).Tidies
        [n] [] := .closing rfl rfl
    exact hclosing.mono fun rest _ hrest => hrest.cons rfl rfl rfl
  exact .bind .ofCore fun _ => .bind (.opening rfl rfl) fun _ => hfetch

theorem Mysql.tidies_connect {timeout : Number.Binary64} :
    (connect n d timeout).Tidies [] [n] :=
  .bind .ofCore fun _ => .bind (.opening rfl rfl) fun _ => .pure

theorem Relational.tidies_connect : (connect n d s).Tidies [] [n] := by
  refine .bind .ofCore fun backend => ?_
  have hsession : ∀ session, session? n d s backend = some session → session.Tidies [] [n] := by
    intro session hs
    cases backend <;> simp only [session?, Option.some.injEq, reduceCtorEq] at hs <;> subst hs
    case sqlite => exact Sqlite.tidies_connect.bind fun _ => .pure
    case postgresql => exact Postgres.tidies_connect.bind fun _ => .pure
    case mysql => exact Mysql.tidies_connect.bind fun _ => .pure
    case mariadb => exact Mysql.tidies_connect.bind fun _ => .pure
  cases hb : session? n d s backend with
  | none => exact .throw
  | some session =>
    exact (hsession session hb).mapFailure.bind fun _ => .bind .note fun _ => .pure

theorem Mongo.tidies_connect : (connect n d s).Tidies [] [n] := by
  refine .bind .ofFault fun timeout => ?_
  have hclient : (mapFailure asConnectError do
      ask n (.client (← ofResult d.documentAddress) timeout d.tls)).Tidies [] [n] :=
    .mapFailure (.bind .ofResult fun _ => .opening rfl rfl)
  refine hclient.bind fun _ => .attempt rfl rfl (fun _ => ?_) fun e => ?_
  · exact .bind .note fun _ => .pure
  · have hclosing : (ask n .close >>= fun _ => (throw (asConnectError (.fault (.native e))) :
        Session Mongo)).Tidies [n] [] := .closing rfl rfl
    exact hclosing.mono fun rest _ hrest => hrest.cons rfl rfl rfl

theorem Redis.tidies_connect : (connect n d s).Tidies [] [n] := by
  have habandon : ∀ f : Failure, (abandon n f : Session Redis).Tidies [n] [] :=
    fun f => .closing rfl rfl
  refine .bind .ofCore fun _ => .bind .ofCore fun _ => .bind (.opening rfl rfl) fun _ =>
    .attempt rfl rfl (fun (reply : Value) => ?_) fun e => ?_
  · cases reply with
    | bool b =>
      cases b with
      | true => exact .bind .note fun _ => .pure
      | false => exact habandon _
    | _ => exact habandon _
  · change (if e.kind.isKeyValue then _ else _ : Session Redis).Ensures _
    split
    · have hkeep : Happening.deserted? (.called ⟨n, .redis .ping⟩ (some e)) = none := by
        simp [Happening.deserted?, *]
      exact (habandon _).mono fun rest _ hrest => hrest.cons rfl rfl hkeep
    · refine ensures_throw.mpr ⟨nofun, fun _ => ?_⟩
      simp [openedClients, closedClients, desertedClients, Happening.opened?, Happening.closed?,
        Happening.deserted?, Request.isClosing, *]

/-- **Opening a connection is tidy**, but for a key-value client that is deserted. -/
theorem Connection.tidies_connect : (connect n d s).Tidies [] [n] := by
  refine .bind .ofCore fun backend => ?_
  cases backend.family with
  | relational => exact Relational.tidies_connect.bind fun _ => .pure
  | document => exact Mongo.tidies_connect.bind fun _ => .pure
  | keyValue => exact Redis.tidies_connect.bind fun _ => .pure

/-- What has become of the client of an attempt to connect. -/
structure ConnectSettled (n : Nat) (trace : List Happening) (result : Except Failure Connection) :
    Prop where
  /-- A connection that is returned has its client open. -/
  returned : ∀ c, result = .ok c →
    c.client = n ∧ openedClients trace = [n] ∧ closedClients trace = []
  /-- If there is none, a client that was opened is closed once. -/
  failed : ∀ f, result = .error f → desertedClients trace = [] →
    (openedClients trace = [] ∨ openedClients trace = [n]) ∧
      closedClients trace = openedClients trace
  /-- A client is deserted only if its first probe raises an error that is not watched for. It was
  opened then, and it is not closed. -/
  deserted : desertedClients trace ≠ [] → result.isOk = false ∧ desertedClients trace = [n] ∧
    openedClients trace = [n] ∧ closedClients trace = []

/-- **A failed attempt to connect leaves no client open**, whatever the clients reply, but for a
key-value client whose first probe raises an error that is not watched for. -/
theorem Connection.connect_settled {σ : Type} (responder : Responder σ) (state : σ) (n : Nat)
    (d : Descriptor) (s : Settings) :
    ConnectSettled n ((connect n d s).run.run responder state).trace
      ((connect n d s).run.run responder state).result := by
  have htidy := Dialogue.Ensures.run (tidies_connect (n := n) (d := d) (s := s)) responder state
  have hclient := Dialogue.Ensures.run (gives_connect (n := n) (d := d) (s := s)) responder state
  revert htidy hclient
  obtain ⟨result, _, trace⟩ := (connect n d s).run.run responder state
  intro htidy hclient
  have hone : result.isOk = false → openedClients trace = [] ∨ openedClients trace = [n] :=
    fun hfail => by simpa [List.prefix_cons_iff, or_comm] using (htidy.settled hfail).1
  constructor
  case returned =>
    rintro c ⟨⟩
    obtain ⟨hopened, hclosed, -⟩ := htidy.kept rfl
    exact ⟨hclient c rfl, hopened, hclosed⟩
  case failed =>
    rintro f ⟨⟩ hnone
    have hsettled := (htidy.settled rfl).2
    rw [hnone, List.append_nil, List.nil_append] at hsettled
    exact ⟨hone rfl, hsettled⟩
  case deserted =>
    intro hsome
    cases hok : result.isOk with
    | true => exact absurd (htidy.kept hok).2.2 hsome
    | false =>
      have hsettled := (htidy.settled hok).2
      rcases hone hok with hopened | hopened
      · simp_all
      · rw [hopened, List.nil_append, List.append_eq_singleton_iff] at hsettled
        simp_all

/-- A key-value client that raises an error of the system at its first probe. -/
def brokenProbe : Responder Unit where
  reply state c :=
    match c with
    | ⟨_, .redis (.client _)⟩ => (.ok (), state)
    | ⟨_, .redis .close⟩ => (.ok (), state)
    | _ => (.error ⟨.system, "boom"⟩, state)

/-- The client of such an attempt is opened, and it is not closed although the attempt fails. -/
theorem Connection.probe_error_deserts :
    let d : Descriptor := ⟨"k", "cache", "redis", "h", some 6379, "0", "", none, false⟩
    let run := (connect 0 d .default).run.run brokenProbe ()
    run.result = .error (.fault (.native ⟨.system, "boom"⟩)) ∧
      openedClients run.trace = [0] ∧ closedClients run.trace = [] :=
  ⟨rfl, rfl, rfl⟩

end Polystore
