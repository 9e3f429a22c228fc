import Polystore.Native.Dialogue

/-!
# What dialogues ensure

A dialogue is known by what holds of its trace and its result whatever the clients reply. The rules
follow the ways in which dialogues are put together, so the calls of a session are read off its
text.

* `calls`, `openedClients`, `closedClients`: what is read off a trace;
* `Dialogue.Ensures`, **`Dialogue.Ensures.run`**: what every course of a dialogue ensures holds of
  every run;
* `Session.Ensures`, with a rule for each way to make a session;
* `Session.Talks`: all calls of a session are of one kind, and it does not miss a connection;
* `Session.Gives`: all results of a session are of one kind;
* `Session.Opens`: a session calls one client only and opens it.
-/

namespace Polystore

/-! ## Traces -/

/-- Requests that open a client. -/
def Request.isOpening : Request → Bool
  | .sqlite (.connect ..) => true
  | .postgres (.connect _) => true
  | .mysql (.connect _) => true
  | .mongo (.client ..) => true
  | .redis (.client _) => true
  | _ => false

/-- Requests that close a client. -/
def Request.isClosing : Request → Bool
  | .sqlite .close => true
  | .postgres .close => true
  | .mysql .close => true
  | .mongo .close => true
  | .redis .close => true
  | _ => false

namespace Happening

def call? : Happening → Option Call
  | .called c _ => some c
  | .noted _ => none

/-- The client that is opened, if no error is raised. -/
def opened? : Happening → Option Nat
  | .called c none => if c.request.isOpening then some c.client else none
  | _ => none

/-- The client that is called to close, whether an error is raised or not. -/
def closed? : Happening → Option Nat
  | .called c _ => if c.request.isClosing then some c.client else none
  | .noted _ => none

end Happening

/-- The calls of a trace. -/
def calls (trace : List Happening) : List Call := trace.filterMap Happening.call?

/-- The clients that are opened in a trace. -/
def openedClients (trace : List Happening) : List Nat := trace.filterMap Happening.opened?

/-- The clients that are called to close in a trace. -/
def closedClients (trace : List Happening) : List Nat := trace.filterMap Happening.closed?

section Traces

variable {trace rest : List Happening} {c : Call} {failure : Option NativeError} {n : Note}

@[simp] theorem calls_nil : calls [] = [] := rfl

@[simp] theorem calls_called : calls (.called c failure :: trace) = c :: calls trace := rfl

@[simp] theorem calls_noted : calls (.noted n :: trace) = calls trace := rfl

@[simp] theorem calls_append : calls (trace ++ rest) = calls trace ++ calls rest :=
  List.filterMap_append

@[simp] theorem openedClients_nil : openedClients [] = [] := rfl

@[simp] theorem openedClients_noted : openedClients (.noted n :: trace) = openedClients trace := rfl

@[simp] theorem openedClients_append :
    openedClients (trace ++ rest) = openedClients trace ++ openedClients rest :=
  List.filterMap_append

@[simp] theorem closedClients_nil : closedClients [] = [] := rfl

@[simp] theorem closedClients_noted : closedClients (.noted n :: trace) = closedClients trace := rfl

@[simp] theorem closedClients_append :
    closedClients (trace ++ rest) = closedClients trace ++ closedClients rest :=
  List.filterMap_append

theorem forall_calls_append {P : Call → Prop} (h : ∀ call ∈ calls trace, P call)
    (h' : ∀ call ∈ calls rest, P call) : ∀ call ∈ calls (trace ++ rest), P call := by
  intro call hcall
  rw [calls_append, List.mem_append] at hcall
  exact hcall.elim (h call) (h' call)

/-- The clients that are called to close are those of the calls that close. -/
theorem closedClients_eq (trace : List Happening) : closedClients trace =
    (calls trace).filterMap fun c => if c.request.isClosing then some c.client else none := by
  induction trace with
  | nil => rfl
  | cons happening trace ih =>
    cases happening with
    | noted n => exact ih
    | called c failure => simp [closedClients, Happening.closed?, List.filterMap_cons, ← ih]

theorem exists_call_of_mem_closedClients {n : Nat} (h : n ∈ closedClients trace) :
    ∃ call ∈ calls trace, call.client = n ∧ call.request.isClosing = true := by
  rw [closedClients_eq, List.mem_filterMap] at h
  obtain ⟨call, hcall, hn⟩ := h
  obtain ⟨hclosing, hn⟩ := Option.ite_none_right_eq_some.mp hn
  exact ⟨call, hcall, Option.some.inj hn, hclosing⟩

end Traces

/-! ## Dialogues -/

namespace Dialogue

variable {α β σ : Type} {d : Dialogue α} {f : α → Dialogue β}

instance : LawfulMonad Dialogue := by
  refine LawfulMonad.mk' Dialogue (fun d => ?_) (fun _ _ => rfl) fun d f g => ?_
  · change d.bind .done = d
    induction d with
    | done x => rfl
    | ask c next ih => exact congrArg (ask c) (funext ih)
    | note n next ih => exact congrArg (note n) ih
  · change (d.bind f).bind g = d.bind fun x => (f x).bind g
    induction d with
    | done x => rfl
    | ask c next ih => exact congrArg (ask c) (funext ih)
    | note n next ih => exact congrArg (note n) ih

/-- The error that a reply is, if it is one. -/
def failureOf {c : Call} : c.Reply → Option NativeError
  | .ok _ => none
  | .error e => some e

/-- Whatever the clients reply, something holds of the trace and the result. -/
def Ensures : Dialogue α → (List Happening → α → Prop) → Prop
  | done x, Q => Q [] x
  | ask c next, Q => ∀ reply : c.Reply,
      (next reply).Ensures fun trace x => Q (.called c (failureOf reply) :: trace) x
  | note n next, Q => next.Ensures fun trace x => Q (.noted n :: trace) x

theorem Ensures.mono {Q Q' : List Happening → α → Prop} (h : d.Ensures Q)
    (hQ : ∀ trace x, Q trace x → Q' trace x) : d.Ensures Q' := by
  induction d generalizing Q Q' with
  | done x => exact hQ _ _ h
  | ask c next ih => exact fun reply => ih reply (h reply) fun _ _ => hQ _ _
  | note n next ih => exact ih h fun _ _ => hQ _ _

theorem Ensures.and {Q Q' : List Happening → α → Prop} (h : d.Ensures Q) (h' : d.Ensures Q') :
    d.Ensures fun trace x => Q trace x ∧ Q' trace x := by
  induction d generalizing Q Q' with
  | done x => exact ⟨h, h'⟩
  | ask c next ih => exact fun reply => ih reply (h reply) (h' reply)
  | note n next ih => exact ih h h'

theorem ensures_of_forall {Q : List Happening → α → Prop} (h : ∀ trace x, Q trace x) :
    d.Ensures Q := by
  induction d generalizing Q with
  | done x => exact h _ _
  | ask c next ih => exact fun reply => ih reply fun _ _ => h _ _
  | note n next ih => exact ih fun _ _ => h _ _

/-- **What a dialogue ensures holds of its runs.** -/
theorem Ensures.run {Q : List Happening → α → Prop} (h : d.Ensures Q) (responder : Responder σ)
    (state : σ) : Q (d.run responder state).trace (d.run responder state).result := by
  induction d generalizing Q state with
  | done x => exact h
  | ask c next ih => exact ih _ (h _) _
  | note n next ih => exact ih h _

@[simp] theorem ensures_pure {x : α} {Q : List Happening → α → Prop} :
    (pure x : Dialogue α).Ensures Q ↔ Q [] x := Iff.rfl

@[simp] theorem ensures_log {n : Note} {Q : List Happening → Unit → Prop} :
    (log n).Ensures Q ↔ Q [.noted n] () := Iff.rfl

theorem ensures_bind {Q : List Happening → β → Prop} : (d >>= f).Ensures Q ↔
    d.Ensures fun trace x => (f x).Ensures fun rest y => Q (trace ++ rest) y := by
  change (d.bind f).Ensures Q ↔ _
  induction d generalizing Q with
  | done x => rfl
  | ask c next ih => exact forall_congr' fun reply => ih reply
  | note n next ih => exact ih

/-- A run goes on from where the first part left the responder. -/
theorem run_bind (responder : Responder σ) (state : σ) : (d >>= f).run responder state =
    let first := d.run responder state
    let rest := (f first.result).run responder first.state
    ⟨rest.result, rest.state, first.trace ++ rest.trace⟩ := by
  change (d.bind f).run responder state = _
  induction d generalizing state with
  | done x => rfl
  | ask c next ih => simp only [bind, run, ih, List.cons_append]
  | note n next ih => simp only [bind, run, ih, List.cons_append]

/-- A note that is left in one of two cases. -/
theorem ensures_noting {b : Bool} {n : Note} {next : Unit → Dialogue α}
    {Q : List Happening → α → Prop} : (if b then log n >>= next else next ()).Ensures Q ↔
      (next ()).Ensures fun trace x => Q ((if b then [.noted n] else []) ++ trace) x := by
  cases b <;> rfl

end Dialogue

/-! ## Sessions -/

namespace Session

variable {α β : Type} {s : Session α} {f : α → Session β}

/-- Whatever the clients reply, something holds of the trace and the outcome of a session. -/
def Ensures (s : Session α) (Q : List Happening → Except Failure α → Prop) : Prop :=
  Dialogue.Ensures s.run Q

theorem Ensures.mono {Q Q' : List Happening → Except Failure α → Prop} (h : s.Ensures Q)
    (hQ : ∀ trace result, Q trace result → Q' trace result) : s.Ensures Q' :=
  Dialogue.Ensures.mono h hQ

section Rules

variable {Q : List Happening → Except Failure α → Prop}

@[simp] theorem ensures_pure {x : α} : (pure x : Session α).Ensures Q ↔ Q [] (.ok x) := Iff.rfl

@[simp] theorem ensures_throw {e : Failure} : (throw e : Session α).Ensures Q ↔ Q [] (.error e) :=
  Iff.rfl

theorem ensures_bind {Q : List Happening → Except Failure β → Prop} :
    (s >>= f).Ensures Q ↔ s.Ensures fun trace result =>
      match result with
      | .ok x => (f x).Ensures fun rest result => Q (trace ++ rest) result
      | .error e => Q trace (.error e) := by
  refine Dialogue.ensures_bind.trans ⟨fun h => h.mono fun trace result hr => ?_,
    fun h => h.mono fun trace result hr => ?_⟩
  · cases result with
    | ok x => exact hr
    | error e => simpa using (show Q (trace ++ []) (.error e) from hr)
  · cases result with
    | ok x => exact hr
    | error e => exact (show Q (trace ++ []) (.error e) by simpa using hr)

theorem ensures_ask {client : Nat} {r : Request}
    {Q : List Happening → Except Failure r.Answer → Prop} : (ask client r).Ensures Q ↔
      (∀ answer, Q [.called ⟨client, r⟩ none] (.ok answer)) ∧
        ∀ e, Q [.called ⟨client, r⟩ (some e)] (.error (.fault (.native e))) := by
  constructor
  · exact fun h => ⟨fun answer => h (.ok answer), fun e => h (.error e)⟩
  · rintro ⟨hok, herror⟩ (e | answer)
    · exact herror e
    · exact hok answer

@[simp] theorem ensures_note {n : Note} {Q : List Happening → Except Failure Unit → Prop} :
    (note n).Ensures Q ↔ Q [.noted n] (.ok ()) := Iff.rfl

theorem ensures_outcome {Q : List Happening → Except Failure (Except Failure α) → Prop} :
    (outcome s).Ensures Q ↔ s.Ensures fun trace result => Q trace (.ok result) := by
  refine Dialogue.ensures_bind.trans ⟨fun h => h.mono fun trace result hr => ?_,
    fun h => h.mono fun trace result hr => ?_⟩
  · simpa using (show Q (trace ++ []) (.ok result) from hr)
  · exact (show Q (trace ++ []) (.ok result) by simpa using hr)

theorem ensures_mapFailure {g : Failure → Failure} : (mapFailure g s).Ensures Q ↔
    s.Ensures fun trace result => Q trace (result.mapError g) := by
  refine Dialogue.ensures_bind.trans ⟨fun h => h.mono fun trace result hr => ?_,
    fun h => h.mono fun trace result hr => ?_⟩
  · simpa using (show Q (trace ++ []) (result.mapError g) from hr)
  · exact (show Q (trace ++ []) (result.mapError g) by simpa using hr)

end Rules

/-- A session that asks goes on with the answer. -/
theorem result_ask_bind {σ : Type} {responder : Responder σ} {state : σ} {client : Nat}
    {r : Request} {answer : r.Answer} {f : r.Answer → Session β}
    (h : (responder.reply state ⟨client, r⟩).1 = .ok answer) :
    (Dialogue.run responder state (ask client r >>= f).run).result =
      (Dialogue.run responder (responder.reply state ⟨client, r⟩).2 (f answer).run).result := by
  change (Dialogue.run responder state (.ask ⟨client, r⟩ _)).result = _
  simp only [Dialogue.run]
  rw [h]
  rfl

/-! ## Calls of one kind -/

/-- All calls of a session are of one kind, and it does not fail like a command without a
connection. -/
def Talks (P : Call → Prop) (s : Session α) : Prop :=
  s.Ensures fun trace result =>
    (∀ call ∈ calls trace, P call) ∧ result ≠ .error (.core .notConnected)

namespace Talks

variable {P : Call → Prop}

theorem pure {x : α} : (Pure.pure x : Session α).Talks P := by simp [Talks]

theorem throw {e : Failure} (h : e ≠ .core .notConnected) :
    (MonadExcept.throw e : Session α).Talks P := by
  simpa [Talks] using h

theorem ofCore {x : Except CoreError α} (h : x ≠ .error .notConnected) :
    (Session.ofCore x).Talks P := by
  cases x with
  | ok x => exact Talks.pure
  | error e => exact Talks.throw fun he => h (congrArg _ (Failure.core.inj he))

theorem ofFault {x : Except Fault α} : (Session.ofFault x).Talks P := by
  cases x with
  | ok x => exact Talks.pure
  | error f => exact Talks.throw nofun

theorem ask {client : Nat} {r : Request} (h : P ⟨client, r⟩) : (Session.ask client r).Talks P :=
  ensures_ask.mpr ⟨fun _ => ⟨by simpa using h, nofun⟩, fun _ => ⟨by simpa using h, nofun⟩⟩

theorem bind (hs : s.Talks P) (hf : ∀ x, (f x).Talks P) : (s >>= f).Talks P := by
  refine ensures_bind.mpr (hs.mono fun trace result ⟨htrace, hresult⟩ => ?_)
  cases result with
  | error e => exact ⟨htrace, fun h => hresult (congrArg _ (Except.error.inj h))⟩
  | ok x => exact (hf x).mono fun rest _ hrest => ⟨forall_calls_append htrace hrest.1, hrest.2⟩

theorem mapFailure {g : Failure → Failure}
    (hg : ∀ e, g e = .core .notConnected → e = .core .notConnected) (hs : s.Talks P) :
    (s.mapFailure g).Talks P := by
  refine ensures_mapFailure.mpr (hs.mono fun trace result ⟨htrace, hresult⟩ => ⟨htrace, ?_⟩)
  cases result with
  | ok x => nofun
  | error e => exact fun h => hresult (congrArg _ (hg e (Except.error.inj h)))

theorem atEnd {cleanup : Session Unit} (hs : s.Talks P) (hc : cleanup.Talks P) :
    (s.atEnd cleanup).Talks P := by
  refine ensures_bind.mpr (ensures_outcome.mpr (hs.mono fun trace result ⟨htrace, hresult⟩ => ?_))
  have hend : ∀ {next : Session α}, next.Talks P → (cleanup >>= fun _ => next).Ensures
      fun rest result => (∀ call ∈ calls (trace ++ rest), P call) ∧
        result ≠ .error (.core .notConnected) := fun hnext =>
    (hc.bind fun _ => hnext).mono fun rest _ hrest =>
      ⟨forall_calls_append htrace hrest.1, hrest.2⟩
  cases result with
  | ok x => exact hend Talks.pure
  | error e => exact hend (Talks.throw fun h => hresult (congrArg _ h))

theorem mapM {l : List α} (hf : ∀ x, (f x).Talks P) : (l.mapM f).Talks P := by
  induction l with
  | nil => exact Talks.pure
  | cons x l ih =>
    rw [List.mapM_cons]
    exact (hf x).bind fun y => ih.bind fun ys => Talks.pure

end Talks

theorem eq_notConnected_of_asNativeError (e : Failure)
    (h : asNativeError e = .core .notConnected) : e = .core .notConnected := by
  cases h

theorem eq_notConnected_of_watching {isWatched : NativeKind → Bool} (e : Failure)
    (h : watching isWatched e = .core .notConnected) : e = .core .notConnected := by
  unfold watching at h
  split at h
  · split at h <;> cases h
  · exact h

/-! ## Results of one kind -/

/-- What a session gives when it succeeds is of one kind. -/
def Gives (P : α → Prop) (s : Session α) : Prop :=
  s.Ensures fun _ result => ∀ x, result = .ok x → P x

namespace Gives

variable {P : β → Prop}

theorem pure {y : β} (h : P y) : (Pure.pure y : Session β).Gives P := by
  refine ensures_pure.mpr fun x hx => ?_
  exact Except.ok.inj hx ▸ h

theorem throw {e : Failure} : (MonadExcept.throw e : Session β).Gives P :=
  ensures_throw.mpr nofun

/-- What a session gives is what its last part makes of the results before. -/
theorem trans {P' : α → Prop} (hs : s.Gives P') (hf : ∀ x, P' x → (f x).Gives P) :
    (s >>= f).Gives P := by
  refine ensures_bind.mpr (hs.mono fun trace result hresult => ?_)
  cases result with
  | ok x => exact hf x (hresult x rfl)
  | error e => exact nofun

theorem bind (hf : ∀ x, (f x).Gives P) : (s >>= f).Gives P := by
  have hs : s.Gives fun _ => True := Dialogue.ensures_of_forall fun _ _ _ _ => trivial
  exact hs.trans fun x _ => hf x

theorem mapFailure {g : Failure → Failure} {s : Session β} (hs : s.Gives P) :
    (s.mapFailure g).Gives P := by
  refine ensures_mapFailure.mpr (hs.mono fun trace result hresult => ?_)
  cases result with
  | ok y => exact hresult
  | error e => exact nofun

end Gives

/-! ## Opening clients -/

/-- A trace has calls of one client only, and if it is the trace of a success, some clients were
opened and none was closed. -/
structure Opened (client : Nat) (opened : List Nat) (trace : List Happening) (ok : Bool) :
    Prop where
  own : ∀ call ∈ calls trace, call.client = client
  opened : ok = true → openedClients trace = opened
  closed : ok = true → closedClients trace = []

section Opened

variable {client : Nat} {opened more : List Nat} {trace rest : List Happening} {ok : Bool}

theorem Opened.of_failure (h : ∀ call ∈ calls trace, call.client = client) :
    Opened client opened trace false :=
  ⟨h, nofun, nofun⟩

theorem Opened.append (h : Opened client opened trace true) (h' : Opened client more rest ok) :
    Opened client (opened ++ more) (trace ++ rest) ok := by
  refine ⟨forall_calls_append h.own h'.own, fun hok => ?_, fun hok => ?_⟩
  · rw [openedClients_append, h.opened rfl, h'.opened hok]
  · rw [closedClients_append, h.closed rfl, h'.closed hok, List.nil_append]

end Opened

/-- A session calls no client but one, and when it succeeds, it has opened the clients given and has
closed none. -/
def Opens (client : Nat) (opened : List Nat) (s : Session α) : Prop :=
  s.Ensures fun trace result => Opened client opened trace result.isOk

/-- A session calls no client but one, and it fails. -/
def Abandons (client : Nat) (s : Session α) : Prop :=
  s.Ensures fun trace result =>
    (∀ call ∈ calls trace, call.client = client) ∧ result.isOk = false

variable {client : Nat} {opened more : List Nat}

theorem Abandons.opens (hs : s.Abandons client) : s.Opens client opened := by
  refine hs.mono fun trace result h => ?_
  rw [h.2]
  exact .of_failure h.1

theorem abandons_throw {e : Failure} : (throw e : Session α).Abandons client := by
  refine ensures_throw.mpr ⟨?_, rfl⟩
  simp

/-- Whatever a client replies, a session fails if its rest does. -/
theorem abandons_ask {r : Request} {f : r.Answer → Session β} (hf : ∀ x, (f x).Abandons client) :
    (ask client r >>= f).Abandons client := by
  have hown : ∀ failure, ∀ call ∈ calls [.called ⟨client, r⟩ failure], call.client = client := by
    simp
  refine ensures_bind.mpr (ensures_ask.mpr ⟨fun answer => ?_, fun e => ⟨hown (some e), rfl⟩⟩)
  exact (hf answer).mono fun rest _ hrest => ⟨forall_calls_append (hown none) hrest.1, hrest.2⟩

namespace Opens

theorem pure {x : α} : (Pure.pure x : Session α).Opens client [] := by
  refine ensures_pure.mpr ⟨?_, fun _ => rfl, fun _ => rfl⟩
  simp

theorem throw {e : Failure} : (MonadExcept.throw e : Session α).Opens client opened :=
  abandons_throw.opens

theorem note {n : Note} : (Session.note n).Opens client [] := by
  refine ensures_note.mpr ⟨?_, fun _ => rfl, fun _ => rfl⟩
  simp

theorem ofCore {x : Except CoreError α} : (Session.ofCore x).Opens client [] := by
  cases x with
  | ok x => exact Opens.pure
  | error e => exact Opens.throw

theorem ofFault {x : Except Fault α} : (Session.ofFault x).Opens client [] := by
  cases x with
  | ok x => exact Opens.pure
  | error f => exact Opens.throw

theorem ofResult {x : Except Failure α} : (Session.ofResult x).Opens client [] := by
  cases x with
  | ok x => exact Opens.pure
  | error f => exact Opens.throw

theorem ask {r : Request} (hr : r.isClosing = false) :
    (Session.ask client r).Opens client (if r.isOpening then [client] else []) := by
  have hown : ∀ failure, ∀ call ∈ calls [.called ⟨client, r⟩ failure], call.client = client := by
    simp
  refine ensures_ask.mpr ⟨fun answer => ⟨hown none, fun _ => ?_, fun _ => ?_⟩,
    fun e => .of_failure (hown (some e))⟩
  · cases h : r.isOpening <;> simp [openedClients, Happening.opened?, h]
  · simp [closedClients, Happening.closed?, hr]

theorem bind (hs : s.Opens client opened) (hf : ∀ x, (f x).Opens client more) :
    (s >>= f).Opens client (opened ++ more) := by
  refine ensures_bind.mpr (hs.mono fun trace result htrace => ?_)
  cases result with
  | error e => exact .of_failure htrace.own
  | ok x => exact (hf x).mono fun rest _ hrest => htrace.append hrest

theorem mapFailure {g : Failure → Failure} (hs : s.Opens client opened) :
    (s.mapFailure g).Opens client opened := by
  refine ensures_mapFailure.mpr (hs.mono fun trace result htrace => ?_)
  cases result with
  | error e => exact .of_failure htrace.own
  | ok x => exact htrace

/-- A session is tried; what follows its failure fails as well. -/
theorem attempt {f : Except Failure α → Session β} (hs : s.Opens client opened)
    (hok : ∀ x, (f (.ok x)).Opens client more) (herror : ∀ e, (f (.error e)).Abandons client) :
    (s.outcome >>= f).Opens client (opened ++ more) := by
  refine ensures_bind.mpr (ensures_outcome.mpr (hs.mono fun trace result htrace => ?_))
  cases result with
  | ok x => exact (hok x).mono fun rest _ hrest => htrace.append hrest
  | error e =>
    refine (herror e).mono fun rest outcome hrest => ?_
    rw [hrest.2]
    exact .of_failure (forall_calls_append htrace.own hrest.1)

end Opens

end Session

end Polystore
