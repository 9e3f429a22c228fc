import Polystore.Proofs.Native.Ensures

/-!
# What clients reply

A trace tells which calls were made and which of them failed. What is said about the answers is said
of the *exchanges* of a dialogue: its calls with their replies, in order.

* `Exchange`, `Dialogue.exchanges`;
* `Dialogue.Meets`, **`Dialogue.Meets.run`**: what holds of the exchanges and the result of every
  course of a dialogue holds of every run;
* `Session.Meets`, with a rule for each way to make a session;
* **`Session.Yields`**: results of one kind, as long as the exchanges are of one kind; with rules;
* **`Session.Succeeds`**: what a session gives if no client raises an error; with rules.
-/

namespace Polystore

/-- A call with the reply of its client. -/
structure Exchange where
  call : Call
  reply : call.Reply

namespace Dialogue

variable {α β σ : Type} {d : Dialogue α} {f : α → Dialogue β}

/-- The exchanges of a dialogue that is run against a responder. -/
def exchanges (responder : Responder σ) (state : σ) : Dialogue α → List Exchange
  | done _ => []
  | ask c next =>
    let (reply, state) := responder.reply state c
    ⟨c, reply⟩ :: exchanges responder state (next reply)
  | note _ next => exchanges responder state next

/-- Whatever the clients reply, something holds of the exchanges and the result. -/
def Meets : Dialogue α → (List Exchange → α → Prop) → Prop
  | done x, Q => Q [] x
  | ask c next, Q => ∀ reply : c.Reply, (next reply).Meets fun xs x => Q (⟨c, reply⟩ :: xs) x
  | note _ next, Q => next.Meets Q

theorem Meets.mono {Q Q' : List Exchange → α → Prop} (h : d.Meets Q)
    (hQ : ∀ xs x, Q xs x → Q' xs x) : d.Meets Q' := by
  induction d generalizing Q Q' with
  | done x => exact hQ _ _ h
  | ask c next ih => exact fun reply => ih reply (h reply) fun _ _ => hQ _ _
  | note n next ih => exact ih h hQ

theorem Meets.and {Q Q' : List Exchange → α → Prop} (h : d.Meets Q) (h' : d.Meets Q') :
    d.Meets fun xs x => Q xs x ∧ Q' xs x := by
  induction d generalizing Q Q' with
  | done x => exact ⟨h, h'⟩
  | ask c next ih => exact fun reply => ih reply (h reply) (h' reply)
  | note n next ih => exact ih h h'

theorem meets_of_forall {Q : List Exchange → α → Prop} (h : ∀ xs x, Q xs x) : d.Meets Q := by
  induction d generalizing Q with
  | done x => exact h [] x
  | ask c next ih => exact fun reply => ih reply fun xs x => h _ x
  | note n next ih => exact ih h

/-- **What a dialogue meets holds of its runs.** -/
theorem Meets.run {Q : List Exchange → α → Prop} (h : d.Meets Q) (responder : Responder σ)
    (state : σ) : Q (d.exchanges responder state) (d.run responder state).result := by
  induction d generalizing Q state with
  | done x => exact h
  | ask c next ih => exact ih _ (h _) _
  | note n next ih => exact ih h _

/-- What holds of every reply of a responder holds of all exchanges with it. -/
theorem forall_exchanges {P : Exchange → Prop} {responder : Responder σ}
    (h : ∀ state c, P ⟨c, (responder.reply state c).1⟩) (d : Dialogue α) (state : σ) :
    ∀ x ∈ d.exchanges responder state, P x := by
  induction d generalizing state with
  | done x => simp [exchanges]
  | ask c next ih => exact List.forall_mem_cons.mpr ⟨h state c, ih _ _⟩
  | note n next ih => exact ih state

@[simp] theorem meets_pure {x : α} {Q : List Exchange → α → Prop} :
    (pure x : Dialogue α).Meets Q ↔ Q [] x := Iff.rfl

@[simp] theorem meets_log {n : Note} {Q : List Exchange → Unit → Prop} :
    (log n).Meets Q ↔ Q [] () := Iff.rfl

theorem meets_bind {Q : List Exchange → β → Prop} : (d >>= f).Meets Q ↔
    d.Meets fun xs x => (f x).Meets fun ys y => Q (xs ++ ys) y := by
  change (d.bind f).Meets Q ↔ _
  induction d generalizing Q with
  | done x => rfl
  | ask c next ih => exact forall_congr' fun reply => ih reply
  | note n next ih => exact ih

end Dialogue

namespace Session

variable {α β : Type} {s : Session α} {f : α → Session β}

/-- Whatever the clients reply, something holds of the exchanges and the outcome of a session. -/
def Meets (s : Session α) (Q : List Exchange → Except Failure α → Prop) : Prop :=
  Dialogue.Meets s.run Q

theorem Meets.mono {Q Q' : List Exchange → Except Failure α → Prop} (h : s.Meets Q)
    (hQ : ∀ xs result, Q xs result → Q' xs result) : s.Meets Q' :=
  Dialogue.Meets.mono h hQ

section Rules

variable {Q : List Exchange → Except Failure α → Prop}

@[simp] theorem meets_pure {x : α} : (pure x : Session α).Meets Q ↔ Q [] (.ok x) := Iff.rfl

@[simp] theorem meets_throw {e : Failure} : (throw e : Session α).Meets Q ↔ Q [] (.error e) :=
  Iff.rfl

theorem meets_bind {Q : List Exchange → Except Failure β → Prop} :
    (s >>= f).Meets Q ↔ s.Meets fun xs result =>
      match result with
      | .ok x => (f x).Meets fun ys result => Q (xs ++ ys) result
      | .error e => Q xs (.error e) := by
  refine Dialogue.meets_bind.trans ⟨fun h => h.mono fun xs result hr => ?_,
    fun h => h.mono fun xs result hr => ?_⟩
  · cases result with
    | ok x => exact hr
    | error e => simpa using (show Q (xs ++ []) (.error e) from hr)
  · cases result with
    | ok x => exact hr
    | error e => exact (show Q (xs ++ []) (.error e) by simpa using hr)

theorem meets_ask {client : Nat} {r : Request}
    {Q : List Exchange → Except Failure r.Answer → Prop} :
    (ask client r).Meets Q ↔ (∀ answer, Q [⟨⟨client, r⟩, .ok answer⟩] (.ok answer)) ∧
      ∀ e, Q [⟨⟨client, r⟩, .error e⟩] (.error (.fault (.native e))) := by
  constructor
  · exact fun h => ⟨fun answer => h (.ok answer), fun e => h (.error e)⟩
  · rintro ⟨hok, herror⟩ (e | answer)
    · exact herror e
    · exact hok answer

theorem meets_outcome {Q : List Exchange → Except Failure (Except Failure α) → Prop} :
    (outcome s).Meets Q ↔ s.Meets fun xs result => Q xs (.ok result) := by
  refine Dialogue.meets_bind.trans ⟨fun h => h.mono fun xs result hr => ?_,
    fun h => h.mono fun xs result hr => ?_⟩
  · simpa using (show Q (xs ++ []) (.ok result) from hr)
  · exact (show Q (xs ++ []) (.ok result) by simpa using hr)

theorem meets_mapFailure {g : Failure → Failure} : (mapFailure g s).Meets Q ↔
    s.Meets fun xs result => Q xs (result.mapError g) := by
  refine Dialogue.meets_bind.trans ⟨fun h => h.mono fun xs result hr => ?_,
    fun h => h.mono fun xs result hr => ?_⟩
  · simpa using (show Q (xs ++ []) (result.mapError g) from hr)
  · exact (show Q (xs ++ []) (result.mapError g) by simpa using hr)

theorem meets_ofFault {x : Except Fault α} :
    (ofFault x).Meets Q ↔ Q [] (x.mapError .fault) := by
  cases x <;> rfl

/-- What is done at the end is done in any case; its failure counts first. -/
theorem meets_atEnd {cleanup : Session Unit} : (s.atEnd cleanup).Meets Q ↔
    s.Meets fun xs result => cleanup.Meets fun ys ended =>
      Q (xs ++ ys) (ended.bind fun _ => result) := by
  refine meets_bind.trans (meets_outcome.trans ?_)
  refine ⟨fun h => h.mono fun xs result hr => ?_, fun h => h.mono fun xs result hr => ?_⟩
  · refine (meets_bind.mp hr).mono fun ys ended hys => ?_
    cases ended with
    | error e => exact hys
    | ok u => cases result <;> simpa [Except.bind] using hys
  · refine meets_bind.mpr (hr.mono fun ys ended hys => ?_)
    cases ended with
    | error e => exact hys
    | ok u => cases result <;> simpa [Except.bind] using hys

end Rules

/-! ## Results of one kind -/

/-- As long as the exchanges are of one kind, what a session gives is of one kind. -/
def Yields (C : Exchange → Prop) (P : α → Prop) (s : Session α) : Prop :=
  s.Meets fun xs result => (∀ x ∈ xs, C x) → ∀ y, result = .ok y → P y

namespace Yields

variable {C : Exchange → Prop} {P : α → Prop} {Q : β → Prop}

theorem of_forall (h : ∀ x, P x) : s.Yields C P :=
  Dialogue.meets_of_forall fun _ _ _ y _ => h y

theorem pure {x : α} (h : P x) : (Pure.pure x : Session α).Yields C P :=
  fun _ _ hy => Except.ok.inj hy ▸ h

theorem throw {e : Failure} : (MonadExcept.throw e : Session α).Yields C P :=
  fun _ _ hy => nomatch hy

theorem ofFault {x : Except Fault α} (h : ∀ y, x = .ok y → P y) :
    (Session.ofFault x).Yields C P := by
  cases x with
  | ok y => exact Yields.pure (h y rfl)
  | error f => exact Yields.throw

theorem ask {client : Nat} {r : Request} {P : r.Answer → Prop}
    (h : ∀ answer, C ⟨⟨client, r⟩, .ok answer⟩ → P answer) :
    (Session.ask client r).Yields C P := by
  refine meets_ask.mpr ⟨fun answer hall y hy => ?_, fun e _ y hy => nomatch hy⟩
  exact Except.ok.inj hy ▸ h answer (hall _ List.mem_cons_self)

theorem bind (hs : s.Yields C P) (hf : ∀ x, P x → (f x).Yields C Q) : (s >>= f).Yields C Q := by
  refine meets_bind.mpr (hs.mono fun xs result hresult => ?_)
  cases result with
  | error e => exact fun _ y hy => nomatch hy
  | ok x =>
    by_cases hxs : ∀ x ∈ xs, C x
    · refine (hf x (hresult hxs x rfl)).mono fun ys result hys hall => hys fun y hy => ?_
      exact hall y (List.mem_append_right _ hy)
    · refine Dialogue.meets_of_forall fun ys result hall => absurd (fun x hx => ?_) hxs
      exact hall x (List.mem_append_left _ hx)

theorem mapFailure {g : Failure → Failure} (hs : s.Yields C P) : (s.mapFailure g).Yields C P := by
  refine meets_mapFailure.mpr (hs.mono fun xs result hresult hall y hy => hresult hall y ?_)
  cases result with
  | ok x => exact hy
  | error e => cases hy

end Yields

/-! ## Results without errors -/

/-- If no client raises an error, a session gives a result, and something holds of the exchanges and
the result. -/
def Succeeds (Q : List Exchange → α → Prop) (s : Session α) : Prop :=
  s.Meets fun xs result => (∀ x ∈ xs, x.reply.isOk = true) → ∃ y, result = .ok y ∧ Q xs y

namespace Succeeds

variable {Q : List Exchange → α → Prop} {R : List Exchange → β → Prop}

theorem pure {x : α} (h : Q [] x) : (Pure.pure x : Session α).Succeeds Q := fun _ => ⟨x, rfl, h⟩

theorem ask {client : Nat} {r : Request} {Q : List Exchange → r.Answer → Prop}
    (h : ∀ answer, Q [⟨⟨client, r⟩, .ok answer⟩] answer) : (Session.ask client r).Succeeds Q :=
  meets_ask.mpr ⟨fun answer _ => ⟨answer, rfl, h answer⟩, fun _ hall =>
    nomatch hall _ List.mem_cons_self⟩

theorem bind (hs : s.Succeeds Q)
    (hf : ∀ xs x, Q xs x → (f x).Succeeds fun ys y => R (xs ++ ys) y) : (s >>= f).Succeeds R := by
  refine meets_bind.mpr (hs.mono fun xs result hresult => ?_)
  cases result with
  | error e => exact fun hall => nomatch hresult hall
  | ok x =>
    by_cases hxs : ∀ x ∈ xs, x.reply.isOk = true
    · obtain ⟨_, ⟨⟩, hx⟩ := hresult hxs
      exact (hf xs x hx).mono fun ys result hys hall => hys fun y hy =>
        hall y (List.mem_append_right _ hy)
    · refine Dialogue.meets_of_forall fun ys result hall => absurd (fun x hx => ?_) hxs
      exact hall x (List.mem_append_left _ hx)

theorem mapFailure {g : Failure → Failure} (hs : s.Succeeds Q) : (s.mapFailure g).Succeeds Q := by
  refine meets_mapFailure.mpr (hs.mono fun xs result hresult hall => ?_)
  obtain ⟨y, rfl, hy⟩ := hresult hall
  exact ⟨y, rfl, hy⟩

/-- A session is followed by another one in any case. -/
theorem atEnd {cleanup : Session Unit} {C : List Exchange → Unit → Prop}
    {R : List Exchange → α → Prop} (hs : s.Succeeds Q) (hc : cleanup.Succeeds C)
    (hR : ∀ xs ys y, Q xs y → C ys () → R (xs ++ ys) y) : (s.atEnd cleanup).Succeeds R := by
  refine meets_atEnd.mpr (hs.mono fun xs result hresult => hc.mono fun ys ended hended hall => ?_)
  obtain ⟨hxs, hys⟩ := List.forall_mem_append.mp hall
  obtain ⟨y, rfl, hy⟩ := hresult hxs
  obtain ⟨u, rfl, hu⟩ := hended hys
  exact ⟨y, rfl, hR xs ys y hy hu⟩

end Succeeds

end Session

end Polystore
