import Polystore.Proofs.Native.Exchange
import Polystore.Proofs.Success

/-!
# Errors that clients raise

A client raises an error in place of an answer, or behind the documents that it hands over. The last
error that was raised in a session decides how the session ends: the engine watches for some kinds
of errors, and lets the others through. Sessions without such an error end by their own means.

* `Request.isWatched`, `watchedReport`: what an engine watches for, and its report;
* `Request.IsShaped`: the shape of answers;
* `Exchange.raised?`, `lastRaised?`: the errors of exchanges;
* `Reported`: how a session ends that reports the errors of its clients;
* **`Session.Reports`**, with a rule for each way to make a session.
-/

namespace Polystore

/-- Whether an engine watches for the errors of a kind that its client raises. -/
def Request.isWatched : Request → NativeKind → Bool
  | .mongo _ => NativeKind.isDocument
  | .redis _ => NativeKind.isKeyValue
  | _ => fun _ => true

/-- What is reported of an error that nobody watches for. -/
def unwatched (e : NativeError) : Failure := .fault (.native e)

/-- What is reported of an error, where some kinds are watched for. -/
def watchedReport (watched : NativeKind → Bool) (e : NativeError) : Failure :=
  if watched e.kind then .core (.native e.text) else unwatched e

/-- Any failure. -/
def anyFailure (_ : Failure) : Prop := True

/-- No failure at all. -/
def noFailure (_ : Failure) : Prop := False

/-! ## The shape of answers -/

/-- All records are as long as the description of the columns. -/
def RecordSet.IsEven {γ : Type} (r : RecordSet γ) : Prop :=
  ∀ row ∈ r.rows, row.length = r.columns.length

/-- The shape of the answers of a document client. -/
def MongoRequest.IsShaped : (r : MongoRequest) → r.Answer → Prop
  | .find .., stream => ∀ v ∈ DocumentStream.documents stream, ∃ entries, v = .map entries
  | .countDocuments _, count => (Value.asInt? count).isSome = true
  | .collectionNames, names => ∃ items, names = Value.list items
  | _, _ => True

/-- The shape of the answers of a key-value client. -/
def RedisRequest.IsShaped : (r : RedisRequest) → r.Answer → Prop
  | .keys _, listing => ∃ items, listing = Value.list items
  | .typeOf _, word => ∃ name, word = Value.text name
  | .sizeOf .., number => (Value.asInt? number).isSome = true
  | .timeToLive _, seconds => (Value.asInt? seconds).isSome = true
  | _, _ => True

/-- The shape of answers: records are as long as the description of the columns, documents are maps,
listings are lists, types are texts, and numbers are integers. -/
def Request.IsShaped : (r : Request) → r.Answer → Prop
  | .sqlite (.execute _), records => RecordSet.IsEven (γ := String) records
  | .postgres (.prepare _), records => RecordSet.IsEven (γ := Column) records
  | .mysql (.execute ..), records => RecordSet.IsEven (γ := String × Int) records
  | .mongo r, answer => r.IsShaped answer
  | .redis r, answer => r.IsShaped answer
  | _, _ => True

namespace Exchange

/-- The error that a client raised: in place of an answer, or behind the documents. -/
def raised? : Exchange → Option (Request × NativeError)
  | ⟨c, .error e⟩ => some (c.request, e)
  | ⟨⟨_, .mongo (.find name filter)⟩, .ok stream⟩ =>
    (DocumentStream.failure stream).map (.mongo (.find name filter), ·)
  | _ => none

theorem raised?_find {client : Nat} {name : String} {filter : ExtendedJson.Fields}
    {stream : DocumentStream} : raised? ⟨⟨client, .mongo (.find name filter)⟩, .ok stream⟩ =
      stream.failure.map (.mongo (.find name filter), ·) := rfl

theorem request_of_raised? {r : Request} {e : NativeError} (x : Exchange)
    (h : x.raised? = some (r, e)) : x.call.request = r := by
  unfold raised? at h
  split at h
  · cases h
    rfl
  · obtain ⟨e', -, he⟩ := Option.map_eq_some_iff.mp h
    cases he
    rfl
  · cases h

/-- If a client answers, the answer has its shape. -/
def IsShaped (x : Exchange) : Prop :=
  ∀ answer, x.reply = .ok answer → x.call.request.IsShaped answer

end Exchange

/-- The last error that was raised, with the request. -/
def lastRaised? (xs : List Exchange) : Option (Request × NativeError) :=
  (xs.filterMap Exchange.raised?).getLast?

/-! ## The end of a session -/

/-- How a session ends that reports the errors of its clients: all its requests are watched alike;
if an error was raised, the session fails with the report on the last one; if none was, it fails by
its own means; and what it gives is of one kind. -/
structure Reported {α : Type} (watched : NativeKind → Bool) (report : NativeError → Failure)
    (own : Failure → Prop) (P : α → Prop) (xs : List Exchange) (result : Except Failure α) :
    Prop where
  watched : ∀ x ∈ xs, x.call.request.isWatched = watched
  raised : ∀ r e, lastRaised? xs = some (r, e) → result = .error (report e)
  own : lastRaised? xs = none → ∀ f, result = .error f → own f
  gives : ∀ y, result = .ok y → P y

section Lists

variable {xs ys : List Exchange}

/-- The request of the last error is one of those that were made. -/
theorem exists_of_lastRaised? {r : Request} {e : NativeError}
    (h : lastRaised? xs = some (r, e)) : ∃ x ∈ xs, x.call.request = r := by
  obtain ⟨x, hx, hraised⟩ := List.mem_filterMap.mp (List.mem_of_getLast? h)
  exact ⟨x, hx, x.request_of_raised? hraised⟩

@[simp] theorem lastRaised?_nil : lastRaised? [] = none := rfl

theorem lastRaised?_append :
    lastRaised? (xs ++ ys) = (lastRaised? ys).or (lastRaised? xs) := by
  rw [lastRaised?, List.filterMap_append, List.getLast?_append]
  rfl

theorem lastRaised?_eq_none_iff : lastRaised? xs = none ↔ ∀ x ∈ xs, x.raised? = none := by
  rw [lastRaised?, List.getLast?_eq_none_iff, List.filterMap_eq_nil_iff]

theorem lastRaised?_append_of_none (h : lastRaised? xs = none) :
    lastRaised? (xs ++ ys) = lastRaised? ys := by
  rw [lastRaised?_append, h, Option.or_none]

end Lists

namespace Reported

variable {α β : Type} {watched : NativeKind → Bool} {report : NativeError → Failure}
  {own : Failure → Prop} {P : α → Prop} {xs ys : List Exchange}

theorem nil_ok {x : α} (h : P x) : Reported watched report own P [] (.ok x) where
  watched := by simp
  raised _ _ hlast := by rw [lastRaised?_nil] at hlast; cases hlast
  own _ _ hf := by cases hf
  gives _ hy := Except.ok.inj hy ▸ h

theorem nil_error {f : Failure} (h : own f) :
    Reported watched report own P [] (.error f : Except Failure α) where
  watched := by simp
  raised _ _ hlast := by rw [lastRaised?_nil] at hlast; cases hlast
  own _ _ hf := Except.error.inj hf ▸ h
  gives _ hy := by cases hy

theorem of_lastRaised? {r : Request} {e : NativeError}
    (hxs : ∀ x ∈ xs, x.call.request.isWatched = watched) (hlast : lastRaised? xs = some (r, e)) :
    Reported watched report own P xs (.error (report e)) := by
  refine ⟨hxs, fun r' e' h => ?_, fun h => ?_, fun y hy => by cases hy⟩
  · rw [hlast] at h
    cases h
    rfl
  · rw [hlast] at h
    cases h

/-- An error in place of an answer. -/
theorem refused {client : Nat} {r : Request} {e : NativeError} (hw : r.isWatched = watched) :
    Reported watched unwatched own P [⟨⟨client, r⟩, .error e⟩] (.error (unwatched e)) :=
  .of_lastRaised? (by simpa using hw) rfl

/-- An error behind an answer. -/
theorem behind {client : Nat} {r : Request} {answer : r.Answer} {e : NativeError}
    (hw : r.isWatched = watched)
    (hraised : Exchange.raised? ⟨⟨client, r⟩, .ok answer⟩ = some (r, e)) :
    Reported watched unwatched own P [⟨⟨client, r⟩, .ok answer⟩] (.error (unwatched e)) := by
  have hlast : lastRaised? [⟨⟨client, r⟩, .ok answer⟩] = some (r, e) := by
    simp [lastRaised?, hraised]
  exact .of_lastRaised? (by simpa using hw) hlast

/-- An answer without an error behind it. -/
theorem answered {client : Nat} {r : Request} {answer : r.Answer} {x : α}
    (hw : r.isWatched = watched) (hraised : Exchange.raised? ⟨⟨client, r⟩, .ok answer⟩ = none)
    (hx : P x) : Reported watched report own P [⟨⟨client, r⟩, .ok answer⟩] (.ok x) := by
  have hlast : lastRaised? [⟨⟨client, r⟩, .ok answer⟩] = none := by simp [lastRaised?, hraised]
  refine ⟨by simpa using hw, fun r' e' h => ?_, fun _ f hf => (by cases hf),
    fun y hy => Except.ok.inj hy ▸ hx⟩
  rw [hlast] at h
  cases h

/-- Whoever succeeds has met no error. -/
theorem lastRaised?_eq_none {x : α} (h : Reported watched report own P xs (.ok x)) :
    lastRaised? xs = none := by
  cases hlast : lastRaised? xs with
  | none => rfl
  | some re => cases h.raised re.1 re.2 hlast

/-- After exchanges without an error, the rest decides. -/
theorem prepend {Q : β → Prop} {result : Except Failure β}
    (hxs : ∀ x ∈ xs, x.call.request.isWatched = watched) (hnone : lastRaised? xs = none)
    (h : Reported watched report own Q ys result) :
    Reported watched report own Q (xs ++ ys) result := by
  have hlast : lastRaised? (xs ++ ys) = lastRaised? ys := lastRaised?_append_of_none hnone
  refine ⟨fun x hx => ?_, hlast ▸ h.raised, hlast ▸ h.own, h.gives⟩
  exact (List.mem_append.mp hx).elim (hxs x) (h.watched x)

/-- More exchanges without an error change nothing. -/
theorem append {result : Except Failure α} (h : Reported watched report own P xs result)
    (hys : ∀ x ∈ ys, x.call.request.isWatched = watched) (hnone : lastRaised? ys = none) :
    Reported watched report own P (xs ++ ys) result := by
  have hlast : lastRaised? (xs ++ ys) = lastRaised? xs := by
    rw [lastRaised?_append, hnone, Option.none_or]
  refine ⟨fun x hx => ?_, hlast ▸ h.raised, hlast ▸ h.own, h.gives⟩
  exact (List.mem_append.mp hx).elim (h.watched x) (hys x)

/-- A session without own failures has failed because of an error, and whatever was before, this
error is the last one. -/
theorem prepend_error {Q : β → Prop} {e : Failure}
    (hxs : ∀ x ∈ xs, x.call.request.isWatched = watched)
    (h : Reported watched report noFailure P ys (.error e)) :
    Reported watched report own Q (xs ++ ys) (.error e) := by
  cases hys : lastRaised? ys with
  | none => exact (h.own hys e rfl).elim
  | some re =>
    have hlast : lastRaised? (xs ++ ys) = some re := by
      rw [lastRaised?_append, hys, Option.some_or]
    refine ⟨fun x hx => ?_, fun r e' h' => ?_, fun h' => ?_, fun y hy => by cases hy⟩
    · exact (List.mem_append.mp hx).elim (hxs x) (h.watched x)
    · rw [hlast, ← hys] at h'
      simpa using h.raised r e' h'
    · rw [hlast] at h'
      cases h'

end Reported

namespace Session

variable {α β : Type} {watched : NativeKind → Bool} {report : NativeError → Failure}
  {own : Failure → Prop} {P : α → Prop} {Q : β → Prop} {s : Session α} {f : α → Session β}

/-- As long as answers have their shape, a session reports the errors of its clients. -/
def Reports (watched : NativeKind → Bool) (report : NativeError → Failure) (own : Failure → Prop)
    (P : α → Prop) (s : Session α) : Prop :=
  s.Meets fun xs result => (∀ x ∈ xs, x.IsShaped) → Reported watched report own P xs result

namespace Reports

theorem pure {x : α} (h : P x) : (Pure.pure x : Session α).Reports watched report own P :=
  fun _ => .nil_ok h

theorem throw {e : Failure} (h : own e) :
    (MonadExcept.throw e : Session α).Reports watched report own P :=
  fun _ => .nil_error h

theorem ofCore {x : Except CoreError α} (hok : ∀ y, x = .ok y → P y)
    (herror : ∀ e, x = .error e → own (.core e)) :
    (Session.ofCore x).Reports watched report own P := by
  cases x with
  | ok y => exact Reports.pure (hok y rfl)
  | error e => exact Reports.throw (herror e rfl)

theorem ofFault {x : Except Fault α} (hok : ∀ y, x = .ok y → P y)
    (herror : ∀ f, x = .error f → own (.fault f)) :
    (Session.ofFault x).Reports watched report own P := by
  cases x with
  | ok y => exact Reports.pure (hok y rfl)
  | error f => exact Reports.throw (herror f rfl)

/-- An error in place of an answer is handed on as it is. -/
theorem ask {client : Nat} {r : Request} {P : r.Answer → Prop} (hw : r.isWatched = watched)
    (hraised : ∀ answer, Exchange.raised? ⟨⟨client, r⟩, .ok answer⟩ = none)
    (hP : ∀ answer, r.IsShaped answer → P answer) :
    (Session.ask client r).Reports watched unwatched own P := by
  refine meets_ask.mpr ⟨fun answer hshaped => ?_, fun e _ => .refused hw⟩
  exact .answered hw (hraised answer) (hP answer (hshaped _ List.mem_cons_self answer rfl))

theorem bind (hs : s.Reports watched report own P)
    (hf : ∀ x, P x → (f x).Reports watched report own Q) :
    (s >>= f).Reports watched report own Q := by
  refine meets_bind.mpr (hs.mono fun xs result hresult => ?_)
  cases result with
  | error e =>
    intro hshaped
    obtain ⟨hwatched, hraised, hown, -⟩ := hresult hshaped
    exact ⟨hwatched, fun r e' h => by simpa using hraised r e' h,
      fun h f hf => hown h f (by simpa using hf), nofun⟩
  | ok x =>
    by_cases hshaped : ∀ x ∈ xs, x.IsShaped
    · have hx := hresult hshaped
      refine (hf x (hx.gives x rfl)).mono fun ys result hys hall => ?_
      exact (hys fun y hy => hall y (List.mem_append_right _ hy)).prepend hx.watched
        hx.lastRaised?_eq_none
    · refine Dialogue.meets_of_forall fun ys result hall => absurd ?_ hshaped
      exact fun y hy => hall y (List.mem_append_left _ hy)

/-- With an answer, a session goes on, unless there is an error behind it that is handed on. -/
theorem ask_bind {client : Nat} {r : Request} {f : r.Answer → Session β}
    (hw : r.isWatched = watched)
    (hf : ∀ answer, r.IsShaped answer →
      (Exchange.raised? ⟨⟨client, r⟩, .ok answer⟩ = none ∧
        (f answer).Reports watched unwatched own Q) ∨
      ∃ e, Exchange.raised? ⟨⟨client, r⟩, .ok answer⟩ = some (r, e) ∧
        f answer = MonadExcept.throw (unwatched e)) :
    (Session.ask client r >>= f).Reports watched unwatched own Q := by
  refine meets_bind.mpr (meets_ask.mpr ⟨fun answer => ?_, fun e _ => .refused hw⟩)
  by_cases hshaped : r.IsShaped answer
  · obtain ⟨hnone, hreports⟩ | ⟨e, hraised, hthrow⟩ := hf answer hshaped
    · refine hreports.mono fun ys result hys hall => ?_
      refine (hys fun y hy => hall y (List.mem_append_right _ hy)).prepend (by simpa using hw) ?_
      simp [lastRaised?, hnone]
    · change (f answer).Meets _
      rw [hthrow]
      exact fun _ => .behind hw hraised
  · refine Dialogue.meets_of_forall fun ys result hall => absurd ?_ hshaped
    exact hall _ (List.mem_append_left _ List.mem_cons_self) answer rfl

theorem mapFailure {g : Failure → Failure} {report' : NativeError → Failure}
    {own' : Failure → Prop} (hs : s.Reports watched report own P)
    (hreport : ∀ e, g (report e) = report' e) (hown : ∀ f, own f → own' (g f)) :
    (s.mapFailure g).Reports watched report' own' P := by
  refine meets_mapFailure.mpr (hs.mono fun xs result hresult hshaped => ?_)
  obtain ⟨hwatched, hraised, hown', hgives⟩ := hresult hshaped
  refine ⟨hwatched, fun r e h => ?_, fun h f hf => ?_, fun y hy => ?_⟩
  · rw [hraised r e h]
    exact congrArg _ (hreport e)
  · cases result with
    | ok x => cases hf
    | error e =>
      cases hf
      exact hown e (hown' h e rfl)
  · cases result with
    | ok x => exact hgives y hy
    | error e => cases hy

/-- The failure of what is done at the end counts; it has no failures of its own. -/
theorem atEnd {cleanup : Session Unit} (hs : s.Reports watched report own P)
    (hc : cleanup.Reports watched report noFailure fun _ => True) :
    (s.atEnd cleanup).Reports watched report own P := by
  refine meets_atEnd.mpr (hs.mono fun xs result hresult => hc.mono fun ys ended hended hall => ?_)
  obtain ⟨hxs, hys⟩ := List.forall_mem_append.mp hall
  have hx := hresult hxs
  have hy := hended hys
  cases ended with
  | error e => exact hy.prepend_error hx.watched
  | ok u => exact hx.append hy.watched hy.lastRaised?_eq_none

theorem mapM {l : List α} {f : α → Session β}
    (hf : ∀ x ∈ l, (f x).Reports watched report own Q) :
    (l.mapM f).Reports watched report own fun _ => True := by
  induction l with
  | nil => exact Reports.pure trivial
  | cons x l ih =>
    rw [List.mapM_cons]
    have hrest := ih fun y hy => hf y (List.mem_cons_of_mem _ hy)
    exact (hf x List.mem_cons_self).bind fun y _ => hrest.bind fun ys _ => Reports.pure trivial

end Reports

end Session

end Polystore
