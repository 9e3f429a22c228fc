import Polystore.Proofs.Hub.Run

/-!
# What the hub remembers

The history of the hub has one entry for every query that returned or failed with a core error, the
newest first, up to its capacity. A query that ends in a fault leaves no entry, and neither does any
other action.

* `QueryRecord`, `Step.record?`: what a step leaves in the history;
* `Step.Remembers`: what a step does to the history;
* **`Hub.ensures_act_remembers`**: every action does that, also in a hub that is not at rest;
* **`Hub.history_tells`**: the history after every step of every run.
-/

namespace Polystore

/-! ## Records -/

/-- What the history tells about a query, apart from the time that it took. -/
structure QueryRecord where
  connection : String
  command : String
  success : Bool
  error : Option String
deriving DecidableEq, Repr

def HistoryEntry.toRecord (e : HistoryEntry) : QueryRecord :=
  ⟨e.connection, e.command, e.success, e.error⟩

/-- What a history tells, newest first. -/
def History.records (h : History) : List QueryRecord := (h.entries none).map HistoryEntry.toRecord

/-- What is kept of a step: the identifier and the text of a query, whether it returned, and the
message of its error. -/
def Step.record? : Step → Option QueryRecord
  | ⟨_, .query id text, .ok _, _, _⟩ => some ⟨id, text, true, none⟩
  | ⟨_, .query id text, .error (.core e), _, _⟩ => some ⟨id, text, false, some e.message⟩
  | _ => none

theorem History.records_record (h : History) (e : HistoryEntry) :
    (h.record e).records = (e.toRecord :: h.records).take h.capacity := by
  simp only [records, entries, record, List.map_take, List.map_cons]

theorem History.take_records (h : History) : h.records.take h.capacity = h.records := by
  refine List.take_of_length_le ?_
  rw [records, List.length_map]
  exact h.bounded

/-! ## Steps -/

/-- What a step does to the history: it keeps the capacity, puts what is kept of the step in front,
and leaves the history alone if that is nothing. -/
structure Step.Remembers (s : Step) : Prop where
  capacity : s.after.history.capacity = s.before.history.capacity
  records : s.after.history.records =
    (s.record?.toList ++ s.before.history.records).take s.before.history.capacity
  unchanged : s.record? = none → s.after.history = s.before.history

theorem Step.Remembers.of_unchanged {s : Step} (hnone : s.record? = none)
    (h : s.after.history = s.before.history) : s.Remembers := by
  refine ⟨by rw [h], ?_, fun _ => h⟩
  rw [hnone, h]
  exact (History.take_records _).symm

theorem Step.Remembers.of_recorded {s : Step} {e : HistoryEntry}
    (hsome : s.record? = some e.toRecord) (h : s.after.history = s.before.history.record e) :
    s.Remembers := by
  refine ⟨by rw [h]; rfl, ?_, fun hnone => ?_⟩
  · rw [hsome, h]
    exact History.records_record _ e
  · rw [hsome] at hnone
    cases hnone

namespace Hub

variable {h : Hub} {id : String}

theorem ensures_withConnection_history {α : Type} {body : Connection → Session α} :
    (withConnection id body h).Ensures fun _ r => r.2.history = h.history := by
  unfold withConnection
  split
  · exact Dialogue.ensures_bind.mpr (Dialogue.ensures_of_forall fun _ _ => rfl)
  · rfl

theorem ensures_connect_history (d : Descriptor) :
    (connect d h).Ensures fun _ r => r.2.history = h.history := by
  refine Dialogue.ensures_bind.mpr (Dialogue.ensures_of_forall fun _ opened => ?_)
  cases opened with
  | error f => rfl
  | ok c =>
    exact Dialogue.ensures_noting.mpr
      (Dialogue.ensures_bind.mpr (Dialogue.ensures_of_forall fun _ _ => rfl))

/-- **Every action puts what is kept of it in front of the history.** -/
theorem ensures_act_remembers (a : Action) (h : Hub) : (act a h).Ensures fun trace r =>
    Step.Remembers ⟨h, a, r.1, trace, r.2⟩ := by
  have hsession : ∀ {α : Type} {id : String} {body : Connection → Session α},
      (withConnection id body h).Ensures fun _ r => r.2.history = h.history :=
    ensures_withConnection_history
  cases a with
  | query id text =>
    refine Dialogue.ensures_bind.mpr (hsession.mono ?_)
    rintro trace ⟨result, h'⟩ (hsame : h'.history = h.history)
    have hkept : ∀ error, (h'.remember id text error).history =
        h.history.record ⟨id, text, 0, error⟩ := fun error => by rw [remember, hsame]
    cases result with
    | ok table => exact .of_recorded rfl (hkept none)
    | error f =>
      cases f with
      | core e => exact .of_recorded rfl (hkept (some e.message))
      | fault f => exact .of_unchanged rfl hsame
  | connect d => exact (ensures_connect_history d).mono fun _ _ hsame => .of_unchanged rfl hsame
  | disconnect id =>
    exact Dialogue.ensures_bind.mpr (Dialogue.ensures_of_forall fun _ _ => .of_unchanged rfl rfl)
  | closeAll =>
    exact Dialogue.ensures_bind.mpr (Dialogue.ensures_of_forall fun _ _ => .of_unchanged rfl rfl)
  | schema id => exact hsession.mono fun _ _ hsame => .of_unchanged rfl hsame
  | define id text => exact hsession.mono fun _ _ hsame => .of_unchanged rfl hsame
  | readKey id key => exact hsession.mono fun _ _ hsame => .of_unchanged rfl hsame
  | listKeys id pattern => exact hsession.mono fun _ _ hsame => .of_unchanged rfl hsame

end Hub

/-! ## Runs -/

/-- A history of a capacity tells what is kept of some steps, the latest first, before what it told
at the start. -/
structure History.Tells (h : History) (capacity : Nat) (start : List QueryRecord)
    (steps : List Step) : Prop where
  capacity_eq : h.capacity = capacity
  records_eq : h.records = ((steps.filterMap Step.record?).reverse ++ start).take capacity

namespace History.Tells

variable {h : History} {capacity : Nat} {start : List QueryRecord} {past : List Step} {s : Step}

theorem take_append_take {α : Type} (n : Nat) (l l' : List α) :
    (l ++ l'.take n).take n = (l ++ l').take n := by
  rw [List.take_append, List.take_append, List.take_take, Nat.min_eq_left (Nat.sub_le _ _)]

theorem concat (ht : s.before.history.Tells capacity start past) (hs : s.Remembers) :
    s.after.history.Tells capacity start (past ++ [s]) := by
  refine ⟨hs.capacity.trans ht.capacity_eq, ?_⟩
  have hkept : ((past ++ [s]).filterMap Step.record?).reverse =
      s.record?.toList ++ (past.filterMap Step.record?).reverse := by
    rw [List.filterMap_append, List.reverse_append]
    cases hr : s.record? <;> simp [hr]
  calc s.after.history.records
    _ = (s.record?.toList ++ s.before.history.records).take capacity := by
      rw [hs.records, ht.capacity_eq]
    _ = (s.record?.toList ++ ((past.filterMap Step.record?).reverse ++ start)).take capacity := by
      rw [ht.records_eq, take_append_take]
    _ = (((past ++ [s]).filterMap Step.record?).reverse ++ start).take capacity := by
      rw [hkept, List.append_assoc]

end History.Tells

namespace Hub

variable {σ : Type} {responder : Responder σ} {state : σ} {settings : Settings} {h : Hub}
  {actions : List Action} {past rest : List Step} {s : Step}

/-- The history after a step of a run of any hub. -/
theorem run_remembers (hrun : run responder state h actions = past ++ s :: rest) :
    s.Remembers ∧
      s.after.history.Tells h.history.capacity h.history.records (past ++ [s]) := by
  let P : List Step → Hub → Prop := fun steps h' =>
    h'.history.Tells h.history.capacity h.history.records steps
  have hstart : P [] h := ⟨rfl, (History.take_records _).symm⟩
  refine run_rule (Q := fun past s => s.Remembers ∧ P (past ++ [s]) s.after)
    (fun past h' a ht => ?_) hstart hrun
  exact (ensures_act_remembers a h').mono fun trace r hs => ⟨⟨hs, ht.concat hs⟩, ht.concat hs⟩

/-- **The history tells the latest queries that returned or failed with a core error**, one by one,
whatever the clients reply; nothing else is in it. -/
theorem history_tells (responder : Responder σ) (state : σ)
    (hstart : start settings none = .ok h)
    (hrun : run responder state h actions = past ++ s :: rest) :
    (s.after.history.entries none).map HistoryEntry.toRecord =
        (((past ++ [s]).filterMap Step.record?).reverse).take settings.historySize ∧
      (s.record? = none → s.after.history = s.before.history) := by
  obtain ⟨-, rfl⟩ := start_none_eq_ok_iff.mp hstart
  obtain ⟨hs, htells⟩ := run_remembers hrun
  refine ⟨?_, hs.unchanged⟩
  have hrecords := htells.records_eq
  rwa [show (History.empty settings.historySize).records = [] from rfl, List.append_nil] at hrecords

/-- Key-value clients that answer commands of one word only. -/
def terse : Responder Unit where
  reply state c :=
    match c with
    | ⟨_, .redis (.client _)⟩ => (.ok (), state)
    | ⟨_, .redis .ping⟩ => (.ok (.bool true), state)
    | ⟨_, .redis (.command [_])⟩ => (.ok (.text "done"), state)
    | _ => (.error ⟨.system, "no answer"⟩, state)

/-- Of three entries, the oldest one is dropped; a query that ends in a fault has none. -/
theorem history_tells_two :
    let d : Descriptor := ⟨"a", "", "redis", "", some 6379, "", "", none, false⟩
    let actions := [.connect d, .query "a" "TIME", .query "a" "", .query "a" "GET k",
      .query "b" "TIME"]
    ∃ h past s, start { Settings.default with historySize := 2 } none = .ok h ∧
      run terse () h actions = past ++ [s] ∧
      (s.after.history.entries none).map HistoryEntry.toRecord =
        [⟨"b", "TIME", false, some "Not connected"⟩, ⟨"a", "", false, some "Empty command"⟩] := by
  intro d actions
  have hstart : start { Settings.default with historySize := 2 } none =
      .ok ⟨{ Settings.default with historySize := 2 }, .empty, .empty 2, 0⟩ := rfl
  refine ⟨_, [_, _, _, _], _, hstart, rfl, ?_⟩
  refine (history_tells terse () hstart
    (show run terse () _ actions = [_, _, _, _] ++ [_] from rfl)).1.trans ?_
  decide +kernel

end Hub

end Polystore
