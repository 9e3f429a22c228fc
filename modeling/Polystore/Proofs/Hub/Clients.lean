import Polystore.Proofs.Hub.Run
import Polystore.Proofs.Hub.Tasks

/-!
# The clients of the hub

The hub is a plain map from identifiers to clients. A connect that succeeds opens a client and puts
it under an identifier; a command calls the client under its identifier; what is taken off the map
is closed, once and not before. What fails leaves the map alone and closes none of its clients.

* `liveClients`, `openedBy`, `closedBy`: the plain map and its books, read off the steps of a run;
* `Account`: every opened client is on the map and not closed, or off the map and closed once;
* `Step.Behaves`: what an action calls, against the plain map before it;
* `Hub.ensures_act`: what every action calls and preserves;
* `Refines`, **`Hub.run_refines`**: every step of every run is one of the plain map.
-/

namespace Polystore

/-! ## The plain map -/

/-- The identifier of a command, which uses a connection. -/
def Action.target? : Action → Option String
  | .query id _ | .schema id | .define id _ | .readKey id _ | .listKeys id _ => some id
  | _ => none

/-- The client that a connect opened, if it succeeded. -/
def Step.opened? (s : Step) : Option Nat :=
  match s.action with
  | .connect _ => if s.result.isOk then (openedClients s.trace).head? else none
  | _ => none

/-- What a step changes in the plain map. -/
def Step.update (m : OrderedMap String Nat) (s : Step) : OrderedMap String Nat :=
  match s.action with
  | .connect d =>
    match s.opened? with
    | some n => OrderedMap.insert m d.id n
    | none => m
  | .disconnect id => OrderedMap.erase m id
  | .closeAll => []
  | _ => m

/-- The live clients behind some steps: under an identifier, the client that the latest successful
connect opened, unless it was taken off since. -/
def liveClients (steps : List Step) : OrderedMap String Nat := steps.foldl Step.update []

/-- The clients that successful connects opened. -/
def openedBy (steps : List Step) : List Nat := steps.filterMap Step.opened?

/-- The clients that were called to close, each as often as it was. -/
def closedBy (steps : List Step) : List Nat := steps.flatMap fun s => closedClients s.trace

variable {past : List Step} {s : Step} {m : OrderedMap String Nat} {opened closed : List Nat}
  {next : Nat} {id : String} {d : Descriptor}

theorem Step.opened?_of_failure (hfail : s.result.isOk = false) : s.opened? = none := by
  unfold Step.opened?
  split
  · exact if_neg (by simp [hfail])
  · rfl

theorem Step.opened?_of_target (ha : s.action.target? = some id) : s.opened? = none := by
  obtain ⟨before, a, result, trace, after⟩ := s
  cases a <;> first | rfl | cases ha

theorem Step.update_of_target (ha : s.action.target? = some id) : s.update m = m := by
  obtain ⟨before, a, result, trace, after⟩ := s
  cases a <;> first | rfl | cases ha

theorem Step.update_of_connect (ha : s.action = .connect d) :
    s.update m = (s.opened?.map (OrderedMap.insert m d.id)).getD m := by
  unfold Step.update
  rw [ha]
  cases s.opened? <;> rfl

theorem liveClients_concat : liveClients (past ++ [s]) = s.update (liveClients past) := by
  simp [liveClients]

theorem openedBy_concat : openedBy (past ++ [s]) = openedBy past ++ s.opened?.toList := by
  rw [openedBy, List.filterMap_append]
  cases h : s.opened? <;> simp [openedBy, h]

theorem closedBy_concat : closedBy (past ++ [s]) = closedBy past ++ closedClients s.trace := by
  simp [closedBy]

/-! ## The books -/

/-- Where a client is that was opened: on the map and not called to close, or off the map and
called to close once. -/
def Settled (m : OrderedMap String Nat) (closed : List Nat) (n : Nat) : Prop :=
  ((∃ id, OrderedMap.get? m id = some n) ∧ closed.count n = 0) ∨
    ((∀ id, OrderedMap.get? m id ≠ some n) ∧ closed.count n = 1)

/-- The clients on the map, those that were opened and those that were called to close; the next
client is new. -/
structure Account (m : OrderedMap String Nat) (opened closed : List Nat) (next : Nat) : Prop where
  keys_nodup : (OrderedMap.keys m).Nodup
  opened_lt : ∀ n ∈ opened, n < next
  closed_lt : ∀ n ∈ closed, n < next
  live : ∀ id n, OrderedMap.get? m id = some n → n ∈ opened
  injective : ∀ i j n, OrderedMap.get? m i = some n → OrderedMap.get? m j = some n → i = j
  opened_nodup : opened.Nodup
  settled : ∀ n ∈ opened, Settled m closed n

theorem count_append_of_notMem {n : Nat} {l : List Nat} (h : n ∉ l) :
    (closed ++ l).count n = closed.count n := by
  rw [List.count_append, List.count_eq_zero_of_not_mem h, Nat.add_zero]

namespace Account

theorem start : Account [] [] [] 0 := by
  constructor <;> simp [OrderedMap.keys]

/-- A client that was not opened for good may be called to close. -/
theorem fail (h : Account m opened closed next) {l : List Nat} (hl : ∀ n ∈ l, n = next) :
    Account m opened (closed ++ l) (next + 1) where
  keys_nodup := h.keys_nodup
  opened_lt n hn := Nat.lt_succ_of_lt (h.opened_lt n hn)
  closed_lt n hn := by
    rcases List.mem_append.mp hn with hn | hn
    · exact Nat.lt_succ_of_lt (h.closed_lt n hn)
    · exact hl n hn ▸ Nat.lt_succ_self next
  live := h.live
  injective := h.injective
  opened_nodup := h.opened_nodup
  settled n hn := by
    have hne : n ∉ l := fun hm => Nat.lt_irrefl _ (hl n hm ▸ h.opened_lt n hn)
    rw [Settled, count_append_of_notMem hne]
    exact h.settled n hn

/-- A client that is taken off the map is called to close. -/
theorem retire (h : Account m opened closed next) (id : String) :
    Account (OrderedMap.erase m id) opened (closed ++ (OrderedMap.get? m id).toList) next := by
  have hsub : ∀ i n, OrderedMap.get? (OrderedMap.erase m id) i = some n →
      id ≠ i ∧ OrderedMap.get? m i = some n := by
    intro i n hi
    rw [OrderedMap.get?_erase] at hi
    split at hi
    · cases hi
    · exact ⟨‹_›, hi⟩
  constructor
  case keys_nodup => exact OrderedMap.keys_erase m id ▸ h.keys_nodup.filter _
  case opened_lt => exact h.opened_lt
  case closed_lt =>
    intro n hn
    rcases List.mem_append.mp hn with hn | hn
    · exact h.closed_lt n hn
    · exact h.opened_lt n (h.live id n (Option.mem_toList.mp hn))
  case live => exact fun i n hi => h.live i n (hsub i n hi).2
  case injective => exact fun i j n hi hj => h.injective i j n (hsub i n hi).2 (hsub j n hj).2
  case opened_nodup => exact h.opened_nodup
  case settled =>
    intro n hn
    by_cases hid : OrderedMap.get? m id = some n
    · -- the client under the identifier was not closed before
      have hzero : closed.count n = 0 := by
        rcases h.settled n hn with hs | hs
        · exact hs.2
        · exact absurd hid (hs.1 id)
      refine .inr ⟨fun i hi => ?_, by simp [hid, hzero]⟩
      obtain ⟨hne, hi⟩ := hsub i n hi
      exact hne (h.injective id i n hid hi)
    · have hnot : n ∉ (OrderedMap.get? m id).toList := fun hm => hid (Option.mem_toList.mp hm)
      rw [Settled, count_append_of_notMem hnot]
      rcases h.settled n hn with ⟨⟨i, hi⟩, hz⟩ | ⟨hnone, hone⟩
      · have hne : id ≠ i := fun e => hid (e ▸ hi)
        exact .inl ⟨⟨i, by rw [OrderedMap.get?_erase, if_neg hne, hi]⟩, hz⟩
      · exact .inr ⟨fun i hi => hnone i (hsub i n hi).2, hone⟩

/-- A new client takes the place of the one that is taken off. -/
theorem replace (h : Account m opened closed next) (id : String) :
    Account (OrderedMap.insert m id next) (opened ++ [next])
      (closed ++ (OrderedMap.get? m id).toList) (next + 1) := by
  have hr := h.retire id
  have hnew : next ∉ opened := fun hm => Nat.lt_irrefl _ (h.opened_lt next hm)
  have hother : ∀ i, id ≠ i → OrderedMap.get? (OrderedMap.insert m id next) i =
      OrderedMap.get? (OrderedMap.erase m id) i := by
    intro i hi
    rw [OrderedMap.get?_insert, OrderedMap.get?_erase, if_neg hi, if_neg hi]
  have hself : OrderedMap.get? (OrderedMap.insert m id next) id = some next := by
    rw [OrderedMap.get?_insert, if_pos rfl]
  have hcases : ∀ i n, OrderedMap.get? (OrderedMap.insert m id next) i = some n →
      (id = i ∧ n = next) ∨ (n ∈ opened ∧ OrderedMap.get? (OrderedMap.erase m id) i = some n) := by
    intro i n hi
    by_cases hid : id = i
    · rw [← hid, hself] at hi
      exact .inl ⟨hid, (Option.some.inj hi).symm⟩
    · rw [hother i hid] at hi
      exact .inr ⟨hr.live i n hi, hi⟩
  constructor
  case keys_nodup => exact Registry.nodup_keys_insert h.keys_nodup id next
  case opened_lt =>
    intro n hn
    rcases List.mem_append.mp hn with hn | hn
    · exact Nat.lt_succ_of_lt (h.opened_lt n hn)
    · exact List.mem_singleton.mp hn ▸ Nat.lt_succ_self next
  case closed_lt => exact fun n hn => Nat.lt_succ_of_lt (hr.closed_lt n hn)
  case live =>
    intro i n hi
    rcases hcases i n hi with ⟨-, rfl⟩ | ⟨hn, -⟩
    · simp
    · exact List.mem_append_left _ hn
  case injective =>
    intro i j n hi hj
    rcases hcases i n hi with ⟨hi', rfl⟩ | ⟨hn, hi'⟩ <;>
      rcases hcases j n hj with ⟨hj', hnj⟩ | ⟨hnj, hj'⟩
    · exact hi'.symm.trans hj'
    · exact absurd hnj hnew
    · exact absurd (hnj ▸ hn) hnew
    · exact hr.injective i j n hi' hj'
  case opened_nodup =>
    exact List.nodup_append.mpr ⟨h.opened_nodup, by simp, by
      simpa using fun a ha (e : a = next) => hnew (e ▸ ha)⟩
  case settled =>
    intro n hn
    rcases List.mem_append.mp hn with hn | hn
    · have hne : n ≠ next := fun e => hnew (e ▸ hn)
      rcases hr.settled n hn with ⟨⟨i, hi⟩, hz⟩ | ⟨hnone, hone⟩
      · have hid : id ≠ i := by
          rintro rfl
          simp [OrderedMap.get?_erase] at hi
        exact .inl ⟨⟨i, by rw [hother i hid, hi]⟩, hz⟩
      · refine .inr ⟨fun i hi => ?_, hone⟩
        rcases hcases i n hi with ⟨-, e⟩ | ⟨-, hi⟩
        · exact hne e
        · exact hnone i hi
    · obtain rfl := List.mem_singleton.mp hn
      refine .inl ⟨⟨id, hself⟩, List.count_eq_zero_of_not_mem fun hm => ?_⟩
      exact Nat.lt_irrefl _ (hr.closed_lt n hm)

/-- All clients are taken off the map. -/
theorem clear (h : Account m opened closed next) :
    Account [] opened (closed ++ m.map Prod.snd) next := by
  have hmem : ∀ n, n ∈ m.map Prod.snd ↔ ∃ id, OrderedMap.get? m id = some n := by
    intro n
    rw [List.mem_map]
    constructor
    · rintro ⟨⟨i, n⟩, hm, rfl⟩
      exact ⟨i, (OrderedMap.get?_eq_some_iff h.keys_nodup i n).mpr hm⟩
    · rintro ⟨i, hi⟩
      exact ⟨(i, n), OrderedMap.mem_of_get? hi, rfl⟩
  have hnodup : (m.map Prod.snd).Nodup := by
    refine List.Nodup.map_on (fun x hx y hy e => ?_) (List.Nodup.of_map Prod.fst h.keys_nodup)
    have hx' := (OrderedMap.get?_eq_some_iff h.keys_nodup x.1 x.2).mpr hx
    have hy' := (OrderedMap.get?_eq_some_iff h.keys_nodup y.1 y.2).mpr hy
    exact Prod.ext (h.injective x.1 y.1 y.2 (e ▸ hx') hy') e
  constructor
  case keys_nodup => exact List.nodup_nil
  case opened_lt => exact h.opened_lt
  case closed_lt =>
    intro n hn
    rcases List.mem_append.mp hn with hn | hn
    · exact h.closed_lt n hn
    · obtain ⟨i, hi⟩ := (hmem n).mp hn
      exact h.opened_lt n (h.live i n hi)
  case live | injective => simp
  case opened_nodup => exact h.opened_nodup
  case settled =>
    intro n hn
    refine .inr ⟨by simp, ?_⟩
    rcases h.settled n hn with ⟨hex, hz⟩ | ⟨hnone, hone⟩
    · rw [List.count_append, hz, List.count_eq_one_of_mem hnodup ((hmem n).mpr hex)]
    · have hnot : n ∉ m.map Prod.snd := by
        intro hm
        obtain ⟨i, hi⟩ := (hmem n).mp hm
        exact hnone i hi
      rw [count_append_of_notMem hnot, hone]

end Account

/-! ## Steps -/

/-- What an action calls, if a plain map has the live clients before it. -/
structure Step.Behaves (m : OrderedMap String Nat) (s : Step) : Prop where
  /-- A command attends to the live client of its identifier; without one, it is refused. -/
  command : ∀ id, s.action.target? = some id →
    Attends (OrderedMap.get? m id) s.trace s.result
  /-- A connect that succeeds opens a client and calls no other one but to close it, which is done
  for the client that it displaces. -/
  connected : ∀ d, s.action = .connect d → s.result.isOk = true → ∃ n, s.opened? = some n ∧
    closedClients s.trace = (OrderedMap.get? m d.id).toList ∧
    ∀ call ∈ calls s.trace, call.client = n ∨ call.request.isClosing = true
  /-- A connect that fails calls no live client. -/
  attempted : ∀ d, s.action = .connect d → s.result.isOk = false →
    ∀ call ∈ calls s.trace, ∀ id, OrderedMap.get? m id ≠ some call.client
  /-- Taking a client off closes it, and that does not fail. -/
  disconnected : ∀ id, s.action = .disconnect id →
    s.result.isOk = true ∧ Closes (OrderedMap.get? m id).toList s.trace
  closedAll : s.action = .closeAll → s.result.isOk = true ∧ Closes (m.map Prod.snd) s.trace

/-- What fails changes nothing in the plain map and closes none of its clients. -/
theorem Step.Behaves.of_failure (h : s.Behaves m) (hfail : s.result.isOk = false) :
    s.update m = m ∧ ∀ id n, OrderedMap.get? m id = some n → n ∉ closedClients s.trace := by
  obtain ⟨before, a, result, trace, after⟩ := s
  have hcommand : ∀ id, a.target? = some id → ∀ i n, OrderedMap.get? m i = some n →
      n ∉ closedClients trace := fun id ha _ _ _ => by
    simp [(h.command id ha).closedClients_eq_nil]
  cases a with
  | connect d =>
    refine ⟨?_, fun id n hid hn => ?_⟩
    · rw [Step.update_of_connect rfl, Step.opened?_of_failure hfail]
      rfl
    · obtain ⟨call, hcall, rfl, -⟩ := exists_call_of_mem_closedClients hn
      exact h.attempted d rfl hfail call hcall id hid
  | disconnect id => exact absurd (h.disconnected id rfl).1 (by simp [hfail])
  | closeAll => exact absurd (h.closedAll rfl).1 (by simp [hfail])
  | query id _ | schema id | define id _ | readKey id _ | listKeys id _ =>
    exact ⟨rfl, hcommand id rfl⟩

/-- The plain map and its books after some steps, and the hub behind them. -/
structure Tracks (steps : List Step) (h : Hub) : Prop where
  live : Live (liveClients steps) h.registry
  account : Account (liveClients steps) (openedBy steps) (closedBy steps) h.nextClient

theorem Tracks.concat (hlive : Live (s.update (liveClients past)) s.after.registry)
    (haccount : Account (s.update (liveClients past)) (openedBy past ++ s.opened?.toList)
      (closedBy past ++ closedClients s.trace) s.after.nextClient) :
    Tracks (past ++ [s]) s.after := by
  rw [← liveClients_concat] at hlive haccount
  rw [← openedBy_concat, ← closedBy_concat] at haccount
  exact ⟨hlive, haccount⟩

namespace Hub

variable {h : Hub} {a : Action}

/-- Commands change nothing in the plain map. -/
theorem ensures_command (ht : Tracks past h) (ha : a.target? = some id)
    (hact : (act a h).Ensures fun trace (result, h') =>
      (Live (liveClients past) h'.registry ∧ h'.nextClient = h.nextClient) ∧
        Attends (OrderedMap.get? (liveClients past) id) trace result) :
    (act a h).Ensures fun trace r =>
      Step.Behaves (liveClients past) ⟨h, a, r.1, trace, r.2⟩ ∧
        Tracks (past ++ [⟨h, a, r.1, trace, r.2⟩]) r.2 := by
  refine hact.mono fun trace r ⟨⟨hlive, hnext⟩, hattends⟩ => ?_
  have hconnect : ∀ d, a ≠ .connect d := by rintro d rfl; cases ha
  have hdisconnect : ∀ i, a ≠ .disconnect i := by rintro i rfl; cases ha
  have hcloseAll : a ≠ .closeAll := by rintro rfl; cases ha
  let s : Step := ⟨h, a, r.1, trace, r.2⟩
  have hopened : s.opened? = none := Step.opened?_of_target ha
  have hupdate : s.update (liveClients past) = liveClients past := Step.update_of_target ha
  refine ⟨⟨fun i hi => ?_, ?_, ?_, ?_, ?_⟩, Tracks.concat (s := s) ?_ ?_⟩
  · obtain rfl := Option.some.inj (ha.symm.trans hi)
    exact hattends
  · exact fun d hd => absurd hd (hconnect d)
  · exact fun d hd => absurd hd (hconnect d)
  · exact fun i hi => absurd hi (hdisconnect i)
  · exact fun hc => absurd hc hcloseAll
  · rw [hupdate]
    exact hlive
  · rw [hupdate, hopened, hattends.closedClients_eq_nil, hnext]
    simpa using ht.account

theorem ensures_act_connect (ht : Tracks past h) (d : Descriptor) :
    (act (.connect d) h).Ensures fun trace r =>
      Step.Behaves (liveClients past) ⟨h, .connect d, r.1, trace, r.2⟩ ∧
        Tracks (past ++ [⟨h, .connect d, r.1, trace, r.2⟩]) r.2 := by
  refine (ensures_connect ht.live d).mono fun trace ⟨result, h'⟩ ⟨hnext, hr⟩ => ?_
  let s : Step := ⟨h, .connect d, result, trace, h'⟩
  have hupdate : s.update (liveClients past) = _ := Step.update_of_connect rfl
  rcases hr with ⟨hfail, hlive, hown⟩ | ⟨hok, hlive, hopens, hcloses, hcalls⟩
  · have hopened : s.opened? = none := Step.opened?_of_failure hfail
    have hclosed : ∀ n ∈ closedClients s.trace, n = h.nextClient := by
      intro n hn
      obtain ⟨call, hcall, hclient, -⟩ := exists_call_of_mem_closedClients hn
      exact hclient.symm.trans (hown call hcall)
    refine ⟨⟨nofun, fun _ _ hok => ?_, fun _ _ _ call hcall id hid => ?_, nofun, nofun⟩,
      Tracks.concat (s := s) ?_ ?_⟩
    · cases hfail.symm.trans hok
    · have hlt := ht.account.opened_lt _ (ht.account.live id _ hid)
      rw [hown call hcall] at hlt
      exact Nat.lt_irrefl _ hlt
    · rw [hupdate, hopened]
      exact hlive
    · rw [hupdate, hopened, hnext]
      simpa using ht.account.fail hclosed
  · have hopened : s.opened? = some h.nextClient :=
      (if_pos hok).trans (congrArg List.head? hopens)
    refine ⟨⟨nofun, fun d' hd _ => ?_, fun _ _ hfail => ?_, nofun, nofun⟩,
      Tracks.concat (s := s) ?_ ?_⟩
    · obtain rfl := Action.connect.inj hd
      exact ⟨h.nextClient, hopened, hcloses, hcalls⟩
    · cases hfail.symm.trans hok
    · rw [hupdate, hopened]
      exact hlive
    · rw [hupdate, hopened, hcloses, hnext]
      exact ht.account.replace d.id

theorem ensures_act_disconnect (ht : Tracks past h) (id : String) :
    (act (.disconnect id) h).Ensures fun trace r =>
      Step.Behaves (liveClients past) ⟨h, .disconnect id, r.1, trace, r.2⟩ ∧
        Tracks (past ++ [⟨h, .disconnect id, r.1, trace, r.2⟩]) r.2 := by
  refine (ensures_disconnect ht.live id).mono fun trace r ⟨hnext, hok, hlive, hcloses⟩ => ?_
  refine ⟨⟨nofun, nofun, nofun, fun i hi => ?_, nofun⟩, .concat hlive ?_⟩
  · obtain rfl := Action.disconnect.inj hi
    exact ⟨hok, hcloses⟩
  · rw [hnext, hcloses.closedClients_eq]
    simpa [Step.opened?, Step.update] using ht.account.retire id

theorem ensures_act_closeAll (ht : Tracks past h) :
    (act .closeAll h).Ensures fun trace r =>
      Step.Behaves (liveClients past) ⟨h, .closeAll, r.1, trace, r.2⟩ ∧
        Tracks (past ++ [⟨h, .closeAll, r.1, trace, r.2⟩]) r.2 := by
  refine (ensures_closeAll ht.live).mono fun trace r ⟨hnext, hok, hlive, hcloses⟩ => ?_
  refine ⟨⟨nofun, nofun, nofun, nofun, fun _ => ⟨hok, hcloses⟩⟩, .concat hlive ?_⟩
  rw [hnext, hcloses.closedClients_eq]
  simpa [Step.opened?, Step.update] using ht.account.clear

/-- **Every action behaves as on the plain map, and keeps track of it.** -/
theorem ensures_act (ht : Tracks past h) (a : Action) : (act a h).Ensures fun trace r =>
    Step.Behaves (liveClients past) ⟨h, a, r.1, trace, r.2⟩ ∧
      Tracks (past ++ [⟨h, a, r.1, trace, r.2⟩]) r.2 := by
  have hlive := ht.live
  cases a with
  | connect d => exact ensures_act_connect ht d
  | disconnect id => exact ensures_act_disconnect ht id
  | closeAll => exact ensures_act_closeAll ht
  | query id text => exact ensures_command ht rfl (ensures_query hlive id text)
  | schema id =>
    exact ensures_command ht rfl (ensures_withConnection hlive id fun c => c.talks_schema)
  | define id text =>
    exact ensures_command ht rfl
      (ensures_withConnection hlive id fun c => c.talks_executeDefinition)
  | readKey id key =>
    exact ensures_command ht rfl (ensures_withConnection hlive id fun c =>
      talks_keyValue c _ fun c => c.talks_value)
  | listKeys id pattern =>
    exact ensures_command ht rfl (ensures_withConnection hlive id fun c =>
      talks_keyValue c _ fun c => c.talks_keys)

end Hub

/-! ## Runs -/

/-- What a step of a run does, against the plain map of live clients. -/
structure Refines (past : List Step) (s : Step) : Prop where
  behaves : s.Behaves (liveClients past)
  /-- The identifiers are those of the plain map, in the same order. -/
  ids_before : s.before.ids = OrderedMap.keys (liveClients past)
  ids_after : s.after.ids = OrderedMap.keys (liveClients (past ++ [s]))
  /-- What fails leaves the map and its identifiers alone and closes no live client. -/
  failed : s.result.isOk = false → liveClients (past ++ [s]) = liveClients past ∧
    s.after.ids = s.before.ids ∧
    ∀ id n, OrderedMap.get? (liveClients past) id = some n → n ∉ closedClients s.trace
  /-- No client is opened twice. -/
  opened : (openedBy (past ++ [s])).Nodup
  /-- A client is closed once, when it is taken off the map, and never before. -/
  settled : ∀ n ∈ openedBy (past ++ [s]),
    Settled (liveClients (past ++ [s])) (closedBy (past ++ [s])) n

theorem Tracks.refines (ht : Tracks past s.before) (hb : s.Behaves (liveClients past))
    (ht' : Tracks (past ++ [s]) s.after) : Refines past s := by
  have hids := ht.live.shows.ids
  have hids' := ht'.live.shows.ids
  refine ⟨hb, hids, hids', fun hfail => ?_, ht'.account.opened_nodup, ht'.account.settled⟩
  obtain ⟨hupdate, hnot⟩ := hb.of_failure hfail
  have hsame : liveClients (past ++ [s]) = liveClients past := liveClients_concat.trans hupdate
  refine ⟨hsame, ?_, hnot⟩
  rw [hsame, ← hids] at hids'
  exact hids'

namespace Hub

variable {settings : Settings} {given : Option History} {h : Hub}

theorem eq_of_start (hstart : start settings given = .ok h) :
    h.registry = .empty ∧ h.nextClient = 0 := by
  cases given with
  | some history =>
    cases hstart
    exact ⟨rfl, rfl⟩
  | none =>
    obtain ⟨-, rfl⟩ := start_none_eq_ok_iff.mp hstart
    exact ⟨rfl, rfl⟩

theorem tracks_start (hstart : start settings given = .ok h) : Tracks [] h := by
  obtain ⟨hregistry, hnext⟩ := eq_of_start hstart
  constructor
  · rw [hregistry]
    exact ⟨Registry.resting_empty, rfl, fun _ => rfl⟩
  · rw [hnext]
    exact Account.start

/-- **The hub refines a plain map of live clients.** Every step of every run, against clients that
reply and fail in any way, does what the plain map says. -/
theorem run_refines {σ : Type} (responder : Responder σ) (state : σ)
    (hstart : start settings given = .ok h) {actions : List Action} {past rest : List Step}
    {s : Step} (hrun : run responder state h actions = past ++ s :: rest) : Refines past s := by
  refine run_rule (P := Tracks) (Q := Refines) (fun past h a ht => ?_) (tracks_start hstart) hrun
  exact (ensures_act ht a).mono fun trace r ⟨hb, ht'⟩ => ⟨Tracks.refines ht hb ht', ht'⟩

/-- Key-value clients, of which the second one cannot be reached; none of them answers more than
the first probe. -/
def unreachableSecond : Responder Unit where
  reply state c :=
    match c with
    | ⟨1, .redis (.client _)⟩ => (.error ⟨.keyValueConnection, "refused"⟩, state)
    | ⟨_, .redis (.client _)⟩ => (.ok (), state)
    | ⟨_, .redis .ping⟩ => (.ok (.bool true), state)
    | _ => (.error ⟨.system, "no answer"⟩, state)

/-- A second connect fails: the first client stays under the identifier, and it is closed when it is
taken off. -/
theorem run_refines_reconnect :
    let d : Descriptor := ⟨"a", "", "redis", "", some 6379, "", "", none, false⟩
    let actions := [.connect d, .connect d, .query "a" "GET k", .disconnect "a"]
    ∃ h past s rest, start .default none = .ok h ∧
      run unreachableSecond () h actions = past ++ s :: rest ∧
      liveClients past = [("a", 0)] ∧ s.result.isOk = false ∧ Refines past s ∧
      closedBy (past ++ [s]) = [] ∧ closedBy (past ++ s :: rest) = [0] := by
  intro d actions
  have hstart : start .default none = .ok ⟨.default, .empty, .empty 500, 0⟩ := rfl
  refine ⟨_, [_], _, [_, _], hstart, rfl, ?_, ?_, ?refines, ?_, ?_⟩
  case refines =>
    exact run_refines unreachableSecond () hstart
      (show run unreachableSecond () _ actions = [_] ++ _ :: [_, _] from rfl)
  all_goals decide +kernel

end Hub

end Polystore
