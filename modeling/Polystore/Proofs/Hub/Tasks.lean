import Polystore.Hub
import Polystore.Proofs.Engine.Calls
import Polystore.Proofs.Registry.Rest

/-!
# Tasks of the hub

The hub runs its tasks one after another, so each of them finds the registry at rest and leaves it
at rest. A task that uses a connection changes nothing and calls the client of the connection only.
A task that takes connections off closes their clients, in order, and calls nothing else.

* `Closes`: a trace of closing calls; `Attends`: a trace of a command;
* `Live`: a plain map of the clients of a registry at rest;
* **`Hub.ensures_withConnection`**: what a session with a connection calls and changes;
* **`Hub.ensures_perform_replace`**, `Hub.ensures_perform_remove`, `Hub.ensures_perform_closeAll`:
  what operations on the registry call and change;
* **`Hub.ensures_connect`**, `Hub.ensures_disconnect`, `Hub.ensures_closeAll`, `Hub.ensures_query`:
  what these commands call and change.
-/

namespace Polystore

/-! ## Traces that close -/

/-- All calls of a trace close clients, these ones in this order. -/
structure Closes (clients : List Nat) (trace : List Happening) : Prop where
  clients : (calls trace).map Call.client = clients
  closing : ∀ call ∈ calls trace, call.request.isClosing = true

namespace Closes

variable {clients more : List Nat} {trace rest : List Happening}

theorem nil : Closes [] [] := ⟨rfl, by simp⟩

theorem noted {n : Note} : Closes [] [.noted n] := ⟨rfl, by simp⟩

theorem append (h : Closes clients trace) (h' : Closes more rest) :
    Closes (clients ++ more) (trace ++ rest) := by
  refine ⟨?_, forall_calls_append h.closing h'.closing⟩
  rw [calls_append, List.map_append, h.clients, h'.clients]

theorem closedClients_eq (h : Closes clients trace) : closedClients trace = clients := by
  rw [Polystore.closedClients_eq, ← h.clients, ← List.filterMap_eq_map]
  refine List.filterMap_congr fun call hcall => ?_
  rw [if_pos (h.closing call hcall)]
  rfl

theorem openedClients_eq (h : Closes clients trace) : openedClients trace = [] := by
  have hopening : ∀ r : Request, r.isClosing = true → r.isOpening = false := by
    intro r hr
    cases r with
    | sqlite r | postgres r | mysql r | mongo r | redis r =>
      cases r <;> first | rfl | cases hr
  refine List.filterMap_eq_nil_iff.mpr fun happening hm => ?_
  cases happening with
  | noted n => rfl
  | called c failure =>
    have hc : c ∈ calls trace := List.mem_filterMap.mpr ⟨_, hm, rfl⟩
    cases failure with
    | some e => rfl
    | none => simp [Happening.opened?, hopening _ (h.closing c hc)]

end Closes

/-! ## Traces of commands -/

/-- What a command does with the client under its identifier: it calls this one and no other, does
not close it, and fails as if there was no connection if and only if there is none. -/
structure Attends {α : Type} (client? : Option Nat) (trace : List Happening)
    (result : Except Failure α) : Prop where
  own : ∀ n, client? = some n → ∀ call ∈ calls trace, call.KeepsOpen n
  served : ∀ n, client? = some n → result ≠ .error (.core .notConnected)
  refused : client? = none → result = .error (.core .notConnected) ∧ calls trace = []

theorem attends_none {α : Type} :
    Attends none [] (.error (.core .notConnected) : Except Failure α) :=
  ⟨nofun, nofun, fun _ => ⟨rfl, rfl⟩⟩

/-- What is noted, and what becomes of a result that is not a missing connection, is up to the
command. -/
theorem Attends.congr {α β : Type} {client? : Option Nat} {trace trace' : List Happening}
    {result : Except Failure α} {result' : Except Failure β} (h : Attends client? trace result)
    (hcalls : calls trace' = calls trace) (hresult : result = .error (.core .notConnected) ↔
      result' = .error (.core .notConnected)) : Attends client? trace' result' := by
  refine ⟨hcalls ▸ h.own, fun m hm => (not_congr hresult).mp (h.served m hm), fun hnone => ?_⟩
  obtain ⟨hr, hc⟩ := h.refused hnone
  exact ⟨hresult.mp hr, hcalls.trans hc⟩

theorem Attends.closedClients_eq_nil {α : Type} {client? : Option Nat} {trace : List Happening}
    {result : Except Failure α} (h : Attends client? trace result) : closedClients trace = [] := by
  rw [closedClients_eq, List.filterMap_eq_nil_iff]
  intro call hcall
  cases client? with
  | none => simp [(h.refused rfl).2] at hcall
  | some n => simp [(h.own n rfl call hcall).2]

/-! ## The registry of the hub -/

/-- A registry is at rest, and a plain map has the clients of its connections. -/
structure Live (m : OrderedMap String Nat) (r : Registry Unit Connection) : Prop where
  resting : r.Resting []
  shows : r.Shows Connection.client m

namespace Hub

variable {r r' r₁ : Registry Unit Connection} {m : OrderedMap String Nat} {owed : List SlotKey}
  {id : String} {c : Connection}

theorem ensures_closeQuietly (c : Connection) :
    (closeQuietly c).Ensures fun trace _ => Closes [c.client] trace := by
  have hcalled : ∀ failure rest, calls rest = [] →
      Closes [c.client] (.called ⟨c.client, c.closing⟩ failure :: rest) := by
    intro failure rest hrest
    constructor <;> simp [hrest]
  refine Dialogue.ensures_bind.mpr (c.ensures_close.mono fun trace result ⟨failure, htrace⟩ => ?_)
  subst htrace
  cases result with
  | ok x => exact hcalled failure [] rfl
  | error e => exact hcalled failure [.noted .closeFailed] rfl

/-- A task that owes slots closes the clients of their connections, and the slots are empty then. -/
theorem ensures_finish (h : r.Resting owed) {fuel : Nat} (hfuel : owed.length ≤ fuel) :
    (finish fuel (r.retire () owed).1 (r.retire () owed).2).Ensures fun trace r' =>
      Closes ((owed.filterMap r.held?).map Connection.client) trace ∧ r'.Resting [] ∧
        r'.live = r.live ∧ ∀ k, r'.held? k = if k ∈ owed then none else r.held? k := by
  induction owed generalizing r fuel with
  | nil =>
    have hdone : finish fuel (r.retire () []).1 (r.retire () []).2 = pure r := by
      cases fuel <;> rfl
    rw [hdone]
    exact ⟨.nil, h, rfl, fun k => by simp⟩
  | cons key rest ih =>
    obtain ⟨c, r', next, hc, hretire, hclosed, hnext, hlive, hheld⟩ := h.retire_cons ()
    obtain ⟨fuel, rfl⟩ : ∃ k, fuel = k + 1 := ⟨fuel - 1, by simp at hfuel; omega⟩
    have hnot : key ∉ rest := (List.nodup_cons.mp h.sound.kept.owed_nodup).1
    have hrest : rest.filterMap next.held? = rest.filterMap r.held? := by
      refine List.filterMap_congr fun k hk => ?_
      have hne : key ≠ k := fun e => hnot (e ▸ hk)
      rw [hheld, if_neg hne]
    rw [hretire, finish]
    refine Dialogue.ensures_bind.mpr ((ensures_closeQuietly c).mono fun trace _ htrace => ?_)
    rw [hclosed]
    refine (ih hnext (by simpa using hfuel)).mono fun trace' r'' ⟨hcloses, hres, hl, hh⟩ => ?_
    refine ⟨?_, hres, hl.trans hlive, fun k => ?_⟩
    · rw [List.filterMap_cons_some hc, List.map_cons, ← hrest]
      exact htrace.append hcloses
    · rw [hh, hheld]
      by_cases hk : key = k
      · simp [hk]
      · simp [hk, Ne.symm hk]

theorem ensures_perform {operation : Operation Connection}
    (hstart : r.start () operation = r₁.retire () owed) (h : r₁.Resting owed)
    (hsize : owed.length ≤ r.size + 1) : (perform r operation).Ensures fun trace r' =>
      Closes ((owed.filterMap r₁.held?).map Connection.client) trace ∧ r'.Resting [] ∧
        r₁.Alike r' := by
  rw [perform, hstart]
  refine (ensures_finish h hsize).mono fun trace r' ⟨hcloses, hrest, hlive, hheld⟩ => ?_
  exact ⟨hcloses, hrest, h.alike_of_emptied hlive hheld⟩

/-- **A new connection displaces the one with its identifier**, which is closed. -/
theorem ensures_perform_replace (h : Live m r) (id : String) (c : Connection) :
    (perform r (.replace id c)).Ensures fun trace r' =>
      Closes (OrderedMap.get? m id).toList trace ∧ Live (OrderedMap.insert m id c.client) r' := by
  have hstart := Registry.start_replace h.resting.sound.queue_eq_nil (h.resting.free ()) id c
  have hsize : (r.liveKey? id).toList.length ≤ r.size + 1 := by
    cases r.liveKey? id <;> simp
  refine (ensures_perform hstart (h.resting.register id c) hsize).mono fun trace r' hr => ?_
  obtain ⟨hcloses, hrest, halike⟩ := hr
  rw [h.resting.filterMap_register, h.shows.map_connection?] at hcloses
  exact ⟨hcloses, hrest, (h.shows.register h.resting id c).alike halike⟩

theorem ensures_perform_remove (h : Live m r) (id : String) :
    (perform r (.remove id)).Ensures fun trace r' =>
      Closes (OrderedMap.get? m id).toList trace ∧ Live (OrderedMap.erase m id) r' := by
  have hstart := Registry.start_remove h.resting.sound.queue_eq_nil (h.resting.free ()) id
  have hsize : (r.liveKey? id).toList.length ≤ r.size + 1 := by
    cases r.liveKey? id <;> simp
  refine (ensures_perform hstart (h.resting.unregister id) hsize).mono fun trace r' hr => ?_
  obtain ⟨hcloses, hrest, halike⟩ := hr
  have howed : (r.liveKey? id).toList.filterMap (r.unregister id).held? =
      (r.connection? id).toList := Registry.filterMap_liveKey? r id
  rw [howed, h.shows.map_connection?] at hcloses
  exact ⟨hcloses, hrest, (h.shows.unregister id).alike halike⟩

theorem ensures_perform_closeAll (h : Live m r) : (perform r .closeAll).Ensures fun trace r' =>
    Closes (m.map Prod.snd) trace ∧ Live [] r' := by
  have hstart := Registry.start_closeAll h.resting.sound.queue_eq_nil (h.resting.free ())
  have hnodup := h.resting.sound.kept.ids_nodup
  have hsize : r.liveKeys.length ≤ r.size + 1 := by simp [Registry.liveKeys, Registry.size]
  refine (ensures_perform hstart h.resting.unregisterAll hsize).mono fun trace r' hr => ?_
  obtain ⟨hcloses, hrest, halike⟩ := hr
  have howed : r.liveKeys.filterMap r.unregisterAll.held? = r.ids.filterMap r.connection? :=
    Registry.filterMap_liveKeys hnodup
  rw [howed, h.shows.map_filterMap_connection? hnodup] at hcloses
  exact ⟨hcloses, hrest, Registry.Shows.unregisterAll.alike halike⟩

/-! ## Sessions with a connection -/

/-- **A session with a connection** leaves the registry as it was and attends to its client.
Without a connection, it fails at once. -/
theorem ensures_withConnection {α : Type} {h : Hub} (hm : Live m h.registry) (id : String)
    {body : Connection → Session α}
    (hbody : ∀ c, (body c).Talks (Call.KeepsOpen c.client)) :
    (withConnection id body h).Ensures fun trace (result, h') =>
      (Live m h'.registry ∧ h'.nextClient = h.nextClient) ∧
        Attends (OrderedMap.get? m id) trace result := by
  rw [← hm.shows.connection? id]
  cases hc : h.registry.connection? id with
  | none =>
    rw [withConnection, hm.resting.access_none hc ()]
    exact ⟨⟨hm, rfl⟩, attends_none⟩
  | some c =>
    obtain ⟨r', hstart, hleave⟩ := hm.resting.access hc ()
    rw [withConnection, hstart]
    refine Dialogue.ensures_bind.mpr ((hbody c).mono fun trace result ⟨hcalls, hne⟩ => ?_)
    obtain ⟨hrest, halike⟩ := hleave !result.isOk
    refine ⟨⟨⟨hrest, hm.shows.alike halike⟩, rfl⟩, fun n hn => ?_, fun _ _ => hne, nofun⟩
    obtain rfl : c.client = n := Option.some.inj hn
    simpa using hcalls

/-- A query is a session with a connection; what is remembered of it changes no connection. -/
theorem ensures_query {h : Hub} (hm : Live m h.registry) (id text : String) :
    (query id text h).Ensures fun trace (result, h') =>
      (Live m h'.registry ∧ h'.nextClient = h.nextClient) ∧
        Attends (OrderedMap.get? m id) trace result := by
  refine Dialogue.ensures_bind.mpr ((ensures_withConnection hm id fun c => c.talks_execute).mono ?_)
  rintro trace ⟨result, h'⟩ ⟨hlive, hattends⟩
  cases result with
  | ok table => exact ⟨hlive, hattends.congr (by simp) ⟨nofun, nofun⟩⟩
  | error f =>
    cases f with
    | core e => exact ⟨hlive, hattends.congr (by simp) (by simp)⟩
    | fault f => exact ⟨hlive, hattends.congr (by simp) ⟨nofun, nofun⟩⟩

/-- What is asked of a key-value store goes to its client. -/
theorem talks_keyValue {α : Type} (c : Connection) (what : Unsupported)
    {f : Redis → Session α} (hf : ∀ c, (f c).Talks (Call.KeepsOpen c.client)) :
    (keyValue c what >>= f).Talks (Call.KeepsOpen c.client) := by
  cases c with
  | relational c => exact Session.Talks.throw nofun
  | document c => exact Session.Talks.throw nofun
  | keyValue c => exact hf c

/-! ## Opening and closing -/

/-- **A connect** calls no client but a new one. If it succeeds, it has opened that client and
closes the one that is displaced. -/
theorem ensures_connect {h : Hub} (hm : Live m h.registry) (d : Descriptor) :
    (connect d h).Ensures fun trace (result, h') =>
      h'.nextClient = h.nextClient + 1 ∧
      ((result.isOk = false ∧ Live m h'.registry ∧
          ∀ call ∈ calls trace, call.client = h.nextClient) ∨
        (result.isOk = true ∧ Live (OrderedMap.insert m d.id h.nextClient) h'.registry ∧
          openedClients trace = [h.nextClient] ∧
          closedClients trace = (OrderedMap.get? m d.id).toList ∧
          ∀ call ∈ calls trace, call.client = h.nextClient ∨ call.request.isClosing = true)) := by
  have hconnect := Connection.opens_connect (n := h.nextClient) (d := d) (s := h.settings)
  refine Dialogue.ensures_bind.mpr ((hconnect.and Connection.gives_connect).mono ?_)
  intro trace opened hopened
  obtain ⟨hopens, hgives⟩ := hopened
  cases opened with
  | error f => exact ⟨rfl, .inl ⟨rfl, hm, by simpa using hopens.own⟩⟩
  | ok c =>
    have hc : c.client = h.nextClient := hgives c rfl
    dsimp only
    refine Dialogue.ensures_noting.mpr (Dialogue.ensures_bind.mpr ?_)
    refine (ensures_perform_replace hm d.id c).mono fun rest r' ⟨hcloses, hlive⟩ => ?_
    rw [hc] at hlive
    have hnote : ∀ b : Bool, calls (if b then [Happening.noted .replacing] else []) = [] ∧
        openedClients (if b then [Happening.noted .replacing] else []) = [] ∧
        closedClients (if b then [Happening.noted .replacing] else []) = [] := by decide
    obtain ⟨hcalls, ho, hcl⟩ := hnote (h.registry.contains d.id)
    refine ⟨rfl, .inr ⟨rfl, hlive, ?_, ?_, fun call hcall => ?_⟩⟩
    · simp [hopens.opened rfl, ho, hcloses.openedClients_eq]
    · simp [hopens.closed rfl, hcl, hcloses.closedClients_eq]
    · simp only [calls_append, hcalls, List.nil_append, List.mem_append] at hcall
      rcases hcall with hcall | hcall | hcall
      · exact .inl (hopens.own call hcall)
      · exact .inr (hcloses.closing call hcall)
      · simp at hcall

theorem ensures_disconnect {h : Hub} (hm : Live m h.registry) (id : String) :
    (disconnect id h).Ensures fun trace (result, h') =>
      h'.nextClient = h.nextClient ∧ result.isOk = true ∧ Live (OrderedMap.erase m id) h'.registry ∧
        Closes (OrderedMap.get? m id).toList trace := by
  refine Dialogue.ensures_bind.mpr ((ensures_perform_remove hm id).mono ?_)
  rintro trace r' ⟨hcloses, hlive⟩
  exact ⟨rfl, rfl, hlive, by simpa using hcloses.append (.noted (n := .disconnected))⟩

theorem ensures_closeAll {h : Hub} (hm : Live m h.registry) :
    (closeAll h).Ensures fun trace (result, h') =>
      h'.nextClient = h.nextClient ∧ result.isOk = true ∧ Live [] h'.registry ∧
        Closes (m.map Prod.snd) trace := by
  refine Dialogue.ensures_bind.mpr ((ensures_perform_closeAll hm).mono ?_)
  rintro trace r' ⟨hcloses, hlive⟩
  exact ⟨rfl, rfl, hlive, by simpa using hcloses⟩

end Hub

end Polystore
