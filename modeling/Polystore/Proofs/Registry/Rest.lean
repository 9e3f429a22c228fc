import Polystore.Proofs.Registry.Answered
import Polystore.Proofs.Registry.Debt

/-!
# Registries at rest

Tasks that run one after another find the registry at rest: nobody has a lock, and a slot is full
exactly if it is on the map. An access gets the connection of its identifier at once. An operation
that takes connections off the map is left with the slots that it owes, and it empties one after
another.

* `Resting`: no task is under way, apart from one that owes slots;
* **`Resting.access`**: a block is entered and left, and nothing has changed;
* **`Resting.retire_cons`**: the first slot owed is emptied;
* `Resting.register`, `Resting.unregister`, `Resting.unregisterAll`: what operations owe;
* `Shows`: a plain map that has what callers see of a registry.
-/

set_option linter.unusedSectionVars false

namespace Polystore

namespace Registry

variable {τ κ : Type} [DecidableEq τ] {r r' : Registry τ κ} {t : τ} {key : SlotKey}
  {rest owed : List SlotKey} {id : String} {c : κ}

/-- No task is under way, apart from one that owes slots. -/
structure Resting (r : Registry τ κ) (owed : List SlotKey) : Prop where
  sound : r.Sound owed
  free : ∀ t, r.stage? t = none

/-- Two registries are alike to callers. -/
structure Alike (r r' : Registry τ κ) : Prop where
  ids : r'.ids = r.ids
  connection? : ∀ id, r'.connection? id = r.connection? id

theorem resting_empty : (empty : Registry τ κ).Resting [] := ⟨sound_empty, fun _ => rfl⟩

namespace Resting

theorem duties_eq_nil (h : r.Resting owed) (t : τ) : r.duties t = [] := duties_of_absent (h.free t)

theorem isTaken_eq_false (h : r.Resting owed) (p : Place) : r.isTaken p = false := by
  have hnil : r.queueAt p = [] := by
    refine List.eq_nil_iff_forall_not_mem.mpr fun t ht => ?_
    have hplace := (h.sound.queued.mem_iff t p).mp ht
    rw [view_of_absent (h.free t)] at hplace
    cases hplace
  rw [isTaken, hnil]
  rfl

theorem isSome_held? (h : r.Resting owed) :
    (r.held? key).isSome ↔ r.liveKey? key.id = some key ∨ key ∈ owed := by
  rw [h.sound.kept.held_iff]
  simp [h.duties_eq_nil]

theorem liveKey?_eq_none (h : r.Resting owed) (hc : r.connection? id = none) :
    r.liveKey? id = none := by
  cases hk : r.liveKey? id with
  | none => rfl
  | some key =>
    obtain ⟨c, -, hsome⟩ := connection?_eq_some h.sound hk
    rw [hsome] at hc
    cases hc

/-! ## Accesses -/

theorem access_none (h : r.Resting []) (hc : r.connection? id = none) (t : τ) :
    r.start t (.access id) = (r, some (.refused t id)) :=
  start_access_none h.sound.queue_eq_nil (h.free t) (h.liveKey?_eq_none hc)

/-- **An access enters its block at once**, and the registry is as before when it leaves. -/
theorem access (h : r.Resting []) (hc : r.connection? id = some c) (t : τ) :
    ∃ r', r.start t (.access id) = (r', some (.entered t id c)) ∧
      ∀ raised, (r'.leave t raised).1.Resting [] ∧ r.Alike (r'.leave t raised).1 := by
  obtain ⟨key, hk, hheld⟩ := Option.bind_eq_some_iff.mp hc
  have hline := h.sound.lineUp_use (h.free t) hk
  have hstage := stage?_lineUp_of_free (r := r) (t := t) (e := .use key id)
    (h.isTaken_eq_false (.slot key))
  have hheld' : (r.lineUp t (.use key id)).held? key = some c := by rw [held?_lineUp, hheld]
  refine ⟨(r.lineUp t (.use key id)).setStage t (.inside key c), ?_, fun raised => ?_⟩
  · rw [start_access_some h.sound.queue_eq_nil (h.free t) hk]
    simp [use, h.isTaken_eq_false, enter, hheld]
  have hinside : ((r.lineUp t (.use key id)).setStage t (.inside key c)).stage? t =
      some (.inside key c) := by simp
  have hleave : (((r.lineUp t (.use key id)).setStage t (.inside key c)).leave t raised).1 =
      ((r.lineUp t (.use key id)).setStage t (.inside key c)).quit t (.slot key) := by
    simp [leave, finish]
  rw [hleave]
  constructor
  · constructor
    case sound =>
      have := (hline.enter hstage hheld').quit (p := .slot key) (view_of_stage hinside)
      rwa [duties_of_stage hinside] at this
    case free =>
      intro u
      have := h.free u
      by_cases hu : t = u <;> simp [stage?_quit, stage?_lineUp, hu, this]
  · have hlive : (((r.lineUp t (.use key id)).setStage t (.inside key c)).quit t
        (.slot key)).live = r.live := by
      rw [live_quit]
      exact live_lineUp r t _
    exact ⟨by rw [ids, hlive, ids], fun i => connection?_congr (by simp) hlive⟩

/-! ## Retiring -/

/-- **The first slot owed is emptied**, and the task goes on with the others when its connection is
closed. -/
theorem retire_cons (h : r.Resting (key :: rest)) (t : τ) :
    ∃ (c : κ) (r' next : Registry τ κ), r.held? key = some c ∧
      r.retire t (key :: rest) = (r', some (.closing t c)) ∧
      r'.closed t = next.retire t rest ∧ next.Resting rest ∧ next.live = r.live ∧
      ∀ k, next.held? k = if key = k then none else r.held? k := by
  obtain ⟨c, hc⟩ := Option.isSome_iff_exists.mp
    (h.isSome_held?.mpr (.inr (List.mem_cons_self : key ∈ key :: rest)))
  have hline := h.sound.lineUp_retire (h.free t)
  have hstage := stage?_lineUp_of_free (r := r) (t := t) (e := .retire key rest)
    (h.isTaken_eq_false (.slot key))
  have htake := hline.takeOut hstage c
  set r' := (r.lineUp t (.retire key rest)).takeOut t key c rest with hr'
  have hself : r'.stage? t = some (.closing c rest) := stage?_takeOut_self ..
  refine ⟨c, r', r'.dropTask t, hc, ?_, ?_, ⟨htake.dropTask hself, fun u => ?_⟩, ?_, fun k => ?_⟩
  · simp [retire, h.isTaken_eq_false, vacate, hc, close, quit_drain, hr', takeOut]
  · simp [closed, hself]
  · have hdrain : ∀ q : Registry τ κ, (q.drain key).stage? u = q.stage? u := fun _ => rfl
    have hnone := h.free u
    by_cases hu : t = u <;> simp [hr', takeOut, hdrain, stage?_quit, stage?_lineUp, hu, hnone]
  · have hquit : r'.live = ((r.lineUp t (.retire key rest)).quit t (.slot key)).live := rfl
    change r'.live = r.live
    rw [hquit, live_quit, live_lineUp]
  · rw [held?_dropTask, hr', held?_takeOut, held?_lineUp]

/-- When all slots owed are emptied, callers see the same map. -/
theorem alike_of_emptied (h : r.Resting owed) (hlive : r'.live = r.live)
    (hheld : ∀ k, r'.held? k = if k ∈ owed then none else r.held? k) : r.Alike r' := by
  refine ⟨by rw [ids, hlive, ids], fun id => ?_⟩
  have hkey : r'.liveKey? id = r.liveKey? id := by rw [liveKey?, hlive, liveKey?]
  rw [connection?, connection?, hkey]
  cases hk : r.liveKey? id with
  | none => rfl
  | some key =>
    have hnot : key ∉ owed := fun hm =>
      h.sound.kept.not_live_of_owed key hm (id_of_liveKey? hk ▸ hk)
    rw [Option.bind_some, Option.bind_some, hheld, if_neg hnot]

/-! ## Operations -/

theorem register (h : r.Resting []) (id : String) (c : κ) :
    (r.register id c).Resting (r.liveKey? id).toList :=
  ⟨h.sound.register id c, h.free⟩

theorem unregister (h : r.Resting []) (id : String) :
    (r.unregister id).Resting (r.liveKey? id).toList :=
  ⟨h.sound.unregister id, h.free⟩

theorem unregisterAll (h : r.Resting []) : r.unregisterAll.Resting r.liveKeys :=
  ⟨h.sound.unregisterAll, h.free⟩

theorem held?_register_of_live (h : r.Resting []) {i : String} (hk : r.liveKey? i = some key) :
    (r.register id c).held? key = r.held? key :=
  held?_register_of_isSome key id c h.sound.numbered
    (h.isSome_held?.mpr (.inl (id_of_liveKey? hk ▸ hk)))

theorem connection?_register (h : r.Resting []) (i : String) :
    (r.register id c).connection? i = if id = i then some c else r.connection? i := by
  rw [connection?, liveKey?_register, connection?]
  split
  · rw [Option.bind_some, held?_register _ id c h.sound.numbered, if_pos rfl]
  · cases hk : r.liveKey? i with
    | none => rfl
    | some key => exact h.held?_register_of_live hk

theorem filterMap_register (h : r.Resting []) (id : String) (c : κ) :
    (r.liveKey? id).toList.filterMap (r.register id c).held? = (r.connection? id).toList := by
  rw [← filterMap_liveKey?]
  refine List.filterMap_congr fun key hk => ?_
  exact h.held?_register_of_live (i := id) (Option.mem_toList.mp hk)

end Resting

theorem connection?_unregister (i : String) :
    (r.unregister id).connection? i = if id = i then none else r.connection? i := by
  rw [connection?, liveKey?_unregister, connection?]
  split <;> rfl

/-! ## Plain maps -/

/-- A plain map shows a registry: it has the same identifiers in the same order, and under each of
them what is read off its connection. -/
structure Shows {β : Type} (f : κ → β) (r : Registry τ κ) (m : OrderedMap String β) : Prop where
  ids : r.ids = OrderedMap.keys m
  connection? : ∀ id, (r.connection? id).map f = OrderedMap.get? m id

namespace Shows

variable {β : Type} {f : κ → β} {m : OrderedMap String β}

theorem alike (h : r.Shows f m) (ha : r.Alike r') : r'.Shows f m :=
  ⟨ha.ids.trans h.ids, fun id => by rw [ha.connection?, h.connection?]⟩

theorem register (h : r.Shows f m) (hr : r.Resting []) (id : String) (c : κ) :
    (r.register id c).Shows f (OrderedMap.insert m id (f c)) := by
  refine ⟨?_, fun i => ?_⟩
  · rw [OrderedMap.keys_insert, ← h.ids]
    exact OrderedMap.keys_insert r.live id _
  · rw [OrderedMap.get?_insert, hr.connection?_register, ← h.connection?]
    split <;> rfl

theorem unregister (h : r.Shows f m) (id : String) :
    (r.unregister id).Shows f (OrderedMap.erase m id) := by
  refine ⟨?_, fun i => ?_⟩
  · rw [OrderedMap.keys_erase, ← h.ids]
    exact OrderedMap.keys_erase r.live id
  · rw [OrderedMap.get?_erase, connection?_unregister, ← h.connection?]
    split <;> rfl

theorem unregisterAll : r.unregisterAll.Shows f [] := ⟨rfl, fun _ => rfl⟩

/-- What is read off the connection of an identifier, as a list. -/
theorem map_connection? (h : r.Shows f m) (id : String) :
    (r.connection? id).toList.map f = (OrderedMap.get? m id).toList := by
  rw [← h.connection?]
  cases r.connection? id <;> rfl

/-- What is read off all connections, in the order of registration. -/
theorem map_filterMap_connection? (h : r.Shows f m) (hn : r.ids.Nodup) :
    (r.ids.filterMap r.connection?).map f = m.map Prod.snd := by
  have hkeys : (OrderedMap.keys m).Nodup := h.ids ▸ hn
  rw [List.map_filterMap, h.ids, OrderedMap.keys, List.filterMap_map, ← List.filterMap_eq_map]
  refine List.filterMap_congr fun entry hm => ?_
  have hget := (OrderedMap.get?_eq_some_iff hkeys entry.1 entry.2).mpr hm
  exact (h.connection? entry.1).trans hget

end Shows

end Registry

end Polystore
