import Mathlib.Data.List.Nodup
import Polystore.Registry

/-!
# Views of a registry

The state of a registry is read through a few functions, and each small change of the state is
described by what it does to them. Nothing else about the state is used later.

* `Registry.view`: what the stage of a task says; `Stage.errand?`, `Stage.inside?`,
  `Stage.closing?`, `Stage.place?`, `Stage.lock?` are the views used; `Registry.duties`: the slots
  that a task has to retire;
* **`Registry.quit_lineUp_map`** and, for each operation, **`Registry.start_access_some`** and its
  companions: a task that finds the map free looks at it, changes it and goes on at once.
-/

set_option linter.unusedSectionVars false

namespace Polystore

variable {τ κ : Type}

/-! ## Stages -/

namespace Stage

/-- The errand of a task that waits for a lock or was handed one. -/
def errand? : Stage κ → Option (Errand κ)
  | .waiting e | .granted e => some e
  | _ => none

/-- The block that a task is in. -/
def inside? : Stage κ → Option (SlotKey × κ)
  | .inside key c => some (key, c)
  | _ => none

/-- The call of `close` that a task is in, and what it has to retire behind. -/
def closing? : Stage κ → Option (κ × List SlotKey)
  | .closing c rest => some (c, rest)
  | _ => none

/-- The lock that a task has. -/
def lock? : Stage κ → Option Place
  | .granted e => some e.place
  | .inside key _ => some (.slot key)
  | _ => none

/-- The lock that a task has or waits for. -/
def place? : Stage κ → Option Place
  | .waiting e | .granted e => some e.place
  | .inside key _ => some (.slot key)
  | _ => none

/-- The slots that a task has to retire. -/
def duties : Stage κ → List SlotKey
  | .waiting (.retire key rest) | .granted (.retire key rest) => key :: rest
  | .closing _ rest => rest
  | _ => []

/-- A stage that is reached while the map is free and mapped slots are full. -/
def Smooth : Stage κ → Prop
  | .waiting (.operate _) | .granted (.operate _) | .retrying _ => False
  | _ => True

@[simp] theorem errand?_grant (s : Stage κ) : s.grant.errand? = s.errand? := by cases s <;> rfl

@[simp] theorem inside?_grant (s : Stage κ) : s.grant.inside? = s.inside? := by cases s <;> rfl

@[simp] theorem closing?_grant (s : Stage κ) : s.grant.closing? = s.closing? := by cases s <;> rfl

/-- A task that is handed a lock has the one that it waited for. -/
@[simp] theorem lock?_grant (s : Stage κ) : s.grant.lock? = s.place? := by cases s <;> rfl

@[simp] theorem place?_grant (s : Stage κ) : s.grant.place? = s.place? := by cases s <;> rfl

@[simp] theorem duties_grant (s : Stage κ) : s.grant.duties = s.duties := by
  cases s with
  | waiting e => cases e <;> rfl
  | _ => rfl

@[simp] theorem smooth_grant (s : Stage κ) : s.grant.Smooth ↔ s.Smooth := by
  cases s with
  | waiting e => cases e <;> rfl
  | _ => rfl

end Stage

namespace Registry

variable [DecidableEq τ] (r : Registry τ κ) {β : Type} (f : Stage κ → Option β)

/-! ## Views -/

/-- What a view of stages shows of a task. -/
def view (t : τ) : Option β := (r.stage? t).bind f

/-- The slots that a task has to retire. -/
def duties (t : τ) : List SlotKey := (r.view (fun s => some s.duties) t).getD []

/-- The names of all slots there ever were. -/
def slotKeys : List SlotKey := OrderedMap.keys r.slots

variable {r f} {t u : τ} {s : Stage κ}

theorem view_of_stage (h : r.stage? t = some s) : r.view f t = f s := by simp [view, h]

theorem view_of_absent (h : r.stage? t = none) : r.view f t = none := by simp [view, h]

theorem duties_of_stage (h : r.stage? t = some s) : r.duties t = s.duties := by
  simp [duties, view_of_stage h]

theorem duties_of_absent (h : r.stage? t = none) : r.duties t = [] := by
  simp [duties, view_of_absent h]

theorem errand?_eq_some {e : Errand κ} :
    r.view Stage.errand? t = some e ↔
      r.stage? t = some (.waiting e) ∨ r.stage? t = some (.granted e) := by
  simp only [view, Option.bind_eq_some_iff]
  constructor
  · rintro ⟨s, hs, h⟩
    cases s <;> simp_all [Stage.errand?]
  · rintro (h | h)
    · exact ⟨_, h, rfl⟩
    · exact ⟨_, h, rfl⟩

theorem inside?_eq_some {key : SlotKey} {c : κ} :
    r.view Stage.inside? t = some (key, c) ↔ r.stage? t = some (.inside key c) := by
  simp only [view, Option.bind_eq_some_iff]
  constructor
  · rintro ⟨s, hs, h⟩
    cases s <;> simp_all [Stage.inside?]
  · exact fun h => ⟨_, h, rfl⟩

theorem closing?_eq_some {c : κ} {rest : List SlotKey} :
    r.view Stage.closing? t = some (c, rest) ↔ r.stage? t = some (.closing c rest) := by
  simp only [view, Option.bind_eq_some_iff]
  constructor
  · rintro ⟨s, hs, h⟩
    cases s <;> simp_all [Stage.closing?]
  · exact fun h => ⟨_, h, rfl⟩

/-- A view that changes at one task only, and shows something else there, shows the same. -/
theorem view_iff_of_self {r' : Registry τ κ} {o : Option β} {x : β}
    (hv : r'.view f u = if t = u then o else r.view f u) (ho : r.view f t ≠ some x)
    (hn : o ≠ some x) : r'.view f u = some x ↔ r.view f u = some x := by
  rw [hv]
  split
  · rw [← ‹t = u›]
    exact iff_of_false hn ho
  · rfl

/-! ## Stages after a change -/

section Stages

variable (r t u s) (p q : Place) (g : List τ → List τ) (key : SlotKey) (id : String) (c : κ)

@[simp] theorem stage?_setStage :
    (r.setStage t s).stage? u = if t = u then some s else r.stage? u :=
  OrderedMap.get?_insert r.tasks t u s

@[simp] theorem stage?_dropTask :
    (r.dropTask t).stage? u = if t = u then none else r.stage? u :=
  OrderedMap.get?_erase r.tasks t u

@[simp] theorem stage?_modifyQueue : (r.modifyQueue p g).stage? t = r.stage? t := by
  cases p <;> rfl

theorem stage?_grant :
    (r.grant t).stage? u = if t = u then (r.stage? u).map Stage.grant else r.stage? u := by
  unfold grant
  cases h : r.stage? t with
  | none =>
    by_cases hu : t = u
    · subst hu; simp [h]
    · simp [hu]
  | some s =>
    by_cases hu : t = u
    · subst hu; simp [h]
    · simp [hu]

theorem stage?_release : (r.release p).stage? u =
    if (r.queueAt p)[1]? = some u then (r.stage? u).map Stage.grant else r.stage? u := by
  unfold release
  cases h : (r.queueAt p)[1]? with
  | none => simp
  | some next => simp [stage?_grant]

theorem stage?_quit : (r.quit t p).stage? u = if t = u then none else
    if (r.queueAt p)[1]? = some u then (r.stage? u).map Stage.grant else r.stage? u := by
  simp [quit, stage?_release]

theorem stage?_lineUp (e : Errand κ) : (r.lineUp t e).stage? u = if t = u then
    some (if r.isTaken e.place then .waiting e else .granted e) else r.stage? u := by
  simp [lineUp]

@[simp] theorem view_setStage : (r.setStage t s).view f u = if t = u then f s else r.view f u := by
  unfold view
  by_cases h : t = u <;> simp [h]

@[simp] theorem view_dropTask : (r.dropTask t).view f u = if t = u then none else r.view f u := by
  unfold view
  by_cases h : t = u <;> simp [h]

/-- A view that does not tell a handed lock from an awaited one is not changed by a release. -/
theorem view_quit (hf : ∀ s, f s.grant = f s) :
    (r.quit t p).view f u = if t = u then none else r.view f u := by
  unfold view
  rw [stage?_quit]
  by_cases h : t = u
  · simp [h]
  · by_cases h' : (r.queueAt p)[1]? = some u
    · cases hs : r.stage? u <;> simp [h, h', hf]
    · simp [h, h']

theorem lock?_quit : (r.quit t p).view Stage.lock? u =
    if t = u then none else
    if (r.queueAt p)[1]? = some u then r.view Stage.place? u else r.view Stage.lock? u := by
  unfold view
  rw [stage?_quit]
  by_cases h : t = u
  · simp [h]
  · by_cases h' : (r.queueAt p)[1]? = some u
    · cases hs : r.stage? u <;> simp [h, h']
    · simp [h, h']

theorem view_lineUp (hf : ∀ s, f s.grant = f s) (e : Errand κ) :
    (r.lineUp t e).view f u = if t = u then f (.waiting e) else r.view f u := by
  unfold view
  rw [stage?_lineUp]
  by_cases h : t = u
  · have hg : f (.granted e) = f (.waiting e) := hf (.waiting e)
    cases r.isTaken e.place <;> simp [h, hg]
  · simp [h]

variable {r t u} in
/-- A view that shows nothing of a task that waits is not changed by lining up. -/
theorem view_lineUp_of_absent (ht : r.stage? t = none) (hf : ∀ s, f s.grant = f s) {e : Errand κ}
    (he : f (.waiting e) = none) : (r.lineUp t e).view f u = r.view f u := by
  rw [view_lineUp r t u hf]
  split
  · rw [he, ← ‹t = u›, view_of_absent ht]
  · rfl

theorem lock?_lineUp (e : Errand κ) : (r.lineUp t e).view Stage.lock? u =
    if t = u then (if r.isTaken e.place then none else some e.place) else r.view Stage.lock? u := by
  unfold view
  rw [stage?_lineUp]
  by_cases h : t = u
  · cases r.isTaken e.place <;> simp [h, Stage.lock?]
  · simp [h]

theorem duties_setStage :
    (r.setStage t s).duties u = if t = u then s.duties else r.duties u := by
  unfold duties
  rw [view_setStage]
  split <;> rfl

theorem duties_dropTask : (r.dropTask t).duties u = if t = u then [] else r.duties u := by
  unfold duties
  rw [view_dropTask]
  split <;> rfl

theorem duties_quit : (r.quit t p).duties u = if t = u then [] else r.duties u := by
  unfold duties
  rw [view_quit r t u p (by simp)]
  split <;> rfl

theorem duties_lineUp (e : Errand κ) :
    (r.lineUp t e).duties u = if t = u then (Stage.waiting e).duties else r.duties u := by
  unfold duties
  rw [view_lineUp r t u (by simp)]
  split <;> rfl

end Stages

/-! ## Queues after a change -/

section Queues

variable (r t s) (p q : Place) (g : List τ → List τ) (key : SlotKey) (id : String) (c : κ)

@[simp] theorem queueAt_setStage : (r.setStage t s).queueAt q = r.queueAt q := by cases q <;> rfl

@[simp] theorem queueAt_dropTask : (r.dropTask t).queueAt q = r.queueAt q := by cases q <;> rfl

@[simp] theorem queueAt_unregister : (r.unregister id).queueAt q = r.queueAt q := by
  cases q <;> rfl

@[simp] theorem queueAt_unregisterAll : r.unregisterAll.queueAt q = r.queueAt q := by
  cases q <;> rfl

@[simp] theorem queueAt_drain : (r.drain key).queueAt q = r.queueAt q := by
  cases q with
  | map => rfl
  | slot k =>
    simp only [queueAt, drain, modifySlot, OrderedMap.get?_modify]
    split <;> cases OrderedMap.get? r.slots k <;> rfl

/-- A new slot has an empty queue, like one that never was. -/
@[simp] theorem queueAt_register : (r.register id c).queueAt q = r.queueAt q := by
  cases q with
  | map => rfl
  | slot k =>
    simp only [queueAt, register, OrderedMap.get?_append, OrderedMap.get?_cons]
    cases OrderedMap.get? r.slots k
    · by_cases h : r.nextKey id = k <;> simp [h]
    · rfl

theorem queueAt_modifyQueue (h : g [] = [] ∨ ∀ key, p = .slot key → (r.held? key).isSome) :
    (r.modifyQueue p g).queueAt q = if p = q then g (r.queueAt q) else r.queueAt q := by
  cases p with
  | map => cases q <;> rfl
  | slot k =>
    cases q with
    | map => rfl
    | slot k' =>
      by_cases hk : k = k'
      · subst hk
        simp only [queueAt, modifyQueue, modifySlot, OrderedMap.get?_modify, if_true]
        cases hs : OrderedMap.get? r.slots k with
        | some slot => rfl
        | none =>
          rcases h with h | h
          · exact h.symm
          · simpa [held?, hs] using h k rfl
      · simp [queueAt, modifyQueue, modifySlot, OrderedMap.get?_modify, hk]

@[simp] theorem queueAt_grant : (r.grant t).queueAt q = r.queueAt q := by
  unfold grant
  split <;> simp

theorem queueAt_release :
    (r.release p).queueAt q = if p = q then (r.queueAt q).tail else r.queueAt q := by
  have h := queueAt_modifyQueue r p q List.tail (.inl rfl)
  unfold release
  split <;> simp [h]

@[simp] theorem queueAt_quit :
    (r.quit t p).queueAt q = if p = q then (r.queueAt q).tail else r.queueAt q := by
  simp [quit, queueAt_release]

variable {r t key} in
/-- Lining up for a full slot puts a task at the end of its queue. -/
theorem queueAt_lineUp {e : Errand κ} (he : e.place = .slot key) (hk : (r.held? key).isSome) :
    (r.lineUp t e).queueAt q =
      if .slot key = q then r.queueAt q ++ [t] else r.queueAt q := by
  rw [lineUp, queueAt_setStage, he, queueAt_modifyQueue]
  refine .inr fun k hk' => ?_
  cases hk'
  exact hk

end Queues

/-! ## Connections after a change -/

section Connections

variable (r t s) (p : Place) (g : List τ → List τ) (e : Errand κ) (key k : SlotKey) (id i : String)
  (c : κ)

@[simp] theorem held?_setStage : (r.setStage t s).held? key = r.held? key := rfl

@[simp] theorem held?_dropTask : (r.dropTask t).held? key = r.held? key := rfl

@[simp] theorem held?_unregister : (r.unregister id).held? key = r.held? key := rfl

@[simp] theorem held?_unregisterAll : r.unregisterAll.held? key = r.held? key := rfl

@[simp] theorem held?_modifyQueue : (r.modifyQueue p g).held? key = r.held? key := by
  cases p with
  | map => rfl
  | slot k =>
    simp only [held?, modifyQueue, modifySlot, OrderedMap.get?_modify]
    split <;> cases OrderedMap.get? r.slots key <;> rfl

@[simp] theorem held?_lineUp : (r.lineUp t e).held? key = r.held? key := by simp [lineUp]

@[simp] theorem held?_grant : (r.grant t).held? key = r.held? key := by
  unfold grant
  split <;> simp

@[simp] theorem held?_quit : (r.quit t p).held? key = r.held? key := by
  unfold quit release
  split <;> simp

@[simp] theorem held?_drain : (r.drain key).held? k = if key = k then none else r.held? k := by
  simp only [held?, drain, modifySlot, OrderedMap.get?_modify]
  by_cases h : key = k
  · cases hs : OrderedMap.get? r.slots k <;> simp [h]
  · simp [h]

theorem modifyQueue_drain :
    (r.drain key).modifyQueue p g = (r.modifyQueue p g).drain key := by
  cases p with
  | map => rfl
  | slot k =>
    simp only [modifyQueue, drain, modifySlot, OrderedMap.modify, List.map_map]
    congr 1
    refine List.map_congr_left fun entry _ => ?_
    by_cases h : entry.1 = k <;> by_cases h' : entry.1 = key <;> simp [h, h']
    all_goals split <;> simp_all

/-- A slot may be given up before or after it is emptied. -/
theorem quit_drain : (r.drain key).quit t p = (r.quit t p).drain key := by
  have hgrant : ∀ (q : Registry τ κ) (u : τ), (q.drain key).grant u = (q.grant u).drain key := by
    intro q u
    have hs : (q.drain key).stage? u = q.stage? u := rfl
    unfold grant
    rw [hs]
    split <;> rfl
  unfold quit release
  rw [queueAt_drain]
  split
  · rw [modifyQueue_drain, hgrant]
    rfl
  · rw [modifyQueue_drain]
    rfl

@[simp] theorem live_modifyQueue : (r.modifyQueue p g).live = r.live := by cases p <;> rfl

@[simp] theorem live_lineUp : (r.lineUp t e).live = r.live := live_modifyQueue r e.place _

@[simp] theorem live_grant : (r.grant t).live = r.live := by
  unfold grant
  split <;> rfl

@[simp] theorem live_quit : (r.quit t p).live = r.live := by
  unfold quit release
  split <;> simp [dropTask]

theorem live_retire {r : Registry τ κ} (owed : List SlotKey) :
    (r.retire t owed).1.live = r.live := by
  induction owed generalizing r with
  | nil => rfl
  | cons key rest ih =>
    simp only [retire]
    split
    · exact live_lineUp ..
    · have hvacate : ((r.lineUp t (.retire key rest)).vacate t key).1.live = r.live := by
        simp [vacate, drain, modifySlot]
      split <;> simp_all [close, setStage]

@[simp] theorem liveKey?_setStage : (r.setStage t s).liveKey? id = r.liveKey? id := rfl

@[simp] theorem liveKey?_drain : (r.drain key).liveKey? id = r.liveKey? id := rfl

@[simp] theorem liveKey?_lineUp : (r.lineUp t e).liveKey? id = r.liveKey? id := by simp [liveKey?]

@[simp] theorem liveKey?_quit : (r.quit t p).liveKey? id = r.liveKey? id := by simp [liveKey?]

theorem id_of_liveKey? {r : Registry τ κ} {id : String} {key : SlotKey}
    (h : r.liveKey? id = some key) : key.id = id := by
  simp only [liveKey?, Option.map_eq_some_iff] at h
  obtain ⟨g, -, rfl⟩ := h
  rfl

theorem mem_liveKeys {r : Registry τ κ} (h : r.ids.Nodup) {key : SlotKey} :
    key ∈ r.liveKeys ↔ r.liveKey? key.id = some key := by
  obtain ⟨i, g⟩ := key
  simp only [liveKeys, List.mem_map, liveKey?, Option.map_eq_some_iff, SlotKey.mk.injEq]
  constructor
  · rintro ⟨⟨i, g⟩, hm, rfl, rfl⟩
    exact ⟨g, (OrderedMap.get?_eq_some_iff h i g).mpr hm, trivial, rfl⟩
  · rintro ⟨g', hg, -, rfl⟩
    exact ⟨(i, g'), (OrderedMap.get?_eq_some_iff h i g').mp hg, rfl, rfl⟩

theorem nodup_liveKeys {r : Registry τ κ} (h : r.ids.Nodup) : r.liveKeys.Nodup := by
  have : r.liveKeys.map SlotKey.id = r.ids := by
    simp [liveKeys, ids, OrderedMap.keys, Function.comp_def]
  exact List.Nodup.of_map SlotKey.id (this ▸ h)

theorem liveKey?_register :
    (r.register id c).liveKey? i = if id = i then some (r.nextKey id) else r.liveKey? i := by
  simp only [liveKey?, register, OrderedMap.get?_insert]
  by_cases h : id = i
  · subst h; simp [nextKey]
  · simp [h]

theorem liveKey?_unregister :
    (r.unregister id).liveKey? i = if id = i then none else r.liveKey? i := by
  simp only [liveKey?, unregister, OrderedMap.get?_erase]
  split <;> rfl

@[simp] theorem liveKey?_unregisterAll : r.unregisterAll.liveKey? id = none := rfl

theorem connection?_congr {r r' : Registry τ κ} {id : String}
    (hh : ∀ key, r'.held? key = r.held? key) (hl : r'.live = r.live) :
    r'.connection? id = r.connection? id := by
  have hlk : r'.liveKey? id = r.liveKey? id := by simp [liveKey?, hl]
  rw [connection?, connection?, hlk, funext hh]

end Connections

/-! ## Names of slots -/

section Names

variable (r t s) (p : Place) (g : List τ → List τ) (e : Errand κ) (key : SlotKey) (id : String)
  (c : κ)

@[simp] theorem slotKeys_modifyQueue : (r.modifyQueue p g).slotKeys = r.slotKeys := by
  cases p with
  | map => rfl
  | slot key => simp [slotKeys, modifyQueue, modifySlot]

@[simp] theorem slotKeys_drain : (r.drain key).slotKeys = r.slotKeys := by
  simp [slotKeys, drain, modifySlot]

@[simp] theorem slotKeys_setStage : (r.setStage t s).slotKeys = r.slotKeys := rfl

@[simp] theorem slotKeys_dropTask : (r.dropTask t).slotKeys = r.slotKeys := rfl

@[simp] theorem slotKeys_lineUp : (r.lineUp t e).slotKeys = r.slotKeys := by simp [lineUp]

@[simp] theorem slotKeys_quit : (r.quit t p).slotKeys = r.slotKeys := by
  unfold quit release grant
  split <;> (try split) <;> simp

@[simp] theorem slotKeys_register :
    (r.register id c).slotKeys = r.slotKeys ++ [r.nextKey id] := by
  simp [slotKeys, register, OrderedMap.keys]

/-- The slots of an identifier are numbered from zero on. -/
def Numbered (r : Registry τ κ) : Prop :=
  ∀ key ∈ r.slotKeys, key.generation < (r.nextKey key.id).generation

theorem nextKey_eq :
    r.nextKey id = ⟨id, (r.slotKeys.filter fun key => key.id = id).length⟩ := by
  simp [nextKey, slotKeys, OrderedMap.keys, List.filter_map, Function.comp_def]

variable {r}

theorem Numbered.congr {r' : Registry τ κ} (h : r.Numbered) (hk : r'.slotKeys = r.slotKeys) :
    r'.Numbered := by
  intro key hm
  rw [nextKey_eq, hk, ← nextKey_eq]
  exact h key (hk ▸ hm)

theorem Numbered.register (h : r.Numbered) : (r.register id c).Numbered := by
  intro key hm
  rw [slotKeys_register, List.mem_append, List.mem_singleton] at hm
  rw [nextKey_eq, slotKeys_register, List.filter_append, List.length_append]
  rcases hm with hm | rfl
  · have := h key hm
    rw [nextKey_eq] at this
    simp only at this ⊢
    omega
  · simp [nextKey_eq]

theorem Numbered.get?_nextKey (h : r.Numbered) : OrderedMap.get? r.slots (r.nextKey id) = none := by
  rw [OrderedMap.get?_eq_none_iff]
  intro hm
  exact Nat.lt_irrefl _ (h _ hm)

theorem Numbered.held?_nextKey (h : r.Numbered) : r.held? (r.nextKey id) = none := by
  simp [held?, h.get?_nextKey]

theorem held?_register (h : r.Numbered) :
    (r.register id c).held? key = if r.nextKey id = key then some c else r.held? key := by
  simp only [held?, register, OrderedMap.get?_append, OrderedMap.get?_cons]
  by_cases hk : r.nextKey id = key
  · subst hk
    simp [h.get?_nextKey]
  · cases hs : OrderedMap.get? r.slots key <;> simp [hk]

/-- Registering leaves the slots alone that have a connection. -/
theorem held?_register_of_isSome (h : r.Numbered) (hk : (r.held? key).isSome) :
    (r.register id c).held? key = r.held? key := by
  rw [held?_register key id c h, if_neg]
  rintro rfl
  simp [h.held?_nextKey] at hk

end Names

/-! ## A connection is taken out -/

section TakeOut

variable (r t u) (key k : SlotKey) (c : κ) (rest : List SlotKey) (id : String) (q : Place)

/-- A task gives its slot up, takes the connection out of it and calls `close`. -/
def takeOut : Registry τ κ := ((r.quit t (.slot key)).drain key).setStage t (.closing c rest)

theorem stage?_takeOut_self : (r.takeOut t key c rest).stage? t = some (.closing c rest) := by
  simp [takeOut]

theorem view_takeOut (hf : ∀ s, f s.grant = f s) : (r.takeOut t key c rest).view f u =
    if t = u then f (.closing c rest) else r.view f u := by
  have hdrain : ((r.quit t (.slot key)).drain key).view f u = (r.quit t (.slot key)).view f u :=
    rfl
  rw [takeOut, view_setStage, hdrain, view_quit r t u _ hf]
  split <;> rfl

@[simp] theorem held?_takeOut :
    (r.takeOut t key c rest).held? k = if key = k then none else r.held? k := by
  simp [takeOut]

@[simp] theorem queueAt_takeOut : (r.takeOut t key c rest).queueAt q =
    if .slot key = q then (r.queueAt q).tail else r.queueAt q := by
  simp [takeOut]

@[simp] theorem liveKey?_takeOut : (r.takeOut t key c rest).liveKey? id = r.liveKey? id := by
  simp [takeOut]

end TakeOut

/-! ## Operations on a free map -/

section Free

variable (hq : r.queue = []) (ht : r.stage? t = none)

include hq ht

/-- A task has the free map only for the moment in which it reads or changes it: here `g` is what it
does with the map in hand. -/
theorem quit_lineUp_map (op : Operation κ) (g : Registry τ κ → Registry τ κ)
    (hg : ∀ queue tasks, g { r with queue, tasks } = { g r with queue, tasks })
    (hgq : (g r).queue = r.queue) (hgt : (g r).tasks = r.tasks) :
    (g (r.lineUp t (.operate op))).quit t .map = g r := by
  have htasks : OrderedMap.get? r.tasks t = none := ht
  have hline : r.lineUp t (.operate op) =
      { r with
        queue := [t]
        tasks := OrderedMap.insert r.tasks t (.granted (.operate op)) } := by
    simp [lineUp, Errand.place, modifyQueue, setStage, isTaken, queueAt, hq]
  have herase : OrderedMap.erase (OrderedMap.insert r.tasks t (.granted (.operate op))) t =
      (g r).tasks := by
    rw [OrderedMap.erase_insert_self, OrderedMap.erase_eq_self htasks, hgt]
  have hqueue : (g r).queue = [] := hgq.trans hq
  rw [hline, hg]
  simp [quit, release, queueAt, modifyQueue, dropTask, herase, ← hqueue]

theorem start_eq_operate (op : Operation κ) :
    r.start t op = (r.lineUp t (.operate op)).operate t op := by
  simp [start, ht, seek, isTaken, queueAt, hq]

theorem start_access_none {id : String} (h : r.liveKey? id = none) :
    r.start t (.access id) = (r, some (.refused t id)) := by
  have hquit := quit_lineUp_map hq ht (.access id) (fun r => r) (fun _ _ => rfl) rfl rfl
  rw [start_eq_operate hq ht]
  simp [operate, h, hquit, refuse]

theorem start_access_some {id : String} {key : SlotKey} (h : r.liveKey? id = some key) :
    r.start t (.access id) = r.use t key id := by
  have hquit := quit_lineUp_map hq ht (.access id) (fun r => r) (fun _ _ => rfl) rfl rfl
  rw [start_eq_operate hq ht]
  simp [operate, h, hquit]

theorem start_replace (id : String) (c : κ) :
    r.start t (.replace id c) = (r.register id c).retire t (r.liveKey? id).toList := by
  have hquit := quit_lineUp_map hq ht (.replace id c) (register · id c) (fun _ _ => rfl) rfl rfl
  rw [start_eq_operate hq ht]
  simp [operate, hquit]

theorem start_remove (id : String) :
    r.start t (.remove id) = (r.unregister id).retire t (r.liveKey? id).toList := by
  have hquit := quit_lineUp_map hq ht (.remove id) (unregister · id) (fun _ _ => rfl) rfl rfl
  rw [start_eq_operate hq ht]
  simp [operate, hquit]

theorem start_closeAll : r.start t .closeAll = r.unregisterAll.retire t r.liveKeys := by
  have hquit := quit_lineUp_map hq ht .closeAll unregisterAll (fun _ _ => rfl) rfl rfl
  rw [start_eq_operate hq ht, operate, hquit]
  rfl

end Free

end Registry

end Polystore
