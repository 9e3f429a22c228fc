import Polystore.Proofs.Registry.Move

/-!
# The map takes effect at once

The map of identifiers changes when a task is started, and at no other time. Blocks that are open,
tasks that wait, calls of `close` that fail or never come back, and tasks that are cancelled leave
it alone, and what is on the map keeps its connection.

Nothing here needs a sound registry, because cancelled tasks leave slots behind that nobody retires.
Two things are enough: nobody has the map between two steps, and what a task has to retire is off
the map for good.

* `Operation.change`: what a task that is started does to a map;
* `Registry.launched`: the operations of the tasks that inputs start;
* `Detached`: a slot that is off the map; `Mirrors`: a registry shows a map;
* `Mirrors.start`, **`Mirrors.step`**: every step keeps a registry a mirror of the map that the
  starts make; `mirrors_reached`;
* `UpToDate`, **`starts_take_effect`**: what follows for callers.
-/

set_option linter.unusedSectionVars false

namespace Polystore

variable {τ κ : Type}

/-- What a task that is started does to the map of identifiers. -/
def Operation.change (m : OrderedMap String κ) : Operation κ → OrderedMap String κ
  | .access _ => m
  | .replace id c => OrderedMap.insert m id c
  | .remove id => OrderedMap.erase m id
  | .closeAll => []

namespace Registry

variable [DecidableEq τ]

/-- The operation that an input starts, unless it gives the name of an unfinished task. -/
def launch? (r : Registry τ κ) : Input τ κ → Option (Operation κ)
  | .start t op => if (r.stage? t).isNone then some op else none
  | _ => none

/-- The operations that inputs start, one after another. -/
def launched (r : Registry τ κ) : List (Input τ κ) → List (Operation κ)
  | [] => []
  | input :: inputs => (r.launch? input).toList ++ (r.step input).1.launched inputs

variable {r r' : Registry τ κ} {m : OrderedMap String κ} {t : τ} {key : SlotKey} {id : String}
  {c : κ} {rest owed : List SlotKey} {e : Errand κ} {s : Stage κ}

/-! ## Slots off the map -/

/-- A slot that is off the map, and that no identifier will ever have again. -/
def Detached (r : Registry τ κ) (key : SlotKey) : Prop :=
  key ∈ r.slotKeys ∧ r.liveKey? key.id ≠ some key

theorem detached_congr (hl : r'.live = r.live) (hk : r'.slotKeys = r.slotKeys) :
    r'.Detached key ↔ r.Detached key := by
  simp only [Detached, liveKey?, hl, hk]

theorem mem_slotKeys_of_held (hc : r.held? key = some c) : key ∈ r.slotKeys := by
  refine Decidable.not_not.mp fun hk => ?_
  have hnone : OrderedMap.get? r.slots key = none := (OrderedMap.get?_eq_none_iff ..).mpr hk
  simp [held?, hnone] at hc

theorem Numbered.nextKey_notMem (h : r.Numbered) (id : String) : r.nextKey id ∉ r.slotKeys :=
  (OrderedMap.get?_eq_none_iff ..).mp (h.get?_nextKey id)

/-! ## Mirrors -/

/-- Between two steps, a registry shows a map of connections: nobody has or wants its own map,
what is on the map has a connection, and what tasks have to retire is off the map. -/
structure Mirrors (r : Registry τ κ) (m : OrderedMap String κ) : Prop where
  free : r.queue = []
  errand : ∀ t op, r.view Stage.errand? t ≠ some (.operate op)
  numbered : r.Numbered
  detached : ∀ t, ∀ key ∈ r.duties t, r.Detached key
  nodup : (OrderedMap.keys m).Nodup
  ids : r.ids = OrderedMap.keys m
  connection? : ∀ id, r.connection? id = OrderedMap.get? m id

theorem mirrors_empty : (empty : Registry τ κ).Mirrors [] where
  free := rfl
  errand t op := by simp [view_of_absent (show (empty : Registry τ κ).stage? t = none from rfl)]
  numbered := by simp [Numbered, slotKeys, empty, OrderedMap.keys]
  detached t := by simp [duties_of_absent (show (empty : Registry τ κ).stage? t = none from rfl)]
  nodup := List.nodup_nil
  ids := rfl
  connection? _ := rfl

namespace Mirrors

/-- Whatever leaves alone the map and the slots that are not off it. -/
theorem congr (h : r.Mirrors m) (hq : r'.queueAt .map = r.queueAt .map) (hl : r'.live = r.live)
    (hk : r'.slotKeys = r.slotKeys) (hh : ∀ key, ¬r.Detached key → r'.held? key = r.held? key)
    (he : ∀ t op, r'.view Stage.errand? t ≠ some (.operate op))
    (hd : ∀ t, ∀ key ∈ r'.duties t, r.Detached key) : r'.Mirrors m where
  free := hq.trans h.free
  errand := he
  numbered := h.numbered.congr hk
  detached t key hm := (detached_congr hl hk).mpr (hd t key hm)
  nodup := h.nodup
  ids := by rw [Registry.ids, hl, ← h.ids, Registry.ids]
  connection? id := by
    have hlive : r'.liveKey? id = r.liveKey? id := by simp [liveKey?, hl]
    rw [← h.connection?, Registry.connection?, Registry.connection?, hlive]
    refine Option.bind_congr fun key hkey => hh key fun hdetached => ?_
    exact hdetached.2 (id_of_liveKey? hkey ▸ hkey)

theorem setStage (h : r.Mirrors m) (hs : ∀ op, s.errand? ≠ some (.operate op))
    (hd : ∀ key ∈ s.duties, r.Detached key) : (r.setStage t s).Mirrors m := by
  refine h.congr (by simp) rfl rfl (fun _ _ => rfl) (fun u op => ?_) fun u key hk => ?_
  · rw [view_setStage]
    split
    · exact hs op
    · exact h.errand u op
  · rw [duties_setStage] at hk
    split at hk
    · exact hd key hk
    · exact h.detached u key hk

theorem dropTask (h : r.Mirrors m) : (r.dropTask t).Mirrors m := by
  refine h.congr (by simp) rfl rfl (fun _ _ => rfl) (fun u op => ?_) fun u key hk => ?_
  · rw [view_dropTask]
    split
    · simp
    · exact h.errand u op
  · rw [duties_dropTask] at hk
    split at hk
    · simp at hk
    · exact h.detached u key hk

/-- Changing the queue of a slot. -/
theorem modifyQueue (h : r.Mirrors m) (f : List τ → List τ) :
    (r.modifyQueue (.slot key) f).Mirrors m :=
  h.congr rfl rfl (by simp) (by simp) h.errand h.detached

theorem drain (h : r.Mirrors m) (hk : r.Detached key) : (r.drain key).Mirrors m := by
  refine h.congr (by simp) rfl (by simp) (fun k hd => ?_) h.errand h.detached
  rw [held?_drain, if_neg]
  rintro rfl
  exact hd hk

theorem quit (h : r.Mirrors m) : (r.quit t (.slot key)).Mirrors m := by
  refine h.congr (by simp) (by simp) (by simp) (by simp) (fun u op => ?_) fun u k hk => ?_
  · rw [view_quit r t u _ Stage.errand?_grant]
    split
    · simp
    · exact h.errand u op
  · rw [duties_quit] at hk
    split at hk
    · simp at hk
    · exact h.detached u k hk

/-- Who lines up for a slot does not line up for the map. -/
theorem lineUp (h : r.Mirrors m) (he : e.place = .slot key)
    (hd : ∀ k ∈ (Stage.waiting e).duties, r.Detached k) : (r.lineUp t e).Mirrors m := by
  have hqueue : (r.lineUp t e).queueAt .map = r.queueAt .map := by
    rw [Registry.lineUp, queueAt_setStage, he]
    rfl
  refine h.congr hqueue (by simp) (by simp) (by simp) (fun u op => ?_) fun u k hk => ?_
  · rw [view_lineUp r t u Stage.errand?_grant]
    split
    · intro heq
      obtain rfl : e = .operate op := by simpa [Stage.errand?] using heq
      simp [Errand.place] at he
    · exact h.errand u op
  · rw [duties_lineUp] at hk
    split at hk
    · exact hd k hk
    · exact h.detached u k hk

/-! ## Using and retiring slots -/

theorem enter (h : r.Mirrors m) : (r.enter t key id).1.Mirrors m := by
  unfold Registry.enter
  split
  · exact h.setStage (by simp [Stage.errand?]) (by simp [Stage.duties])
  · exact h.quit.setStage (by simp [Stage.errand?]) (by simp [Stage.duties])

theorem use (h : r.Mirrors m) : (r.use t key id).1.Mirrors m := by
  have hline : (r.lineUp t (.use key id)).Mirrors m := h.lineUp rfl (by simp [Stage.duties])
  unfold Registry.use
  dsimp only
  split
  · exact hline
  · exact hline.enter

theorem vacate (h : r.Mirrors m) (hk : r.Detached key) : (r.vacate t key).1.Mirrors m :=
  (h.drain hk).quit

theorem detached_vacate {k : SlotKey} (hk : r.Detached k) : (r.vacate t key).1.Detached k := by
  refine (detached_congr ?_ ?_).mpr hk
  · rw [Registry.vacate, live_quit]
    rfl
  · simp [Registry.vacate]

theorem close (h : r.Mirrors m) (hr : ∀ k ∈ rest, r.Detached k) :
    (r.close t c rest).1.Mirrors m :=
  h.setStage (by simp [Stage.errand?]) hr

/-- The slot in hand is emptied, and the others are retired as they are elsewhere. -/
theorem retireHeld_of_retire (h : r.Mirrors m) (hk : ∀ k ∈ key :: rest, r.Detached k)
    (hrest : ∀ {r : Registry τ κ}, r.Mirrors m → (∀ k ∈ rest, r.Detached k) →
      (r.retire t rest).1.Mirrors m) : (r.retireHeld t key rest).1.Mirrors m := by
  have hvacate := h.vacate (t := t) (hk key List.mem_cons_self)
  have hdetached : ∀ k ∈ rest, (r.vacate t key).1.Detached k :=
    fun k hm => detached_vacate (hk k (List.mem_cons_of_mem _ hm))
  unfold Registry.retireHeld
  split
  · rename_i heq
    rw [heq] at hvacate hdetached
    exact hvacate.close hdetached
  · rename_i heq
    rw [heq] at hvacate hdetached
    exact hrest hvacate hdetached

/-- Slots that are off the map are retired without a change of the map. -/
theorem retire (h : r.Mirrors m) (ho : ∀ k ∈ owed, r.Detached k) :
    (r.retire t owed).1.Mirrors m := by
  induction owed generalizing r with
  | nil => exact h
  | cons key rest ih =>
    have hline : (r.lineUp t (.retire key rest)).Mirrors m := h.lineUp rfl ho
    cases htk : r.isTaken (.slot key) with
    | true => simpa [Registry.retire, htk] using hline
    | false =>
      rw [retire_of_free htk]
      refine hline.retireHeld_of_retire (fun k hk => ?_) ih
      exact (detached_congr (by simp) (by simp)).mpr (ho k hk)

theorem retireHeld (h : r.Mirrors m) (hk : ∀ k ∈ key :: rest, r.Detached k) :
    (r.retireHeld t key rest).1.Mirrors m :=
  h.retireHeld_of_retire hk retire

/-! ## Changing the map -/

theorem mem_slotKeys (h : r.Mirrors m) (hk : r.liveKey? id = some key) : key ∈ r.slotKeys := by
  have hid : id ∈ OrderedMap.keys m := by
    rw [← h.ids, Registry.ids]
    refine Decidable.not_not.mp fun hnot => ?_
    have hnone := (OrderedMap.get?_eq_none_iff r.live id).mpr hnot
    simp [liveKey?, hnone] at hk
  have hsome : OrderedMap.get? m id ≠ none := fun hnone =>
    (OrderedMap.get?_eq_none_iff ..).mp hnone hid
  obtain ⟨c, hc⟩ := Option.ne_none_iff_exists'.mp hsome
  rw [← h.connection?, Registry.connection?, hk, Option.bind_some] at hc
  exact mem_slotKeys_of_held hc

theorem register (h : r.Mirrors m) (id : String) (c : κ) :
    (r.register id c).Mirrors (OrderedMap.insert m id c) where
  free := h.free
  errand := h.errand
  numbered := h.numbered.register id c
  detached t key hk := by
    obtain ⟨hmem, hlive⟩ := h.detached t key hk
    refine ⟨by simp [hmem], ?_⟩
    rw [liveKey?_register]
    split
    · exact fun heq => h.numbered.nextKey_notMem id (Option.some.inj heq ▸ hmem)
    · exact hlive
  nodup := nodup_keys_insert h.nodup id c
  ids := by
    have hkeys : OrderedMap.keys r.live = OrderedMap.keys m := h.ids
    change OrderedMap.keys (OrderedMap.insert r.live id _) = _
    rw [OrderedMap.keys_insert, OrderedMap.keys_insert, hkeys]
  connection? i := by
    rw [Registry.connection?, liveKey?_register, OrderedMap.get?_insert, ← h.connection?]
    split
    · rw [Option.bind_some, held?_register _ _ _ h.numbered, if_pos rfl]
    · refine Option.bind_congr fun key hkey => ?_
      rw [held?_register _ _ _ h.numbered, if_neg]
      rintro rfl
      exact ‹¬id = i› (id_of_liveKey? hkey)

theorem detached_register (h : r.Mirrors m) (hk : r.liveKey? id = some key) :
    (r.register id c).Detached key := by
  have hmem := h.mem_slotKeys hk
  refine ⟨by simp [hmem], ?_⟩
  rw [liveKey?_register, id_of_liveKey? hk, if_pos rfl]
  exact fun heq => h.numbered.nextKey_notMem id (Option.some.inj heq ▸ hmem)

theorem unregister (h : r.Mirrors m) (id : String) :
    (r.unregister id).Mirrors (OrderedMap.erase m id) where
  free := h.free
  errand := h.errand
  numbered := h.numbered.congr rfl
  detached t key hk := by
    obtain ⟨hmem, hlive⟩ := h.detached t key hk
    refine ⟨hmem, ?_⟩
    rw [liveKey?_unregister]
    split
    · simp
    · exact hlive
  nodup := by
    rw [OrderedMap.keys_erase]
    exact h.nodup.filter _
  ids := by
    have hkeys : OrderedMap.keys r.live = OrderedMap.keys m := h.ids
    change OrderedMap.keys (OrderedMap.erase r.live id) = _
    rw [OrderedMap.keys_erase, OrderedMap.keys_erase, hkeys]
  connection? i := by
    rw [Registry.connection?, liveKey?_unregister, OrderedMap.get?_erase, ← h.connection?]
    split
    · rfl
    · rfl

theorem unregisterAll (h : r.Mirrors m) : r.unregisterAll.Mirrors [] where
  free := h.free
  errand := h.errand
  numbered := h.numbered.congr rfl
  detached t key hk := ⟨(h.detached t key hk).1, by simp⟩
  nodup := List.nodup_nil
  ids := rfl
  connection? _ := rfl

/-! ## Steps -/

/-- **A task that is started changes the map at once.** -/
theorem start (h : r.Mirrors m) (ht : r.stage? t = none) (op : Operation κ) :
    (r.start t op).1.Mirrors (op.change m) := by
  cases op with
  | access id =>
    cases hk : r.liveKey? id with
    | none =>
      rw [start_access_none h.free ht hk]
      exact h
    | some key =>
      rw [start_access_some h.free ht hk]
      exact h.use
  | replace id c =>
    rw [start_replace h.free ht]
    exact (h.register id c).retire fun k hk => h.detached_register (Option.mem_toList.mp hk)
  | remove id =>
    rw [start_remove h.free ht]
    refine (h.unregister id).retire fun k hk => ?_
    have hlive : r.liveKey? id = some k := Option.mem_toList.mp hk
    exact ⟨h.mem_slotKeys hlive, by simp [liveKey?_unregister, id_of_liveKey? hlive]⟩
  | closeAll =>
    rw [start_closeAll h.free ht]
    have hids : r.ids.Nodup := h.ids ▸ h.nodup
    refine h.unregisterAll.retire fun k hk => ⟨?_, by simp⟩
    exact h.mem_slotKeys ((mem_liveKeys hids).mp hk)

theorem leave (h : r.Mirrors m) (raised : Bool) : (r.leave t raised).1.Mirrors m := by
  unfold Registry.leave
  split
  · exact h.quit
  · exact h

theorem closed (h : r.Mirrors m) : (r.closed t).1.Mirrors m := by
  unfold Registry.closed
  split
  · rename_i c rest ht
    refine h.dropTask.retire fun k hk => (detached_congr rfl rfl).mpr (h.detached t k ?_)
    rwa [duties_of_stage ht]
  · exact h

theorem resume (h : r.Mirrors m) : (r.resume t).1.Mirrors m := by
  unfold Registry.resume
  split
  · rename_i op ht
    exact absurd (view_of_stage ht) (h.errand t op)
  · exact h.enter
  · rename_i key rest ht
    refine h.retireHeld fun k hk => h.detached t k ?_
    rwa [duties_of_stage ht]
  · rename_i id ht
    -- the map is free, so the identifier is looked up at once, as at a start
    have habsent : (r.dropTask t).stage? t = none := by simp
    have hstart := h.dropTask.start habsent (.access id)
    rwa [Registry.start, habsent] at hstart
  · exact h

theorem cancel (h : r.Mirrors m) : (r.cancel t).1.Mirrors m := by
  have hplace : ∀ e, r.view Stage.errand? t = some e → ∃ key, e.place = .slot key := by
    intro e he
    cases e with
    | operate op => exact absurd he (h.errand t op)
    | use key id => exact ⟨key, rfl⟩
    | retire key rest => exact ⟨key, rfl⟩
  unfold Registry.cancel
  split
  · rename_i e ht
    obtain ⟨key, hkey⟩ := hplace e (view_of_stage ht)
    rw [hkey]
    exact (h.modifyQueue _).dropTask
  · rename_i e ht
    obtain ⟨key, hkey⟩ := hplace e (view_of_stage ht)
    rw [hkey]
    exact h.quit
  · exact h.quit
  · exact h.dropTask
  · exact h.dropTask
  · exact h

/-- **Only starts change the map.** -/
theorem step (h : r.Mirrors m) (input : Input τ κ) :
    (r.step input).1.Mirrors ((r.launch? input).toList.foldl Operation.change m) := by
  cases input with
  | start t op =>
    cases ht : r.stage? t with
    | none => simpa [Registry.step, answer, launch?, ht] using h.start ht op
    | some s => simpa [Registry.step, answer, launch?, Registry.start, ht] using h
  | leave t raised => exact h.leave raised
  | closed t raised => exact h.closed
  | resume t => exact h.resume
  | cancel t => exact h.cancel

theorem run (h : r.Mirrors m) (inputs : List (Input τ κ)) :
    (r.run inputs).1.Mirrors ((r.launched inputs).foldl Operation.change m) := by
  induction inputs generalizing r m with
  | nil => exact h
  | cons input inputs ih =>
    rw [launched, List.foldl_append]
    exact ih (h.step input)

end Mirrors

/-! ## Runs -/

/-- The registry that inputs lead to shows the map that the starts make one after another. -/
theorem mirrors_reached (inputs : List (Input τ κ)) :
    (reached inputs).Mirrors ((empty.launched inputs).foldl Operation.change []) :=
  mirrors_empty.run inputs

/-- What callers see of the map after some operations were started, whatever became of them. -/
structure UpToDate (r : Registry τ κ) (ops : List (Operation κ)) : Prop where
  ids : r.ids = OrderedMap.keys (ops.foldl Operation.change [])
  size : r.size = (ops.foldl Operation.change []).length
  contains : ∀ id, r.contains id = OrderedMap.contains (ops.foldl Operation.change []) id
  nodup : r.ids.Nodup
  /-- A registered identifier has a slot, and the connection is still in it. -/
  full : ∀ id ∈ r.ids, ∃ key c, r.liveKey? id = some key ∧ r.held? key = some c ∧
    OrderedMap.get? (ops.foldl Operation.change []) id = some c

/-- **Starts take effect at once.** After any inputs, the map is the one that the tasks started so
far make one after another, whatever they do later and whichever of them are cancelled. -/
theorem starts_take_effect (inputs : List (Input τ κ)) :
    (reached inputs).UpToDate (empty.launched inputs) := by
  have h := mirrors_reached inputs
  set r := reached inputs
  set m := (empty.launched inputs).foldl Operation.change []
  have hkeys : OrderedMap.keys r.live = OrderedMap.keys m := h.ids
  constructor
  case ids => exact h.ids
  case size =>
    have hlength := congrArg List.length hkeys
    rwa [OrderedMap.keys, OrderedMap.keys, List.length_map, List.length_map] at hlength
  case contains =>
    intro id
    have hiff : OrderedMap.get? r.live id = none ↔ OrderedMap.get? m id = none := by
      rw [OrderedMap.get?_eq_none_iff, OrderedMap.get?_eq_none_iff, hkeys]
    rw [Registry.contains, OrderedMap.contains, OrderedMap.contains, Bool.eq_iff_iff,
      Option.isSome_iff_ne_none, Option.isSome_iff_ne_none]
    exact not_congr hiff
  case nodup => exact h.ids ▸ h.nodup
  case full =>
    intro id hid
    have hsome : OrderedMap.get? m id ≠ none := fun hnone =>
      (OrderedMap.get?_eq_none_iff ..).mp hnone (h.ids ▸ hid)
    obtain ⟨c, hc⟩ := Option.ne_none_iff_exists'.mp hsome
    have hconnection := (h.connection? id).trans hc
    obtain ⟨key, hkey, hheld⟩ := Option.bind_eq_some_iff.mp hconnection
    exact ⟨key, c, hkey, hheld, hc⟩

/-- A connection is displaced while it is in use, and the task that did so is cancelled: the map has
the new connection in the place of the old one all the same. -/
example :
    let inputs : List (Input Nat Nat) := [.start 0 (.replace "a" 10), .start 1 (.replace "b" 20),
      .start 2 (.access "a"), .start 3 (.replace "a" 11), .cancel 3]
    (reached inputs).ids = ["a", "b"] ∧ (reached inputs).connection? "a" = some 11 := by
  decide

end Registry

end Polystore
