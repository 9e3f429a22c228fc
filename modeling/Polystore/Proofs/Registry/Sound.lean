import Polystore.Proofs.Registry.View

/-!
# Sound registries

Every registry that is reached without cancelled tasks is sound. The main points are these.

* `Queued`: a task is in a queue exactly if its stage says so, and the first in a queue is the one
  that has the lock;
* `Kept`: a slot has its connection exactly as long as it is on the map or one unfinished task has
  to retire it, and not both;
* `Served`: who waits to use a slot, or uses it, finds its connection, and the task that retires a
  slot is the last in its queue;
* `Sound`: all that; and no task waits for the map or finds an empty slot.

The task that runs in the middle of a step stands nowhere. What it has to retire is *owed*: `Kept`
and `Sound` speak of a registry and of the slots owed, and between two steps nothing is. For each
change that a task makes there is a lemma that the registry stays sound.
-/

set_option linter.unusedSectionVars false

namespace Polystore

namespace Registry

variable {τ κ : Type} [DecidableEq τ] {r r' : Registry τ κ} {t u : τ} {p : Place}
  {key : SlotKey} {rest owed : List SlotKey} {id : String} {c : κ}

/-! ## Queues -/

/-- Queues and stages agree: the first in a queue is the one that has the lock. -/
structure Queued (r : Registry τ κ) : Prop where
  mem_iff : ∀ t p, t ∈ r.queueAt p ↔ r.view Stage.place? t = some p
  lock_iff : ∀ t p, r.view Stage.lock? t = some p ↔ (r.queueAt p).head? = some t
  nodup : ∀ p, (r.queueAt p).Nodup

theorem Queued.congr (h : r.Queued) (hq : ∀ p, r'.queueAt p = r.queueAt p)
    (hp : ∀ t, r'.view Stage.place? t = r.view Stage.place? t)
    (hl : ∀ t, r'.view Stage.lock? t = r.view Stage.lock? t) : r'.Queued :=
  ⟨fun t p => by rw [hq, hp]; exact h.mem_iff t p, fun t p => by rw [hq, hl]; exact h.lock_iff t p,
    fun p => by rw [hq]; exact h.nodup p⟩

/-- Who lines up for a full slot waits behind the others, or has it at once. -/
theorem Queued.lineUp (h : r.Queued) (ht : r.stage? t = none) {e : Errand κ}
    (he : e.place = .slot key) (hk : (r.held? key).isSome) : (r.lineUp t e).Queued := by
  have hnot : ∀ p, t ∉ r.queueAt p := fun p hm => by
    simpa [view_of_absent ht] using (h.mem_iff t p).mp hm
  have hlock : ∀ p, (r.queueAt p).head? ≠ some t := fun p hm => hnot p (List.mem_of_head? hm)
  refine ⟨fun u p => ?_, fun u p => ?_, fun p => ?_⟩
  · rw [queueAt_lineUp p he hk, view_lineUp r t u Stage.place?_grant]
    by_cases hp : .slot key = p <;> by_cases hu : t = u
    · simp [hp, hu, Stage.place?, he]
    · simp [hp, hu, Ne.symm hu, h.mem_iff]
    · subst hu
      simp [hp, hnot, Stage.place?, he]
    · simp [hp, hu, h.mem_iff]
  · rw [queueAt_lineUp p he hk, lock?_lineUp, he]
    by_cases hp : .slot key = p <;> by_cases hu : t = u
    · subst hu hp
      cases hq : r.queueAt (.slot key) with
      | nil => simp [isTaken, hq]
      | cons v vs =>
        have := hlock (.slot key)
        simp_all [isTaken]
    · subst hp
      cases hq : r.queueAt (.slot key) with
      | nil => simp [hu, h.lock_iff, hq]
      | cons v vs => simp [hu, h.lock_iff, hq]
    · subst hu
      cases htk : r.isTaken (.slot key) <;> simp [hp, hlock]
    · simp [hp, hu, h.lock_iff]
  · rw [queueAt_lineUp p he hk]
    split
    · exact List.nodup_append.mpr ⟨h.nodup p, by simp, by
        simpa using fun a ha (e : a = t) => hnot p (e ▸ ha)⟩
    · exact h.nodup p

theorem Queued.queueAt_of_lock (h : r.Queued) (ht : r.view Stage.lock? t = some p) :
    ∃ ws, r.queueAt p = t :: ws ∧ t ∉ ws := by
  have hhead := (h.lock_iff t p).mp ht
  cases hq : r.queueAt p with
  | nil => simp [hq] at hhead
  | cons v ws =>
    obtain rfl : v = t := by simpa [hq] using hhead
    have hnd := h.nodup p
    rw [hq, List.nodup_cons] at hnd
    exact ⟨ws, rfl, hnd.1⟩

/-- Who gives its lock up hands it to the next one. -/
theorem Queued.quit (h : r.Queued) (ht : r.view Stage.lock? t = some p) : (r.quit t p).Queued := by
  obtain ⟨ws, hq, hnot⟩ := h.queueAt_of_lock ht
  have hp : ∀ q, r.view Stage.place? t = some q ↔ q = p := by
    have : r.view Stage.place? t = some p := (h.mem_iff t p).mp (by simp [hq])
    intro q
    simp [this, eq_comm]
  refine ⟨fun u q => ?_, fun u q => ?_, fun q => ?_⟩
  · rw [queueAt_quit, view_quit r t u p Stage.place?_grant]
    by_cases hpq : p = q <;> by_cases hu : t = u
    · subst hpq hu
      simp [hq, hnot]
    · subst hpq
      have := h.mem_iff u p
      simp_all [Ne.symm hu]
    · subst hu
      simp [hpq, h.mem_iff, hp, Ne.symm hpq]
    · simp [hpq, hu, h.mem_iff]
  · have hsnd : (t :: ws)[1]? = ws.head? := by simp [List.head?_eq_getElem?]
    rw [queueAt_quit, lock?_quit, hq, hsnd]
    by_cases hu : t = u
    · subst hu
      by_cases hpq : p = q
      · subst hpq
        simpa [hq] using fun e => hnot (List.mem_of_head? e)
      · simp [hpq, ← h.lock_iff, ht]
    · by_cases hw : ws.head? = some u
      · have hpu : r.view Stage.place? u = some p :=
          (h.mem_iff u p).mp (by simp [hq, List.mem_of_head? hw])
        by_cases hpq : p = q
        · subst hpq
          simp [hu, hw, hq, hpu]
        · have hne : (r.queueAt q).head? ≠ some u := fun e => hpq <| by
            simpa [hpu] using (h.mem_iff u q).mp (List.mem_of_head? e)
          simp [hu, hw, hpu, hpq, hne]
      · by_cases hpq : p = q
        · subst hpq
          simp [hu, hw, hq, h.lock_iff]
        · simp [hu, hw, hpq, h.lock_iff]
  · rw [queueAt_quit]
    split
    · exact (h.nodup q).tail
    · exact h.nodup q

/-! ## Who keeps a connection -/

/-- A slot has its connection as long as somebody keeps it: the map, the task that runs, or one
other task. -/
structure Kept (r : Registry τ κ) (owed : List SlotKey) : Prop where
  held_iff : ∀ key, (r.held? key).isSome ↔
    r.liveKey? key.id = some key ∨ key ∈ owed ∨ ∃ t, key ∈ r.duties t
  not_live_of_owed : ∀ key ∈ owed, r.liveKey? key.id ≠ some key
  not_live_of_duty : ∀ t, ∀ key ∈ r.duties t, r.liveKey? key.id ≠ some key
  not_duty_of_owed : ∀ key ∈ owed, ∀ t, key ∉ r.duties t
  duty_unique : ∀ key t u, key ∈ r.duties t → key ∈ r.duties u → t = u
  owed_nodup : owed.Nodup
  duties_nodup : ∀ t, (r.duties t).Nodup
  ids_nodup : r.ids.Nodup

/-- The task that runs stops, with what is owed as its duties. -/
theorem Kept.assign (h : r.Kept owed) (ht : r.duties t = [])
    (hd : ∀ u, r'.duties u = if t = u then owed else r.duties u)
    (hh : ∀ key, r'.held? key = r.held? key) (hl : r'.live = r.live) : r'.Kept [] := by
  have hlk : ∀ i, r'.liveKey? i = r.liveKey? i := fun i => by simp [liveKey?, hl]
  have hi : r'.ids = r.ids := by simp [ids, hl]
  constructor
  case held_iff =>
    intro key
    rw [hh, hlk, h.held_iff]
    constructor
    · rintro (hk | hk | ⟨u, hk⟩)
      · exact .inl hk
      · exact .inr (.inr ⟨t, by simpa [hd] using hk⟩)
      · refine .inr (.inr ⟨u, ?_⟩)
        have : t ≠ u := by rintro rfl; simp [ht] at hk
        simpa [hd, this] using hk
    · rintro (hk | hk | ⟨u, hk⟩)
      · exact .inl hk
      · simp at hk
      · rw [hd] at hk
        split at hk
        · exact .inr (.inl hk)
        · exact .inr (.inr ⟨u, hk⟩)
  case not_live_of_duty =>
    intro u key hk
    rw [hlk]
    rw [hd] at hk
    split at hk
    · exact h.not_live_of_owed key hk
    · exact h.not_live_of_duty u key hk
  case duty_unique =>
    intro key u v hu hv
    rw [hd] at hu hv
    split at hu <;> split at hv
    · simp_all
    · exact absurd hv (h.not_duty_of_owed key hu v)
    · exact absurd hu (h.not_duty_of_owed key hv u)
    · exact h.duty_unique key u v hu hv
  case duties_nodup =>
    intro u
    rw [hd]
    split
    · exact h.owed_nodup
    · exact h.duties_nodup u
  case ids_nodup => exact hi ▸ h.ids_nodup
  all_goals simp

/-- A task goes on: its duties are owed. -/
theorem Kept.shed (h : r.Kept []) (hd : ∀ u, r'.duties u = if t = u then [] else r.duties u)
    (hh : ∀ key, r'.held? key = r.held? key) (hl : r'.live = r.live) : r'.Kept (r.duties t) := by
  have hlk : ∀ i, r'.liveKey? i = r.liveKey? i := fun i => by simp [liveKey?, hl]
  have hi : r'.ids = r.ids := by simp [ids, hl]
  have hsub : ∀ u key, key ∈ r'.duties u → t ≠ u ∧ key ∈ r.duties u := by
    intro u key hk
    rw [hd] at hk
    split at hk
    · simp at hk
    · exact ⟨‹_›, hk⟩
  constructor
  case held_iff =>
    intro key
    rw [hh, hlk, h.held_iff]
    constructor
    · rintro (hk | hk | ⟨u, hk⟩)
      · exact .inl hk
      · simp at hk
      · by_cases hu : t = u
        · exact .inr (.inl (hu ▸ hk))
        · exact .inr (.inr ⟨u, by simpa [hd, hu] using hk⟩)
    · rintro (hk | hk | ⟨u, hk⟩)
      · exact .inl hk
      · exact .inr (.inr ⟨t, hk⟩)
      · exact .inr (.inr ⟨u, (hsub u key hk).2⟩)
  case not_live_of_owed => exact fun key hk => by rw [hlk]; exact h.not_live_of_duty t key hk
  case not_live_of_duty =>
    exact fun u key hk => by rw [hlk]; exact h.not_live_of_duty u key (hsub u key hk).2
  case not_duty_of_owed =>
    exact fun key hk u hu => (hsub u key hu).1 (h.duty_unique key t u hk (hsub u key hu).2)
  case duty_unique =>
    exact fun key u v hu hv => h.duty_unique key u v (hsub u key hu).2 (hsub v key hv).2
  case owed_nodup => exact h.duties_nodup t
  case duties_nodup =>
    intro u
    rw [hd]
    split
    · exact List.nodup_nil
    · exact h.duties_nodup u
  case ids_nodup => exact hi ▸ h.ids_nodup

/-- What is owed first is emptied. -/
theorem Kept.drain (h : r.Kept (key :: rest)) : (r.drain key).Kept rest := by
  have hlive := h.not_live_of_owed key List.mem_cons_self
  have hduty := h.not_duty_of_owed key List.mem_cons_self
  have hnot : key ∉ rest := (List.nodup_cons.mp h.owed_nodup).1
  constructor
  case held_iff =>
    intro k
    change _ ↔ r.liveKey? k.id = some k ∨ k ∈ rest ∨ ∃ t, k ∈ r.duties t
    rw [held?_drain]
    by_cases hk : key = k
    · subst hk
      simp [hlive, hnot, hduty]
    · simp [hk, h.held_iff, Ne.symm hk]
  case not_live_of_owed => exact fun k hk => h.not_live_of_owed k (List.mem_cons_of_mem _ hk)
  case not_live_of_duty => exact h.not_live_of_duty
  case not_duty_of_owed => exact fun k hk => h.not_duty_of_owed k (List.mem_cons_of_mem _ hk)
  case duty_unique => exact h.duty_unique
  case owed_nodup => exact (List.nodup_cons.mp h.owed_nodup).2
  case duties_nodup => exact h.duties_nodup
  case ids_nodup => exact h.ids_nodup

theorem nodup_keys_insert {α β : Type} [DecidableEq α] {m : OrderedMap α β}
    (h : (OrderedMap.keys m).Nodup) (key : α) (value : β) :
    (OrderedMap.keys (OrderedMap.insert m key value)).Nodup := by
  rw [OrderedMap.keys_insert]
  split
  · exact h
  · exact List.nodup_append.mpr ⟨h, by simp, by
      simpa using fun a ha (e : a = key) => ‹key ∉ _› (e ▸ ha)⟩

/-- The slot that a new one displaces is owed. -/
theorem Kept.register (h : r.Kept []) (hn : r.Numbered) (id : String) (c : κ) :
    (r.register id c).Kept (r.liveKey? id).toList := by
  have hfree : (r.held? (r.nextKey id)).isSome = false := by simp [hn.held?_nextKey]
  have hduty : ∀ t, r.nextKey id ∉ r.duties t := fun t hk => by
    simpa [hfree] using (h.held_iff _).mpr (.inr (.inr ⟨t, hk⟩))
  have hlive : r.liveKey? id ≠ some (r.nextKey id) := fun hk => by
    simpa [hfree] using (h.held_iff (r.nextKey id)).mpr (.inl hk)
  have hid : (r.nextKey id).id = id := rfl
  constructor
  case held_iff =>
    intro key
    change _ ↔ _ ∨ _ ∨ ∃ t, key ∈ r.duties t
    rw [held?_register key id c hn, liveKey?_register]
    by_cases hk : r.nextKey id = key
    · subst hk
      simp [hid]
    · by_cases hi : id = key.id
      · simp [hk, ← hi, h.held_iff]
      · have : r.liveKey? id ≠ some key := fun e => hi (id_of_liveKey? e).symm
        simp [hk, hi, h.held_iff, this]
  case not_live_of_owed =>
    intro key hk
    obtain hk : r.liveKey? id = some key := by simpa using hk
    rw [liveKey?_register, id_of_liveKey? hk, if_pos rfl]
    exact fun e => hlive (hk.trans e.symm)
  case not_live_of_duty =>
    intro t key hk
    rw [liveKey?_register]
    split
    · exact fun e => hduty t (Option.some.inj e ▸ hk)
    · exact h.not_live_of_duty t key hk
  case not_duty_of_owed =>
    intro key hk t ht
    obtain hk : r.liveKey? id = some key := by simpa using hk
    exact h.not_live_of_duty t key ht (id_of_liveKey? hk ▸ hk)
  case duty_unique => exact h.duty_unique
  case owed_nodup => cases r.liveKey? id <;> simp
  case duties_nodup => exact h.duties_nodup
  case ids_nodup => exact nodup_keys_insert h.ids_nodup _ _

/-- What is taken off the map is owed. -/
theorem Kept.unmap (h : r.Kept []) (hd : ∀ t, r'.duties t = r.duties t)
    (hh : ∀ key, r'.held? key = r.held? key) (hi : r'.ids.Nodup) (ho : owed.Nodup)
    (hl : ∀ key, r.liveKey? key.id = some key ↔ r'.liveKey? key.id = some key ∨ key ∈ owed)
    (hx : ∀ key ∈ owed, r'.liveKey? key.id ≠ some key) : r'.Kept owed := by
  constructor
  case held_iff =>
    intro key
    simp only [hh, hd, h.held_iff, hl key, List.not_mem_nil, false_or, or_assoc]
  case not_live_of_owed => exact hx
  case not_live_of_duty =>
    intro t key hk hlive
    rw [hd] at hk
    exact h.not_live_of_duty t key hk ((hl key).mpr (.inl hlive))
  case not_duty_of_owed =>
    intro key hk t ht
    rw [hd] at ht
    exact h.not_live_of_duty t key ht ((hl key).mpr (.inr hk))
  case duty_unique =>
    intro key t u ht hu
    rw [hd] at ht hu
    exact h.duty_unique key t u ht hu
  case owed_nodup => exact ho
  case duties_nodup => exact fun t => hd t ▸ h.duties_nodup t
  case ids_nodup => exact hi

theorem Kept.unregister (h : r.Kept []) (id : String) :
    (r.unregister id).Kept (r.liveKey? id).toList := by
  have hids : (r.unregister id).ids = r.ids.filter (· ≠ id) := OrderedMap.keys_erase _ _
  refine h.unmap (fun _ => rfl) (fun _ => rfl) (hids ▸ h.ids_nodup.filter _) ?_ (fun key => ?_) ?_
  · cases r.liveKey? id <;> simp
  · rw [liveKey?_unregister]
    by_cases hi : id = key.id
    · simp [hi]
    · have : r.liveKey? id ≠ some key := fun e => hi (id_of_liveKey? e).symm
      simp [hi, this]
  · intro key hk
    obtain hk : r.liveKey? id = some key := by simpa using hk
    simp [liveKey?_unregister, id_of_liveKey? hk]

theorem Kept.unregisterAll (h : r.Kept []) : r.unregisterAll.Kept r.liveKeys :=
  h.unmap (fun _ => rfl) (fun _ => rfl) List.nodup_nil (nodup_liveKeys h.ids_nodup)
    (fun key => by simp [mem_liveKeys h.ids_nodup]) (by simp)

/-! ## Who is served -/

/-- Who uses a slot finds its connection, and who retires it is the last in its queue. -/
structure Served (r : Registry τ κ) : Prop where
  use : ∀ t key id, r.view Stage.errand? t = some (.use key id) →
    key.id = id ∧ (r.held? key).isSome
  inside : ∀ t key c, r.view Stage.inside? t = some (key, c) → r.held? key = some c
  last : ∀ t key rest, r.view Stage.errand? t = some (.retire key rest) →
    (r.queueAt (.slot key)).getLast? = some t

theorem Served.congr (h : r.Served) (hq : ∀ p, r'.queueAt p = r.queueAt p)
    (hh : ∀ key, (r.held? key).isSome → r'.held? key = r.held? key)
    (he : ∀ t e, r'.view Stage.errand? t = some e → r.view Stage.errand? t = some e)
    (hi : ∀ t b, r'.view Stage.inside? t = some b → r.view Stage.inside? t = some b) :
    r'.Served := by
  constructor
  case use =>
    intro t key id ht
    obtain ⟨h1, h2⟩ := h.use t key id (he t _ ht)
    exact ⟨h1, hh key h2 ▸ h2⟩
  case inside =>
    intro t key c ht
    have hk := h.inside t key c (hi t _ ht)
    rw [hh key (by simp [hk]), hk]
  case last =>
    intro t key rest ht
    rw [hq]
    exact h.last t key rest (he t _ ht)

theorem duties_of_errand (h : r.view Stage.errand? t = some (.retire key rest)) :
    r.duties t = key :: rest := by
  rcases errand?_eq_some.mp h with h | h
  · exact duties_of_stage h
  · exact duties_of_stage h

theorem duties_of_closing (h : r.view Stage.closing? t = some (c, rest)) : r.duties t = rest :=
  duties_of_stage (closing?_eq_some.mp h)

theorem place?_of_errand {e : Errand κ} (h : r.view Stage.errand? t = some e) :
    r.view Stage.place? t = some e.place := by
  obtain ⟨s, hs, h⟩ := Option.bind_eq_some_iff.mp h
  rw [view_of_stage hs]
  cases s <;> simp_all [Stage.errand?, Stage.place?]

theorem place?_of_inside (h : r.view Stage.inside? t = some (key, c)) :
    r.view Stage.place? t = some (.slot key) := by
  rw [view_of_stage (inside?_eq_some.mp h)]
  rfl

/-! ## Soundness -/

/-- A registry that is reached without cancelled tasks, and what the task that runs has to
retire. -/
structure Sound (r : Registry τ κ) (owed : List SlotKey) : Prop where
  queued : r.Queued
  kept : r.Kept owed
  served : r.Served
  numbered : r.Numbered
  smooth : ∀ t s, r.stage? t = some s → s.Smooth

theorem sound_empty : (empty : Registry τ κ).Sound [] := by
  have hq : ∀ p, (empty : Registry τ κ).queueAt p = [] := fun p => by cases p <;> rfl
  have hs : ∀ t, (empty : Registry τ κ).stage? t = none := fun _ => rfl
  have hd : ∀ t, (empty : Registry τ κ).duties t = [] := fun t => duties_of_absent (hs t)
  constructor
  case queued => constructor <;> simp [hq, view, hs]
  case kept => constructor <;> simp [hd, ids, held?, liveKey?] <;> simp [empty, OrderedMap.keys]
  case served => constructor <;> simp [view, hs]
  case numbered => simp [Numbered, slotKeys, empty, OrderedMap.keys]
  case smooth => simp [hs]

theorem Sound.queue_eq_nil (h : r.Sound owed) : r.queue = [] := by
  refine List.eq_nil_iff_forall_not_mem.mpr fun t ht => ?_
  obtain ⟨s, hs, hp⟩ := Option.bind_eq_some_iff.mp ((h.queued.mem_iff t .map).mp ht)
  have hsm := h.smooth t s hs
  cases s with
  | waiting e | granted e => cases e <;> simp_all [Stage.place?, Errand.place, Stage.Smooth]
  | _ => simp [Stage.place?] at hp

/-- A registered identifier has a connection. -/
theorem connection?_eq_some (hs : r.Sound owed) (hk : r.liveKey? id = some key) :
    ∃ c, r.held? key = some c ∧ r.connection? id = some c := by
  have hheld : (r.held? key).isSome :=
    (hs.kept.held_iff key).mpr (.inl (by rw [id_of_liveKey? hk, hk]))
  obtain ⟨c, hc⟩ := Option.isSome_iff_exists.mp hheld
  exact ⟨c, hc, by simp [connection?, hk, hc]⟩

/-- A slot that is on the map or owed is retired by nobody who waits. -/
theorem Sound.not_retired (h : r.Sound owed)
    (hk : r.liveKey? key.id = some key ∨ key ∈ owed) (u : τ) (rest : List SlotKey) :
    r.view Stage.errand? u ≠ some (.retire key rest) := by
  intro hu
  have hm : key ∈ r.duties u := by simp [duties_of_errand hu]
  rcases hk with hk | hk
  · exact h.kept.not_live_of_duty u key hm hk
  · exact h.kept.not_duty_of_owed key hk u hm

/-- Who lines up for a full slot that nobody retires yet is the last one there. -/
theorem Served.lineUp (h : r.Served) {e : Errand κ} (he : e.place = .slot key)
    (hid : ∀ k id, e = .use k id → k.id = id) (hk : (r.held? key).isSome)
    (hnot : ∀ u rest, r.view Stage.errand? u ≠ some (.retire key rest)) : (r.lineUp t e).Served := by
  have herr : ∀ u, (r.lineUp t e).view Stage.errand? u =
      if t = u then some e else r.view Stage.errand? u :=
    fun u => view_lineUp r t u Stage.errand?_grant e
  constructor
  case use =>
    intro u k id hu
    rw [herr] at hu
    rw [held?_lineUp]
    split at hu
    · obtain rfl := Option.some.inj hu
      obtain rfl : k = key := by simpa [Errand.place] using he
      exact ⟨hid k id rfl, hk⟩
    · exact h.use u k id hu
  case inside =>
    intro u k c hu
    rw [view_lineUp r t u Stage.inside?_grant] at hu
    rw [held?_lineUp]
    split at hu
    · simp [Stage.inside?] at hu
    · exact h.inside u k c hu
  case last =>
    intro u k rest hu
    rw [herr] at hu
    rw [queueAt_lineUp (.slot k) he hk]
    split at hu
    · obtain rfl := Option.some.inj hu
      obtain rfl : k = key := by simpa [Errand.place] using he
      simp [‹t = u›]
    · by_cases hkk : key = k
      · exact absurd (hkk ▸ hu) (hnot u rest)
      · simpa [hkk] using h.last u k rest hu

/-- A task lines up for a slot that nobody retires yet, to use it or with all that is owed. -/
theorem Sound.lineUp (h : r.Sound owed) (ht : r.stage? t = none) {e : Errand κ}
    (hs : (Stage.waiting e).Smooth) (he : e.place = .slot key)
    (hd : (Stage.waiting e).duties = owed) (hid : ∀ k id, e = .use k id → k.id = id)
    (hk : r.liveKey? key.id = some key ∨ key ∈ owed) : (r.lineUp t e).Sound [] := by
  have hheld : (r.held? key).isSome := (h.kept.held_iff key).mpr (hk.imp_right .inl)
  constructor
  case queued => exact h.queued.lineUp ht he hheld
  case kept =>
    refine h.kept.assign (duties_of_absent ht) (fun u => ?_) (by simp) (by simp)
    rw [duties_lineUp, hd]
  case served => exact h.served.lineUp he hid hheld (h.not_retired hk)
  case numbered => exact h.numbered.congr (by simp)
  case smooth =>
    intro u s hu
    rw [stage?_lineUp] at hu
    split at hu
    · obtain rfl := Option.some.inj hu
      split
      · exact hs
      · exact (Stage.smooth_grant (.waiting e)).mpr hs
    · exact h.smooth u s hu

theorem Sound.lineUp_use (h : r.Sound []) (ht : r.stage? t = none)
    (hk : r.liveKey? id = some key) : (r.lineUp t (.use key id)).Sound [] := by
  have hid := id_of_liveKey? hk
  refine h.lineUp ht trivial rfl rfl (fun k i e => ?_) (.inl (hid ▸ hk))
  simp only [Errand.use.injEq] at e
  rw [← e.1, ← e.2, hid]

theorem Sound.lineUp_retire (h : r.Sound (key :: rest)) (ht : r.stage? t = none) :
    (r.lineUp t (.retire key rest)).Sound [] :=
  h.lineUp ht trivial rfl rfl (by simp) (.inr List.mem_cons_self)

/-- Who begins a block finds the connection of its slot. -/
theorem Served.enter (h : r.Served) (hc : r.held? key = some c) :
    (r.setStage t (.inside key c)).Served := by
  constructor
  case use =>
    intro u k i hu
    rw [view_setStage] at hu
    split at hu
    · simp [Stage.errand?] at hu
    · exact h.use u k i hu
  case inside =>
    intro u k c' hu
    rw [view_setStage] at hu
    split at hu
    · simp only [Stage.inside?, Option.some.injEq, Prod.mk.injEq] at hu
      rw [held?_setStage, ← hu.1, ← hu.2, hc]
    · exact h.inside u k c' hu
  case last =>
    intro u k rest hu
    rw [view_setStage] at hu
    split at hu
    · simp [Stage.errand?] at hu
    · simpa using h.last u k rest hu

theorem Sound.enter (h : r.Sound []) (ht : r.stage? t = some (.granted (.use key id)))
    (hc : r.held? key = some c) : (r.setStage t (.inside key c)).Sound [] := by
  constructor
  case queued =>
    refine h.queued.congr (by simp) (fun u => ?_) (fun u => ?_)
    all_goals
      rw [view_setStage]
      split
      · subst ‹t = u›
        rw [view_of_stage ht]
        rfl
      · rfl
  case kept =>
    refine h.kept.assign (duties_of_stage ht) (fun u => ?_) (by simp) rfl
    rw [duties_setStage]
    rfl
  case served => exact h.served.enter hc
  case numbered => exact h.numbered.congr (by simp)
  case smooth =>
    intro u s hu
    rw [stage?_setStage] at hu
    split at hu
    · obtain rfl := Option.some.inj hu
      trivial
    · exact h.smooth u s hu

/-- The last of the others stays the last when the first gives its lock up. -/
theorem Served.quit (h : r.Served) (hq : r.Queued) (ht : r.view Stage.lock? t = some p) :
    (r.quit t p).Served := by
  obtain ⟨ws, hws, -⟩ := hq.queueAt_of_lock ht
  have herr : ∀ u, (r.quit t p).view Stage.errand? u =
      if t = u then none else r.view Stage.errand? u :=
    fun u => view_quit r t u p Stage.errand?_grant
  constructor
  case use =>
    intro u k id hu
    rw [herr] at hu
    split at hu
    · simp at hu
    · simpa using h.use u k id hu
  case inside =>
    intro u k c hu
    rw [view_quit r t u p Stage.inside?_grant] at hu
    split at hu
    · simp at hu
    · simpa using h.inside u k c hu
  case last =>
    intro u k rest hu
    rw [herr] at hu
    split at hu
    · simp at hu
    · have hlast := h.last u k rest hu
      rw [queueAt_quit]
      split
      · subst ‹p = .slot k›
        rw [hws] at hlast ⊢
        cases ws with
        | nil => exact absurd (by simpa using hlast) ‹¬t = u›
        | cons w ws => simpa using hlast
      · exact hlast

theorem Sound.quit (h : r.Sound []) (ht : r.view Stage.lock? t = some p) :
    (r.quit t p).Sound (r.duties t) := by
  constructor
  case queued => exact h.queued.quit ht
  case kept => exact h.kept.shed (fun u => duties_quit r t u p) (by simp) (by simp)
  case served => exact h.served.quit h.queued ht
  case numbered => exact h.numbered.congr (by simp)
  case smooth =>
    intro u s hu
    rw [stage?_quit] at hu
    split at hu
    · simp at hu
    · split at hu
      · obtain ⟨s', hs', rfl⟩ := Option.map_eq_some_iff.mp hu
        exact (Stage.smooth_grant s').mpr (h.smooth u s' hs')
      · exact h.smooth u s hu

/-- What is owed first is emptied, which nobody else uses. -/
theorem Sound.drain (h : r.Sound (key :: rest)) (hq : r.queueAt (.slot key) = []) :
    (r.drain key).Sound rest := by
  have hnone : ∀ t, r.view Stage.place? t ≠ some (.slot key) := fun t ht => by
    simpa [hq] using (h.queued.mem_iff t (.slot key)).mpr ht
  constructor
  case queued => exact h.queued.congr (by simp) (fun _ => rfl) (fun _ => rfl)
  case kept => exact h.kept.drain
  case numbered => exact h.numbered.congr (by simp)
  case smooth => exact h.smooth
  case served =>
    constructor
    case use =>
      intro t k id ht
      have hk : key ≠ k := fun e => hnone t (e ▸ place?_of_errand ht)
      simpa [hk] using h.served.use t k id ht
    case inside =>
      intro t k c ht
      have hk : key ≠ k := fun e => hnone t (e ▸ place?_of_inside ht)
      simpa [hk] using h.served.inside t k c ht
    case last =>
      intro t k rest' ht
      simpa using h.served.last t k rest' ht

/-- A slot that was handed over for retiring has no other task in its queue. -/
theorem Sound.queueAt_of_retire (h : r.Sound owed)
    (ht : r.stage? t = some (.granted (.retire key rest))) : r.queueAt (.slot key) = [t] := by
  have hlock : r.view Stage.lock? t = some (.slot key) := view_of_stage ht
  have herr : r.view Stage.errand? t = some (.retire key rest) := view_of_stage ht
  obtain ⟨ws, hws, hnot⟩ := h.queued.queueAt_of_lock hlock
  have hlast := h.served.last t key rest herr
  rw [hws] at hlast ⊢
  rcases List.eq_nil_or_concat ws with rfl | ⟨vs, v, rfl⟩
  · rfl
  · obtain rfl : v = t := by simpa [List.getLast?_cons] using hlast
    simp at hnot

theorem Sound.close (h : r.Sound owed) (ht : r.stage? t = none) (c : κ) :
    (r.setStage t (.closing c owed)).Sound [] := by
  have hview : ∀ {β : Type} (f : Stage κ → Option β) (u : τ), f (.closing c owed) = none →
      (r.setStage t (.closing c owed)).view f u = r.view f u := by
    intro β f u hf
    rw [view_setStage]
    split
    · rw [hf, ← ‹t = u›, view_of_absent ht]
    · rfl
  constructor
  case queued =>
    exact h.queued.congr (by simp) (fun u => hview _ u rfl) (fun u => hview _ u rfl)
  case kept =>
    exact h.kept.assign (duties_of_absent ht) (fun u => duties_setStage r t u _) (by simp) rfl
  case served =>
    exact h.served.congr (by simp) (by simp) (fun u e he => hview Stage.errand? u rfl ▸ he)
      (fun u b hb => hview Stage.inside? u rfl ▸ hb)
  case numbered => exact h.numbered.congr (by simp)
  case smooth =>
    intro u s hu
    rw [stage?_setStage] at hu
    split at hu
    · obtain rfl := Option.some.inj hu
      trivial
    · exact h.smooth u s hu

/-- A task that was handed a slot for retiring gives it up, takes the connection out and calls
`close`. -/
theorem Sound.takeOut (h : r.Sound []) (ht : r.stage? t = some (.granted (.retire key rest)))
    (c : κ) : (r.takeOut t key c rest).Sound [] := by
  have hquit : (r.quit t (.slot key)).Sound (key :: rest) := by
    have := h.quit (view_of_stage ht : r.view Stage.lock? t = some (.slot key))
    rwa [duties_of_stage ht] at this
  have hdrain : ((r.quit t (.slot key)).drain key).Sound rest :=
    hquit.drain (by simp [h.queueAt_of_retire ht])
  have hgone : ((r.quit t (.slot key)).drain key).stage? t = (r.quit t (.slot key)).stage? t := rfl
  exact hdrain.close (by simp [hgone, stage?_quit]) c

/-- A task whose call of `close` came back goes on with what it has to retire. -/
theorem Sound.dropTask (h : r.Sound []) (ht : r.stage? t = some (.closing c rest)) :
    (r.dropTask t).Sound rest := by
  have hview : ∀ {β : Type} (f : Stage κ → Option β) (u : τ), f (.closing c rest) = none →
      (r.dropTask t).view f u = r.view f u := by
    intro β f u hf
    rw [view_dropTask]
    split
    · rw [← ‹t = u›, view_of_stage ht, hf]
    · rfl
  constructor
  case queued =>
    exact h.queued.congr (by simp) (fun u => hview _ u rfl) (fun u => hview _ u rfl)
  case kept =>
    have := h.kept.shed (fun u => duties_dropTask r t u) (by simp) rfl
    rwa [duties_of_stage ht] at this
  case served =>
    exact h.served.congr (by simp) (by simp) (fun u e he => hview Stage.errand? u rfl ▸ he)
      (fun u b hb => hview Stage.inside? u rfl ▸ hb)
  case numbered => exact h.numbered.congr (by simp)
  case smooth =>
    intro u s hu
    rw [stage?_dropTask] at hu
    split at hu
    · simp at hu
    · exact h.smooth u s hu

theorem Sound.register (h : r.Sound []) (id : String) (c : κ) :
    (r.register id c).Sound (r.liveKey? id).toList where
  queued := h.queued.congr (by simp) (fun _ => rfl) (fun _ => rfl)
  kept := h.kept.register h.numbered id c
  served := h.served.congr (by simp) (fun key => held?_register_of_isSome key id c h.numbered)
    (fun _ _ he => he) (fun _ _ hb => hb)
  numbered := h.numbered.register id c
  smooth := h.smooth

theorem Sound.unregister (h : r.Sound []) (id : String) :
    (r.unregister id).Sound (r.liveKey? id).toList where
  queued := h.queued.congr (by simp) (fun _ => rfl) (fun _ => rfl)
  kept := h.kept.unregister id
  served := h.served.congr (by simp) (by simp) (fun _ _ he => he) (fun _ _ hb => hb)
  numbered := h.numbered.congr rfl
  smooth := h.smooth

theorem Sound.unregisterAll (h : r.Sound []) : r.unregisterAll.Sound r.liveKeys where
  queued := h.queued.congr (by simp) (fun _ => rfl) (fun _ => rfl)
  kept := h.kept.unregisterAll
  served := h.served.congr (by simp) (by simp) (fun _ _ he => he) (fun _ _ hb => hb)
  numbered := h.numbered.congr rfl
  smooth := h.smooth

end Registry

end Polystore
