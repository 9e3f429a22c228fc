import Polystore.Proofs.Registry.Move

/-!
# Idle registries

A registry is idle when no task can go on by itself. Then every unfinished task is in a block, or in
a call of `close`, or waits for a task that is in a block: nobody waits for nothing, and no two
tasks wait for each other.

* `Suspended`: what a task waits for in an idle registry; `Sound.suspended`;
* `Handed`: a slot that was given up is free, or the next task in its queue has it; `Sound.handed`;
* **`no_stuck_task`**: all that, for every registry that is reached without cancelled tasks.
-/

set_option linter.unusedSectionVars false

namespace Polystore

namespace Registry

variable {τ κ : Type} [DecidableEq τ] {r : Registry τ κ} {t : τ} {key : SlotKey} {c : κ}
  {owed : List SlotKey} {s : Stage κ}

/-! ## Suspended tasks -/

/-- What an unfinished task waits for while no task can go on. -/
inductive Suspended (r : Registry τ κ) (t : τ) : Prop
  | inside (key : SlotKey) (c : κ) : r.stage? t = some (.inside key c) → Suspended r t
  | closing (c : κ) (rest : List SlotKey) : r.stage? t = some (.closing c rest) → Suspended r t
  /-- It is in the queue of a slot, and the first task there is in a block. -/
  | waiting (e : Errand κ) (key : SlotKey) (u : τ) (c : κ) : r.stage? t = some (.waiting e) →
    e.place = .slot key → t ∈ r.queueAt (.slot key) → (r.queueAt (.slot key)).head? = some u →
      r.stage? u = some (.inside key c) → Suspended r t

theorem not_granted_of_isIdle (hidle : r.isIdle = true) (hs : r.stage? t = some s) (e : Errand κ) :
    s ≠ .granted e := by
  rintro rfl
  have hm : (t, Stage.granted e) ∈ r.tasks := OrderedMap.mem_of_get? hs
  simp only [isIdle, ready?, Option.isNone_iff_eq_none, List.findSome?_eq_none_iff] at hidle
  simpa using hidle _ hm

theorem Sound.suspended (h : r.Sound owed) (hidle : r.isIdle = true)
    (hs : r.stage? t = some s) : r.Suspended t := by
  have hsm := h.smooth t s hs
  cases s with
  | waiting e =>
    have hplace : r.view Stage.place? t = some e.place := view_of_stage hs
    have hmem := (h.queued.mem_iff t e.place).mpr hplace
    obtain ⟨key, hkey⟩ : ∃ key, e.place = .slot key := by
      cases e with
      | operate op => exact hsm.elim
      | use key id => exact ⟨key, rfl⟩
      | retire key rest => exact ⟨key, rfl⟩
    rw [hkey] at hmem
    -- the first task in the queue has the slot, and it was not merely handed it
    obtain ⟨u, hu⟩ : ∃ u, (r.queueAt (.slot key)).head? = some u := by
      cases hq : r.queueAt (.slot key) with
      | nil => simp [hq] at hmem
      | cons u us => exact ⟨u, rfl⟩
    obtain ⟨su, hsu, hlock⟩ := Option.bind_eq_some_iff.mp ((h.queued.lock_iff u _).mpr hu)
    cases su with
    | granted e' => exact absurd rfl (not_granted_of_isIdle hidle hsu e')
    | inside k c =>
      obtain rfl : k = key := by simpa [Stage.lock?] using hlock
      exact .waiting e k u c hs hkey hmem hu hsu
    | _ => simp [Stage.lock?] at hlock
  | granted e => exact absurd rfl (not_granted_of_isIdle hidle hs e)
  | retrying id => exact hsm.elim
  | inside key c => exact .inside key c hs
  | closing c rest => exact .closing c rest hs

/-! ## Slots that are given up -/

/-- A task gave a slot up: the others move up in its queue, and the first of them has the slot. -/
structure Handed (r r' : Registry τ κ) (t : τ) (key : SlotKey) : Prop where
  gone : r'.stage? t = none
  queue : r.queueAt (.slot key) = t :: r'.queueAt (.slot key)
  next : ∀ u, (r'.queueAt (.slot key)).head? = some u → ∃ e, r'.stage? u = some (.granted e)

theorem Sound.handed (h : r.Sound owed) (hs : r.stage? t = some (.inside key c)) :
    r.Handed (r.quit t (.slot key)) t key := by
  have hlock : r.view Stage.lock? t = some (.slot key) := view_of_stage hs
  obtain ⟨ws, hws, hnot⟩ := h.queued.queueAt_of_lock hlock
  constructor
  case gone => simp [stage?_quit]
  case queue => simp [hws]
  case next =>
    intro u hu
    replace hu : ws.head? = some u := by simpa [hws] using hu
    have htu : t ≠ u := fun e => hnot (e ▸ List.mem_of_head? hu)
    have hsnd : (r.queueAt (.slot key))[1]? = some u := by
      simpa [hws, List.head?_eq_getElem?] using hu
    have hmem : u ∈ r.queueAt (.slot key) := List.mem_of_getElem? hsnd
    obtain ⟨su, hsu, hplace⟩ := Option.bind_eq_some_iff.mp ((h.queued.mem_iff u _).mp hmem)
    have hnolock : r.view Stage.lock? u ≠ some (.slot key) := by
      intro hl
      have := (h.queued.lock_iff u _).mp hl
      exact htu (by simpa [hws] using this)
    rw [stage?_quit, if_neg htu, if_pos hsnd, hsu]
    rw [view_of_stage hsu] at hnolock
    cases su with
    | waiting e => exact ⟨e, rfl⟩
    | _ => simp_all [Stage.place?, Stage.lock?]

/-! ## Runs -/

/-- **No task is stuck.** When no task can go on by itself, nobody has the map, and every unfinished
task is in a block, in a call of `close`, or waits for a task that is in a block. If no task is in a
block or in a call of `close`, all tasks have ended. And a block gives its slot up in the same way
when it ends by an exception. -/
theorem no_stuck_task {inputs : List (Input τ κ)} (hi : ∀ t, .cancel t ∉ inputs) :
    ((reached inputs).isIdle = true →
      (reached inputs).queueAt .map = [] ∧
      (∀ t s, (reached inputs).stage? t = some s → (reached inputs).Suspended t) ∧
      ((∀ t key c, (reached inputs).stage? t ≠ some (.inside key c)) →
        (∀ t c rest, (reached inputs).stage? t ≠ some (.closing c rest)) →
          (reached inputs).tasks = [])) ∧
    ∀ t key c raised, (reached inputs).stage? t = some (.inside key c) →
      (reached inputs).Handed ((reached inputs).step (.leave t raised)).1 t key := by
  have h := sound_reached hi
  set r := reached inputs
  refine ⟨fun hidle => ⟨h.queue_eq_nil, fun t s hs => h.suspended hidle hs, fun hin hcl => ?_⟩,
    fun t key c raised hs => ?_⟩
  · refine List.eq_nil_iff_forall_not_mem.mpr fun entry hm => ?_
    obtain ⟨s, hs⟩ : ∃ s, r.stage? entry.1 = some s := by
      refine Option.ne_none_iff_exists'.mp fun hnone => ?_
      exact (OrderedMap.get?_eq_none_iff r.tasks entry.1).mp hnone (List.mem_map_of_mem hm)
    cases h.suspended hidle hs with
    | inside key c hs => exact hin _ key c hs
    | closing c rest hs => exact hcl _ c rest hs
    | waiting e key u c _ _ _ _ hu => exact hin u key c hu
  · have hleave : (r.step (.leave t raised)).1 = r.quit t (.slot key) := by
      simp [step, answer, leave, hs, finish]
    rw [hleave]
    exact h.handed hs

theorem no_stuck_task_relay : (∀ t, .cancel t ∉ relay.take 4) ∧
    (reached (relay.take 4)).isIdle = true ∧
    (reached (relay.take 4)).Suspended 3 ∧
    (reached (relay.take 4)).Handed ((reached (relay.take 4)).step (.leave 1 true)).1 1
      ⟨"a", 0⟩ := by
  have hi : ∀ t, .cancel t ∉ relay.take 4 := by simp [relay]
  have hidle : (reached (relay.take 4)).isIdle = true := by decide
  obtain ⟨hall, hleave⟩ := no_stuck_task hi
  exact ⟨hi, hidle, (hall hidle).2.1 3 (.waiting (.retire ⟨"a", 0⟩ [])) (by decide),
    hleave 1 ⟨"a", 0⟩ 10 true (by decide)⟩

end Registry

end Polystore
