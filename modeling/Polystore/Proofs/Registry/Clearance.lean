import Polystore.Proofs.Registry.Debt
import Polystore.Proofs.Registry.Idle
import Polystore.Proofs.Registry.Roster

/-!
# Clearing a registry

A task that closes all connections empties the map at once. It then closes the connections that were
on the map, in the order of the map, each one after the call for the one before came back. Whatever
else goes on meanwhile, what is registered later is none of its business.

* `Chronicle.ofTask`, `Chronicle.calls`: what is seen of a task, and calls of `close` one after
  another;
* `Registry.Round`: how far a task got with the connections that it has to close, as the registry
  shows it; **`keeps_round`**: moves and runs keep this so;
* `Registry.Awaits`, `Registry.InTurn`: the same for callers; **`Sound.inTurn`**: how far a task got
  after a run;
* `Registry.Clears`, **`Registry.cleared_in_turn`**: what a task does that closes all connections.
-/

set_option linter.unusedSectionVars false

namespace Polystore

namespace Chronicle

variable {τ κ : Type}

/-- What is seen of a task. -/
def ofTask [DecidableEq τ] (t : τ) (h : List (Event τ κ)) : List (Event τ κ) :=
  h.filter fun e => e.task = t

/-- Calls of `close` that came back, one after another, each with whether it raised an exception. -/
def calls (t : τ) (done : List (κ × Bool)) : List (Event τ κ) :=
  done.flatMap fun call => [.closing t call.1, .closed t call.1 call.2]

variable [DecidableEq τ] {t u : τ} {h es : List (Event τ κ)}

theorem ofTask_append (t : τ) (h es : List (Event τ κ)) :
    ofTask t (h ++ es) = ofTask t h ++ ofTask t es := by
  simp [ofTask]

theorem ofTask_eq_self (hes : ∀ e ∈ es, e.task = t) : ofTask t es = es :=
  List.filter_eq_self.mpr fun e he => by simpa using hes e he

theorem ofTask_eq_nil (hu : u ≠ t) (hes : ∀ e ∈ es, e.task = u) : ofTask t es = [] :=
  List.filter_eq_nil_iff.mpr fun e he => by simpa [hes e he] using hu

theorem calls_concat (t : τ) (done : List (κ × Bool)) (c : κ) (raised : Bool) :
    calls t (done ++ [(c, raised)]) = calls t done ++ [.closing t c] ++ [.closed t c raised] := by
  simp [calls]

end Chronicle

namespace Registry

open Chronicle

variable {τ κ : Type} [DecidableEq τ] {r r' : Registry τ κ} {t u : τ}
  {es seen : List (Event τ κ)} {o o' : Option (List SlotKey)} {cs : List κ}

/-! ## Rounds -/

/-- How far a task got that has to close the connections `cs`, and what was seen of it. -/
inductive Round (r : Registry τ κ) (t : τ) (cs : List κ) :
    Option (List SlotKey) → List (Event τ κ) → Prop
  /-- In the middle of a step. -/
  | owing (done : List (κ × Bool)) (owed : List SlotKey) : r.stage? t = none →
    done.map Prod.fst ++ owed.filterMap r.held? = cs → Round r t cs (some owed) (calls t done)
  | waiting (done : List (κ × Bool)) (key : SlotKey) (rest : List SlotKey) :
    r.view Stage.errand? t = some (.retire key rest) →
      done.map Prod.fst ++ (key :: rest).filterMap r.held? = cs → Round r t cs none (calls t done)
  | calling (done : List (κ × Bool)) (c : κ) (rest : List SlotKey) :
    r.view Stage.closing? t = some (c, rest) →
      done.map Prod.fst ++ c :: rest.filterMap r.held? = cs →
        Round r t cs none (calls t done ++ [.closing t c])
  /-- What is seen after the end is of another task with the same name. -/
  | ended (done : List (κ × Bool)) (later : List (Event τ κ)) (o : Option (List SlotKey)) :
    done.map Prod.fst = cs → Round r t cs o (calls t done ++ .finished t false :: later)

/-- A task goes on in its round with its own moves. -/
theorem Sound.round_move (hs : r.Sound (o.getD [])) (m : Move t r o es r' o')
    (hr : r.Round t cs o seen) : r'.Round t cs o' (seen ++ es) := by
  -- where the task stands leaves it one move, as long as it did not end
  cases hr with
  | ended done later _ hcs =>
    rw [List.append_assoc, List.cons_append]
    exact .ended done (later ++ es) o' hcs
  | owing done owed ht hcs =>
    cases m with
    | @await key rest =>
      rw [List.append_nil]
      refine .waiting done key rest ?_ ?_
      · rw [view_lineUp r t t Stage.errand?_grant, if_pos rfl]
        rfl
      · rw [funext (held?_lineUp r t (.retire key rest)), hcs]
    | finish => exact .ended done [] none (by simpa using hcs)
  | waiting done key rest hv hcs =>
    cases m with
    | refuse ht | ask ht | register _ _ ht | unregister _ ht | unregisterAll ht =>
      simp [view_of_absent ht] at hv
    | enter ht | leave _ ht | closed _ ht => simp [view_of_stage ht, Stage.errand?] at hv
    | @close k rest' c ht hc =>
      obtain ⟨rfl, rfl⟩ : k = key ∧ rest' = rest := by
        simpa [view_of_stage ht, Stage.errand?] using hv
      refine .calling done c rest' (view_of_stage (stage?_takeOut_self ..)) ?_
      rw [hs.filterMap_takeOut ht, ← hcs, List.filterMap_cons_some hc]
  | calling done c rest hv hcs =>
    cases m with
    | refuse ht | ask ht | register _ _ ht | unregister _ ht | unregisterAll ht =>
      simp [view_of_absent ht] at hv
    | enter ht | leave _ ht | close ht => simp [view_of_stage ht, Stage.closing?] at hv
    | @closed rest' c' raised ht =>
      obtain ⟨rfl, rfl⟩ : c' = c ∧ rest' = rest := by
        simpa [view_of_stage ht, Stage.closing?] using hv
      rw [← calls_concat]
      refine .owing _ rest' (by simp) ?_
      rw [funext (held?_dropTask r t), ← hcs]
      simp

/-- **A task goes on in its round with its own moves only.** -/
theorem keeps_round : Keeps t fun r o (h : List (Event τ κ)) => r.Round t cs o (ofTask t h) where
  own hs m hr := by
    rw [ofTask_append, ofTask_eq_self m.task]
    exact hs.round_move m hr
  other hu hs m hr := by
    rw [ofTask_append, ofTask_eq_nil hu m.task, List.append_nil]
    generalize ofTask t _ = seen at hr
    cases hr with
    | waiting done key rest hv hcs =>
      have hheld := hs.filterMap_of_other m hu
      rw [duties_of_errand hv] at hheld
      exact .waiting done key rest ((m.view_of_other hu Stage.errand?_grant).trans hv)
        (by rw [hheld, hcs])
    | calling done c rest hv hcs =>
      have hheld := hs.filterMap_of_other m hu
      rw [duties_of_closing hv] at hheld
      exact .calling done c rest ((m.view_of_other hu Stage.closing?_grant).trans hv)
        (by rw [hheld, hcs])
    | ended done later _ hcs => exact .ended done later none hcs

/-- A task that takes connections off the map begins its round with all of them. -/
theorem Sound.round_start (hs : r.Sound []) (ht : r.stage? t = none) {op : Operation κ}
    (hop : ∀ id, op ≠ .access id) :
    (r.start t op).1.Round t (r.displaced op) none (ofTask t (r.start t op).2.toList) := by
  obtain ⟨r', owed, heq, hs', ht', hcs⟩ := hs.exists_retire ht hop
  rw [heq]
  exact keeps_round.course hs' (hs'.course_retire ht') (h := []) (.owing [] owed ht' hcs)

/-! ## Turns -/

/-- A task waits for the slot of a connection to retire it. -/
structure Awaits (r : Registry τ κ) (t : τ) (c : κ) : Prop where
  errand : ∃ key rest, r.view Stage.errand? t = some (.retire key rest) ∧ r.held? key = some c
  /-- When it has the slot, it goes on and calls `close`. -/
  granted : ∀ e, r.stage? t = some (.granted e) → (r.step (.resume t)).2 = [.closing t c]
  /-- When no task can go on by itself, one is in a block with the connection. -/
  inside : r.isIdle = true → ∃ u key, r.stage? u = some (.inside key c)

/-- How far a task got that has to close the connections `cs`, one after another: `close` was called
on some of them and came back each time, and then there is the next one, or an end. -/
inductive InTurn (r : Registry τ κ) (t : τ) (cs : List κ) : List (Event τ κ) → Prop
  | waiting (done : List (κ × Bool)) (c : κ) (left : List κ) :
    done.map Prod.fst ++ c :: left = cs → r.Awaits t c → InTurn r t cs (calls t done)
  /-- The call of `close` for the next connection is under way and may come back. -/
  | calling (done : List (κ × Bool)) (c : κ) (left : List κ) :
    done.map Prod.fst ++ c :: left = cs →
      (∀ raised, .closed t c raised ∈ (r.step (.closed t raised)).2) →
        InTurn r t cs (calls t done ++ [.closing t c])
  /-- All are closed, and the task ended in the regular way. What is seen later is of another task
  with the same name. -/
  | ended (done : List (κ × Bool)) (later : List (Event τ κ)) :
    done.map Prod.fst = cs → InTurn r t cs (calls t done ++ .finished t false :: later)

theorem Sound.awaits (hs : r.Sound []) {key : SlotKey} {rest : List SlotKey} {c : κ}
    (hv : r.view Stage.errand? t = some (.retire key rest)) (hc : r.held? key = some c) :
    r.Awaits t c := by
  constructor
  case errand => exact ⟨key, rest, hv, hc⟩
  case granted =>
    intro e ht
    obtain rfl : e = .retire key rest := by simpa [view_of_stage ht, Stage.errand?] using hv
    simp [Registry.step, answer, notice, resume, ht, retireHeld_of_held hc]
  case inside =>
    intro hidle
    rcases errand?_eq_some.mp hv with ht | ht
    · cases hs.suspended hidle ht with
      | waiting e k u c' hk hplace _ _ hu =>
        obtain rfl : e = .retire key rest := by simpa using hk.symm.trans ht
        obtain rfl : key = k := Place.slot.inj hplace
        have hc' := hs.served.inside u key c' (inside?_eq_some.mpr hu)
        exact ⟨u, key, by rw [hu, Option.some.inj (hc.symm.trans hc')]⟩
      | inside k c' hk | closing c' rest' hk => simp [hk] at ht
    · exact absurd rfl (not_granted_of_isIdle hidle ht _)

/-- Between two steps, a round is a turn. -/
theorem Round.inTurn (hs : r.Sound []) (hr : r.Round t cs none seen) : r.InTurn t cs seen := by
  cases hr with
  | waiting done key rest hv hcs =>
    have hduty : key ∈ r.duties t := by simp [duties_of_errand hv]
    obtain ⟨c, hc⟩ := Option.isSome_iff_exists.mp
      ((hs.kept.held_iff key).mpr (.inr (.inr ⟨t, hduty⟩)))
    rw [List.filterMap_cons_some hc] at hcs
    exact .waiting done c _ hcs (hs.awaits hv hc)
  | calling done c rest hv hcs =>
    have ht := closing?_eq_some.mp hv
    exact .calling done c _ hcs fun raised => by simp [step, answer, notice, ht]
  | ended done later _ hcs => exact .ended done later hcs

/-- **A task that takes connections off the map closes them in turn**, whatever follows. -/
theorem Sound.inTurn (hs : r.Sound []) (ht : r.stage? t = none) {op : Operation κ}
    (hop : ∀ id, op ≠ .access id) {inputs : List (Input τ κ)} (hi : ∀ u, .cancel u ∉ inputs) :
    ((r.start t op).1.run inputs).1.InTurn t (r.displaced op)
      (ofTask t ((r.start t op).2.toList ++ ((r.start t op).1.run inputs).2)) := by
  have hstart : (r.step (.start t op)).1.Sound [] := hs.step (by simp)
  rw [step_start ht] at hstart
  exact (keeps_round.run hstart hi (hs.round_start ht hop)).inTurn (hstart.run hi)

/-! ## Clearances -/

/-- What holds after a task `t` was started that closes all connections, which were `cs`, and after
the events `es` that followed. -/
structure Clears (r : Registry τ κ) (t : τ) (cs : List κ) (es : List (Event τ κ)) : Prop where
  /-- It closes these connections in their order. -/
  inTurn : r.InTurn t cs (ofTask t es)
  /-- The map is what later starts made of an empty one. -/
  ids : r.ids = OrderedMap.keys (roster es)
  connection? : ∀ id, r.connection? id = OrderedMap.get? (roster es) id
  /-- What is registered later stays on the map until a later start takes it off. -/
  stays : ∀ es₁ u id c es₂, es = es₁ ++ .started u (.replace id c) :: es₂ →
    (∀ e ∈ es₂, ¬e.displaces id) → r.connection? id = some c
  /-- And it is not closed by the task. -/
  spared : ∀ c ∈ registered es, c ∉ cs

/-- The map is empty as soon as a task is started that closes all connections. -/
theorem Sound.ids_start_closeAll (hs : r.Sound []) (ht : r.stage? t = none) :
    (r.step (.start t .closeAll)).1.ids = [] := by
  rw [step_start ht, start_closeAll hs.queue_eq_nil ht, ids, live_retire]
  rfl

variable [DecidableEq κ]

/-- Connections that were on the map are not registered again. -/
theorem not_mem_of_registered {inputs : List (Input τ κ)} (hi : ∀ u, .cancel u ∉ inputs)
    (hn : (registered (chronicle inputs ++ es)).Nodup)
    (hcs : (reached inputs).ids.map (reached inputs).connection? = cs.map some) {c : κ}
    (hc : c ∈ registered es) : c ∉ cs := by
  intro hm
  have hsome : some c ∈ cs.map some := List.mem_map_of_mem hm
  rw [← hcs] at hsome
  obtain ⟨id, -, hid⟩ := List.mem_map.mp hsome
  rw [(answered_reached hi (nodup_registered _ _ hn)).enlisted] at hid
  exact not_mem_registered hn hc (mem_registered_of_roster hid)

/-- **Connections are cleared in turn.** A task that closes all connections empties the map at once.
It then closes those that were on the map, in the order of the map, each one when the call for the
one before came back, whether or not this call raised an exception. What is registered meanwhile it
neither takes off the map nor closes. -/
theorem cleared_in_turn {before after : List (Input τ κ)} {t : τ}
    (hi : ∀ u, .cancel u ∉ before ++ .start t .closeAll :: after)
    (hn : (registered (chronicle (before ++ .start t .closeAll :: after))).Nodup)
    (ht : (reached before).stage? t = none) :
    ((reached before).step (.start t .closeAll)).1.ids = [] ∧
      ∃ (cs : List κ) (es : List (Event τ κ)),
        (reached before).ids.map (reached before).connection? = cs.map some ∧
        chronicle (before ++ .start t .closeAll :: after) =
          chronicle before ++ .started t .closeAll :: es ∧
        (reached (before ++ .start t .closeAll :: after)).Clears t cs es := by
  have hbefore : ∀ u, .cancel u ∉ before := fun u hu => hi u (List.mem_append_left _ hu)
  have hafter : ∀ u, .cancel u ∉ after := fun u hu =>
    hi u (List.mem_append_right _ (List.mem_cons_of_mem _ hu))
  have hsound := sound_reached hbefore
  have hes := chronicle_start ht .closeAll after
  set es := ((reached before).start t .closeAll).2.toList ++
    (((reached before).start t .closeAll).1.run after).2
  have hroster : roster (chronicle (before ++ .start t .closeAll :: after)) = roster es := by
    rw [hes, roster_of_closeAll]
  have hconnection := (answered_reached hi hn).enlisted
  have hlater : (registered (chronicle before ++ es)).Nodup := by
    rw [hes, registered_append] at hn
    rwa [registered_append]
  have hcs := hsound.map_connection?
  refine ⟨hsound.ids_start_closeAll ht, _, es, hcs, hes, ?_⟩
  constructor
  case inTurn =>
    rw [reached_start ht]
    exact hsound.inTurn ht (by simp) hafter
  case ids => rw [ids_reached, hroster]
  case connection? =>
    intro id
    rw [hconnection, hroster]
  case stays =>
    intro es₁ u id c es₂ heq hnone
    rw [hconnection, hroster, heq, get?_roster_of_registered hnone]
  case spared => exact fun c hc => not_mem_of_registered hbefore hlater hcs hc

/-- A task closes all connections while one of them is in use. Another one is registered under the
same identifier meanwhile, and the first call of `close` raises an exception. -/
def clearance : List (Input Nat Nat) :=
  [.start 0 (.replace "a" 10), .start 1 (.replace "b" 20), .start 2 (.access "a"),
    .start 3 .closeAll, .start 4 (.replace "a" 11), .leave 2 false, .resume 3, .closed 3 true,
    .closed 3 false]

theorem cleared_in_turn_clearance :
    (∀ u, .cancel u ∉ clearance) ∧ (registered (chronicle clearance)).Nodup ∧
      (reached (clearance.take 3)).stage? 3 = none ∧
      (∃ es, chronicle clearance = chronicle (clearance.take 3) ++ .started 3 .closeAll :: es ∧
        (reached clearance).Clears 3 [10, 20] es) ∧
      ofTask 3 (chronicle clearance) =
        .started 3 .closeAll :: calls 3 [(10, true), (20, false)] ++ [.finished 3 false] ∧
      (reached clearance).connection? "a" = some 11 := by
  have hi : ∀ u, .cancel u ∉ clearance.take 3 ++ .start 3 .closeAll :: clearance.drop 4 := by
    simp [clearance]
  have hn : (registered (chronicle
    (clearance.take 3 ++ .start 3 .closeAll :: clearance.drop 4))).Nodup := by decide
  have ht : (reached (clearance.take 3)).stage? 3 = none := by decide
  obtain ⟨-, cs, es, hcs, hes, hclears⟩ := cleared_in_turn hi hn ht
  have hsnap : (reached (clearance.take 3)).ids.map (reached (clearance.take 3)).connection? =
      [10, 20].map some := by decide
  obtain rfl : cs = [10, 20] :=
    (List.map_inj_right fun _ _ => Option.some.inj).mp (hcs.symm.trans hsnap)
  exact ⟨hi, hn, ht, ⟨es, hes, hclears⟩, by decide, by decide⟩

end Registry

end Polystore
