import Polystore.Proofs.Registry.Followed
import Polystore.Proofs.Registry.Share

/-!
# Identifiers do not influence each other

If all steps of a run are left out that are for other identifiers, the share of an identifier is the
same as before: what is seen of its tasks, its connection, and where its tasks stand. A block or a
call of `close` that never ends holds up no task of another identifier.

* `Sound.share_start`, `Sound.share_resume` and the like: a step of a task of the identifier is the
  same step of the share;
* **`Sound.share_step`**, **`Sound.share_run`**: a run of the registry is, for the share, the run of
  the inputs of its identifier;
* `Apart`, **`identifiers_apart`**: what follows for callers.
-/

set_option linter.unusedSectionVars false

namespace Polystore

namespace Registry

open Chronicle

variable {τ κ : Type} [DecidableEq τ] {r r' : Registry τ κ} {owner : τ → String} {id i : String}
  {t : τ} {o o' : Option (List SlotKey)} {owed : List SlotKey} {es : List (Event τ κ)}
  {key : SlotKey} {rest : List SlotKey} {c : κ}

/-! ## Steps of the identifier -/

section Own

variable (ht : owner t = id)

include ht

theorem share_enter (hk : key.id = id) (hc : r.held? key = some c) :
    (r.share owner id).enter t key i =
      ((r.enter t key i).1.share owner id, (r.enter t key i).2) := by
  have hshare : (r.share owner id).held? key = some c := (held?_share r owner id hk).trans hc
  rw [enter_of_held hc, enter_of_held hshare, share_setStage, if_pos ht]

theorem share_use (hk : key.id = id) (hc : r.held? key = some c) :
    (r.share owner id).use t key i = ((r.use t key i).1.share owner id, (r.use t key i).2) := by
  have hline : (r.lineUp t (.use key i)).share owner id =
      (r.share owner id).lineUp t (.use key i) := by
    rw [share_lineUp id (ht.trans hk.symm) rfl, if_pos hk]
  have htaken := isTaken_share r owner id hk
  cases hfree : r.isTaken (.slot key) with
  | true => simp only [use, htaken, hfree, hline, if_true]
  | false =>
    rw [use_of_free hfree, use_of_free (htaken.trans hfree), ← hline]
    exact share_enter ht hk (by rw [held?_lineUp, hc])

theorem Sound.share_retireHeld (hs : r.Sound []) (h : r.Housed owner)
    (hstage : r.stage? t = some (.granted (.retire key rest))) :
    (r.share owner id).retireHeld t key rest =
      ((r.retireHeld t key rest).1.share owner id, (r.retireHeld t key rest).2) := by
  have howner : key.id = owner t := h t key (by simp [concerns_of_stage hstage, Stage.keys])
  have hk : key.id = id := howner.trans ht
  obtain ⟨c, hc⟩ := hs.held_of_retire hstage
  have hshare : (r.share owner id).held? key = some c := (held?_share r owner id hk).trans hc
  rw [retireHeld_of_held hc, retireHeld_of_held hshare,
    share_takeOut id c howner.symm fun u => h.owner_eq hs, if_pos hk]

theorem Sound.share_retire (hs : r.Sound owed) (h : r.Housed owner) (hstage : r.stage? t = none)
    (ho : ∀ key ∈ owed, key.id = owner t) :
    (r.share owner id).retire t owed =
      ((r.retire t owed).1.share owner id, (r.retire t owed).2) := by
  cases owed with
  | nil => rfl
  | cons key rest =>
    have howner : key.id = owner t := ho key List.mem_cons_self
    have hk : key.id = id := howner.trans ht
    have hline : (r.lineUp t (.retire key rest)).share owner id =
        (r.share owner id).lineUp t (.retire key rest) := by
      rw [share_lineUp id howner.symm rfl, if_pos hk]
    have htaken := isTaken_share r owner id hk
    cases hfree : r.isTaken (.slot key) with
    | true => simp only [retire, htaken, hfree, hline, if_true]
    | false =>
      have hm : Move t r (some (key :: rest)) [] (r.lineUp t (.retire key rest)) none :=
        .await hstage
      rw [retire_of_free hfree, retire_of_free (htaken.trans hfree), ← hline]
      exact (hs.move hm).share_retireHeld ht (h.move (o := some (key :: rest)) ho (by simp) hm).1
        (stage?_lineUp_of_free hfree)

theorem Sound.share_start (hs : r.Sound []) (h : r.Housed owner) {op : Operation κ}
    (hop : op.id? = some (owner t)) :
    (r.share owner id).start t op = ((r.start t op).1.share owner id, (r.start t op).2) := by
  have hq : (r.share owner id).queue = [] := hs.queue_eq_nil
  cases hstage : r.stage? t with
  | some s => simp [start, hstage, stage?_share r owner id ht]
  | none =>
    have hshare : (r.share owner id).stage? t = none := (stage?_share r owner id ht).trans hstage
    have hlive : ∀ key ∈ (r.liveKey? id).toList, key.id = owner t := fun key hk =>
      (id_of_liveKey? (Option.mem_toList.mp hk)).trans ht.symm
    cases op with
    | access i =>
      obtain rfl : i = id := (Option.some.inj hop).trans ht
      cases hk : r.liveKey? i with
      | none =>
        have hk' : (r.share owner i).liveKey? i = none := (liveKey?_share r owner i).trans hk
        rw [start_access_none hs.queue_eq_nil hstage hk, start_access_none hq hshare hk']
      | some key =>
        have hk' : (r.share owner i).liveKey? i = some key := (liveKey?_share r owner i).trans hk
        obtain ⟨c, hc, -⟩ := connection?_eq_some hs hk
        rw [start_access_some hs.queue_eq_nil hstage hk, start_access_some hq hshare hk']
        exact share_use ht (id_of_liveKey? hk) hc
    | replace i c =>
      obtain rfl : i = id := (Option.some.inj hop).trans ht
      have hreg : (r.register i c).share owner i = (r.share owner i).register i c := by
        rw [share_register, if_pos rfl]
      rw [start_replace hs.queue_eq_nil hstage, start_replace hq hshare, liveKey?_share, ← hreg]
      exact (hs.register i c).share_retire ht h hstage hlive
    | remove i =>
      obtain rfl : i = id := (Option.some.inj hop).trans ht
      have hreg : (r.unregister i).share owner i = (r.share owner i).unregister i := by
        rw [share_unregister, if_pos rfl]
      rw [start_remove hs.queue_eq_nil hstage, start_remove hq hshare, liveKey?_share, ← hreg]
      exact (hs.unregister i).share_retire ht h hstage hlive
    | closeAll => cases hop

theorem Sound.share_leave (hs : r.Sound []) (h : r.Housed owner) (raised : Bool) :
    (r.share owner id).leave t raised =
      ((r.leave t raised).1.share owner id, (r.leave t raised).2) := by
  unfold leave
  rw [stage?_share r owner id ht]
  cases hstage : r.stage? t with
  | none => rfl
  | some s =>
    cases s with
    | inside key c =>
      have howner : key.id = owner t := h t key (by simp [concerns_of_stage hstage, Stage.keys])
      change _ = ((r.quit t (.slot key)).share owner id, _)
      rw [share_quit id howner.symm fun u => h.owner_eq hs, if_pos (howner.trans ht)]
      rfl
    | _ => rfl

theorem Sound.share_closed (hs : r.Sound []) (h : r.Housed owner) :
    (r.share owner id).closed t = ((r.closed t).1.share owner id, (r.closed t).2) := by
  unfold closed
  rw [stage?_share r owner id ht]
  cases hstage : r.stage? t with
  | none => rfl
  | some s =>
    cases s with
    | closing c rest =>
      have hm : Move t r none [.closed t c false] (r.dropTask t) (some rest) := .closed false hstage
      obtain ⟨h', ho⟩ := h.move (by simp) (by simp) hm
      have hdrop : (r.dropTask t).share owner id = (r.share owner id).dropTask t := by
        rw [share_dropTask, if_pos ht]
      change ((r.share owner id).dropTask t).retire t rest = _
      rw [← hdrop]
      exact (hs.move hm).share_retire ht h' (by simp) ho
    | _ => rfl

theorem Sound.share_resume (hs : r.Sound []) (h : r.Housed owner) :
    (r.share owner id).resume t = ((r.resume t).1.share owner id, (r.resume t).2) := by
  unfold resume
  rw [stage?_share r owner id ht]
  cases hstage : r.stage? t with
  | none => rfl
  | some s =>
    have hsm := hs.smooth t s hstage
    cases s with
    | granted e =>
      cases e with
      | operate op => exact hsm.elim
      | use key i =>
        have howner : key.id = owner t := h t key (by simp [concerns_of_stage hstage, Stage.keys])
        obtain ⟨c, hc⟩ := hs.held_of_use hstage
        exact share_enter ht (howner.trans ht) hc
      | retire key rest => exact hs.share_retireHeld ht h hstage
    | retrying i => exact hsm.elim
    | _ => rfl

end Own

/-- What an input shows by itself depends on its task only. -/
theorem notice_share (r : Registry τ κ) {input : Input τ κ} (ht : owner input.task = id) :
    (r.share owner id).notice input = r.notice input := by
  cases input
  all_goals
    simp only [Input.task] at ht
    simp only [notice, stage?_share r owner id ht]

/-! ## Steps -/

section Step

variable {input : Input τ κ} (hs : r.Sound []) (h : r.Housed owner)
  (hi : ∀ t, input ≠ .cancel t) (ho : ∀ t op, input = .start t op → op.id? = some (owner t))

include hs h hi ho

theorem Sound.housed_step : (r.step input).1.Housed owner :=
  (h.course (by simp) (fun op hop => ho _ op (eq_start_of_started hop)) (hs.course_step hi)).1

theorem Sound.named_step : ∀ e ∈ (r.step input).2, ∀ i, e.id? = some i → i = owner e.task := by
  intro e he i hid
  have hc := hs.course_step hi
  rw [hc.task e he]
  refine h.named_course (o := none) hs (by simp) (fun op hop => ?_) hc e he i hid
  exact ho _ op (eq_start_of_started hop)

/-- **A step of the registry is a step of the share of its identifier**, and no step of the others.
-/
theorem Sound.share_step : ((r.step input).1.share owner id, (r.step input).2) =
    if owner input.task = id then (r.share owner id).step input
    else (r.share owner id, (r.step input).2) := by
  split
  · have ht : owner input.task = id := ‹_›
    have hanswer : (r.share owner id).answer input =
        ((r.answer input).1.share owner id, (r.answer input).2) := by
      cases input with
      | start t op => exact hs.share_start ht h (ho t op rfl)
      | leave t raised => exact hs.share_leave ht h raised
      | closed t raised => exact hs.share_closed ht h
      | resume t => exact hs.share_resume ht h
      | cancel t => exact absurd rfl (hi t)
    rw [Registry.step, Registry.step, hanswer, notice_share r ht]
  · rw [hs.share_course h (by simp) (fun op hop => ho _ op (eq_start_of_started hop)) ‹_›
      (hs.course_step hi)]

end Step

/-! ## Runs -/

/-- The inputs that are for tasks of an identifier. -/
def inputsOf (owner : τ → String) (id : String) (inputs : List (Input τ κ)) : List (Input τ κ) :=
  inputs.filter fun input => owner input.task = id

/-- The events of tasks of an identifier. -/
def eventsOf (owner : τ → String) (id : String) (h : List (Event τ κ)) : List (Event τ κ) :=
  h.filter fun e => owner e.task = id

/-- Every task is started for its owner. -/
def Loyal (owner : τ → String) (inputs : List (Input τ κ)) : Prop :=
  ∀ t op, .start t op ∈ inputs → op.id? = some (owner t)

section Run

variable {inputs : List (Input τ κ)} {input : Input τ κ}

theorem inputsOf_cons : inputsOf owner id (input :: inputs) =
    if owner input.task = id then input :: inputsOf owner id inputs
    else inputsOf owner id inputs := by
  by_cases h : owner input.task = id <;> simp [inputsOf, h]

theorem eventsOf_append (h es : List (Event τ κ)) :
    eventsOf owner id (h ++ es) = eventsOf owner id h ++ eventsOf owner id es :=
  List.filter_append ..

theorem Sound.eventsOf_step (hs : r.Sound []) (hi : ∀ t, input ≠ .cancel t) :
    eventsOf owner id (r.step input).2 =
      if owner input.task = id then (r.step input).2 else [] := by
  have htask := (hs.course_step hi).task
  split
  · exact List.filter_eq_self.mpr fun e he => by simp [htask e he, *]
  · exact List.filter_eq_nil_iff.mpr fun e he => by simp [htask e he, *]

/-- **A run of the registry is, for the share of an identifier, the run of its inputs.** -/
theorem Sound.share_run (hs : r.Sound []) (h : r.Housed owner) (hi : ∀ t, .cancel t ∉ inputs)
    (ho : Loyal owner inputs) : (r.share owner id).run (inputsOf owner id inputs) =
      ((r.run inputs).1.share owner id, eventsOf owner id (r.run inputs).2) := by
  induction inputs generalizing r with
  | nil => rfl
  | cons input inputs ih =>
    have hi' : ∀ t, input ≠ .cancel t := fun t e => hi t (e ▸ List.mem_cons_self)
    have ho' : ∀ t op, input = .start t op → op.id? = some (owner t) :=
      fun t op e => ho t op (e ▸ List.mem_cons_self)
    have hstep : ((r.step input).1.share owner id, (r.step input).2) = _ :=
      hs.share_step h hi' ho'
    have hrest := ih (hs.step hi') (hs.housed_step h hi' ho')
      (fun t ht => hi t (List.mem_cons_of_mem _ ht))
      fun t op ht => ho t op (List.mem_cons_of_mem _ ht)
    rw [inputsOf_cons, Registry.run, eventsOf_append, hs.eventsOf_step hi']
    split
    · rw [if_pos ‹_›] at hstep
      simp only [Registry.run, ← hstep, hrest]
    · rw [if_neg ‹_›, Prod.mk.injEq] at hstep
      rw [← hstep.1, hrest]
      rfl

theorem Sound.housed_run (hs : r.Sound []) (h : r.Housed owner) (hi : ∀ t, .cancel t ∉ inputs)
    (ho : Loyal owner inputs) : (r.run inputs).1.Housed owner ∧
      ∀ e ∈ (r.run inputs).2, ∀ i, e.id? = some i → i = owner e.task := by
  induction inputs generalizing r with
  | nil => exact ⟨h, by simp [Registry.run]⟩
  | cons input inputs ih =>
    have hi' : ∀ t, input ≠ .cancel t := fun t e => hi t (e ▸ List.mem_cons_self)
    have ho' : ∀ t op, input = .start t op → op.id? = some (owner t) :=
      fun t op e => ho t op (e ▸ List.mem_cons_self)
    obtain ⟨hhoused, hnamed⟩ := ih (hs.step hi') (hs.housed_step h hi' ho')
      (fun t ht => hi t (List.mem_cons_of_mem _ ht))
      fun t op ht => ho t op (List.mem_cons_of_mem _ ht)
    refine ⟨hhoused, fun e he => ?_⟩
    rcases List.mem_append.mp he with he | he
    · exact hs.named_step h hi' ho' e he
    · exact hnamed e he

end Run

/-! ## What follows for callers -/

/-- What an identifier has to do with the others in a run: nothing. -/
structure Apart (owner : τ → String) (id : String) (inputs : List (Input τ κ)) : Prop where
  /-- Its tasks are seen to do what they do without the others. -/
  events : eventsOf owner id (chronicle inputs) = chronicle (inputsOf owner id inputs)
  contains : (reached inputs).contains id = (reached (inputsOf owner id inputs)).contains id
  connection? :
    (reached inputs).connection? id = (reached (inputsOf owner id inputs)).connection? id
  stage? : ∀ t, owner t = id →
    (reached inputs).stage? t = (reached (inputsOf owner id inputs)).stage? t
  /-- Who waits, waits for a slot that a task of the same identifier has. -/
  waits : ∀ t e, (reached inputs).stage? t = some (.waiting e) → ∃ key u,
    e.place = .slot key ∧ ((reached inputs).queueAt (.slot key)).head? = some u ∧
      owner u = owner t
  /-- What is seen with the name of an identifier is seen of one of its tasks. -/
  named : ∀ e ∈ chronicle inputs, ∀ i, e.id? = some i → i = owner e.task
  /-- What is seen of a connection is seen of a task of the identifier that it was registered
  under. -/
  registered : (registered (chronicle inputs)).Nodup → ∀ e ∈ chronicle inputs, ∀ c,
    e.connection? = some c → ∃ t, .started t (.replace (owner e.task) c) ∈ chronicle inputs

section Callers

variable {inputs : List (Input τ κ)}

theorem Sound.waits (hs : r.Sound []) (h : r.Housed owner) {e : Errand κ}
    (ht : r.stage? t = some (.waiting e)) : ∃ key u, e.place = .slot key ∧
      (r.queueAt (.slot key)).head? = some u ∧ owner u = owner t := by
  obtain ⟨key, hkey⟩ : ∃ key, e.place = .slot key := by
    have hsm := hs.smooth t _ ht
    cases e with
    | operate op => exact hsm.elim
    | use key i => exact ⟨key, rfl⟩
    | retire key rest => exact ⟨key, rfl⟩
  have hmem : t ∈ r.queueAt (.slot key) := by
    rw [hs.queued.mem_iff, view_of_stage ht, ← hkey]
    rfl
  obtain ⟨u, hu⟩ := Option.ne_none_iff_exists'.mp fun hnone =>
    List.ne_nil_of_mem hmem (List.head?_eq_none_iff.mp hnone)
  exact ⟨key, u, hkey, hu, (h.owner_eq hs (List.mem_of_head? hu)).trans (h.owner_eq hs hmem).symm⟩

/-- A connection that is used or closed was registered. -/
theorem mem_registered_of_connection? [DecidableEq κ] (hi : ∀ t, .cancel t ∉ inputs)
    (hn : (registered (chronicle inputs)).Nodup) {e : Event τ κ} (he : e ∈ chronicle inputs)
    (hc : e.connection? = some c) : c ∈ registered (chronicle inputs) := by
  by_contra hnot
  have hmem : e ∈ historyOf c (chronicle inputs) := List.mem_filter.mpr ⟨he, by simp [hc]⟩
  rw [(followed_reached hi hn).unknown c hnot] at hmem
  cases hmem

theorem apart [DecidableEq κ] (hi : ∀ t, .cancel t ∉ inputs) (ho : Loyal owner inputs)
    (id : String) : Apart owner id inputs := by
  have hs := sound_reached hi
  obtain ⟨hhoused, hnamed⟩ := sound_empty.housed_run housed_empty hi ho
  have hrun : ∀ i, (empty : Registry τ κ).run (inputsOf owner i inputs) =
      ((reached inputs).share owner i, eventsOf owner i (chronicle inputs)) :=
    fun i => sound_empty.share_run housed_empty hi ho
  have hreached : reached (inputsOf owner id inputs) = (reached inputs).share owner id :=
    congrArg Prod.fst (hrun id)
  have hevents : ∀ i, chronicle (inputsOf owner i inputs) = eventsOf owner i (chronicle inputs) :=
    fun i => congrArg Prod.snd (hrun i)
  constructor
  case events => exact (hevents id).symm
  case contains => rw [hreached, contains_share]
  case connection? => rw [hreached, connection?_share]
  case stage? => exact fun t ht => by rw [hreached, stage?_share _ _ _ ht]
  case waits => exact fun t e ht => hs.waits hhoused ht
  case named => exact hnamed
  case registered =>
    intro hn e he c hc
    have hown : e ∈ chronicle (inputsOf owner (owner e.task) inputs) := by
      rw [hevents]
      exact List.mem_filter.mpr ⟨he, by simp⟩
    have hi' : ∀ t, .cancel t ∉ inputsOf owner (owner e.task) inputs :=
      fun t ht => hi t (List.mem_filter.mp ht).1
    have hn' : (Chronicle.registered (chronicle (inputsOf owner (owner e.task) inputs))).Nodup := by
      rw [hevents]
      exact hn.sublist (List.filter_sublist.filterMap _)
    obtain ⟨e', he', hreg⟩ := List.mem_filterMap.mp (mem_registered_of_connection? hi' hn' hown hc)
    rw [hevents] at he'
    obtain ⟨hmem, htask⟩ := List.mem_filter.mp he'
    obtain ⟨t, i, rfl⟩ : ∃ t i, e' = .started t (.replace i c) := by
      cases e' with
      | started t op =>
        cases op <;> simp_all [Event.registered?]
      | _ => cases hreg
    have hid : i = owner t := hnamed _ hmem i rfl
    have htask : owner t = owner e.task := of_decide_eq_true htask
    exact ⟨t, by rwa [← htask, ← hid]⟩

/-- **Identifiers do not influence each other.** Leave out of a run everything that is for other
identifiers, and after each of the steps that remain an identifier is where it is in the whole run:
the same has been seen of it, it has the same connection, and its tasks stand where they stand.
Nobody waits for a task of another identifier. -/
theorem identifiers_apart [DecidableEq κ] (hi : ∀ t, .cancel t ∉ inputs) (ho : Loyal owner inputs)
    (id : String) : ∀ before, before <+: inputs → Apart owner id before :=
  fun _ hpre => apart (fun t ht => hi t (hpre.subset ht)) (fun t op ht => ho t op (hpre.subset ht))
    id

end Callers

/-- A block of one identifier and a call of `close` of another never end, while a third one is
registered, used and displaced. -/
def standstill : List (Input Nat Nat) :=
  [.start 0 (.replace "a" 10), .start 1 (.access "a"), .start 2 (.replace "a" 11),
    .start 3 (.replace "b" 20), .start 4 (.remove "b"), .start 5 (.replace "c" 30),
    .start 6 (.access "c"), .start 7 (.replace "c" 31), .leave 6 false, .resume 7, .closed 7 true]

/-- Whom the tasks of `standstill` work for. -/
def standstillOwner (t : Nat) : String := if t < 3 then "a" else if t < 5 then "b" else "c"

theorem identifiers_apart_standstill :
    (∀ t, .cancel t ∉ standstill) ∧ Loyal standstillOwner standstill ∧
      Apart standstillOwner "c" standstill ∧
      (reached standstill).stage? 2 = some (.waiting (.retire ⟨"a", 0⟩ [])) ∧
      (reached standstill).stage? 4 = some (.closing 20 []) ∧
      (reached standstill).connection? "c" = some 31 ∧
      Event.finished 7 false ∈ eventsOf standstillOwner "c" (chronicle standstill) := by
  have hi : ∀ t, .cancel t ∉ standstill := by simp [standstill]
  have ho : Loyal standstillOwner standstill := by
    intro t op h
    simp only [standstill, List.mem_cons, Input.start.injEq, List.not_mem_nil, or_false,
      reduceCtorEq] at h
    rcases h with ⟨rfl, rfl⟩ | ⟨rfl, rfl⟩ | ⟨rfl, rfl⟩ | ⟨rfl, rfl⟩ | ⟨rfl, rfl⟩ | ⟨rfl, rfl⟩ |
      ⟨rfl, rfl⟩ | ⟨rfl, rfl⟩ <;> rfl
  exact ⟨hi, ho, identifiers_apart hi ho "c" standstill List.prefix_rfl, by decide, by decide,
    by decide, by decide⟩

end Registry

end Polystore
