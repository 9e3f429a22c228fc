import Polystore.Proofs.Registry.Followed

/-!
# Who gets which connection

An access gets the connection that its identifier had when it was started, and accesses to one
connection begin in the order in which they were started.

* `Registry.pending`: the accesses in the queue of a slot that did not begin yet, in the order of
  the queue;
* `Registry.Answered`: the map of the registry is the one that the starts made; the accesses to a
  connection that are not answered yet are those pending at its slot; and there are none for a
  connection that is in no slot;
* **`Answered.move`**, **`Answered.run`**: moves and runs keep this so.
-/

set_option linter.unusedSectionVars false

namespace Polystore

/-- The access that an errand is for, with the connection in its slot. -/
def Errand.claim? {τ κ : Type} (t : τ) (held? : SlotKey → Option κ) :
    Errand κ → Option (τ × String × Option κ)
  | .use key id => some (t, id, held? key)
  | _ => none

namespace Registry

open Chronicle

variable {τ κ : Type} [DecidableEq τ] [DecidableEq κ] {r r' : Registry τ κ}
  {h h' es : List (Event τ κ)} {t u : τ} {p : Place} {key : SlotKey} {rest owed : List SlotKey}
  {o o' : Option (List SlotKey)} {id : String} {c : κ}

/-! ## Pending accesses -/

/-- The access that a task did not begin yet. -/
def claim? (r : Registry τ κ) (t : τ) : Option (τ × String × Option κ) :=
  (r.view Stage.errand? t).bind (Errand.claim? t r.held?)

/-- The accesses in the queue of a slot that did not begin yet. -/
def pending (r : Registry τ κ) (key : SlotKey) : List (τ × String × Option κ) :=
  (r.queueAt (.slot key)).filterMap r.claim?

theorem claim?_congr (hv : r'.view Stage.errand? t = r.view Stage.errand? t)
    (hh : ∀ key id, r.view Stage.errand? t = some (.use key id) → r'.held? key = r.held? key) :
    r'.claim? t = r.claim? t := by
  rw [claim?, claim?, hv]
  refine Option.bind_congr fun e he => ?_
  cases e with
  | use key id => rw [Errand.claim?, Errand.claim?, hh key id he]
  | _ => rfl

theorem claim?_of_absent (ht : r.view Stage.errand? t = none) : r.claim? t = none := by
  simp [claim?, ht]

theorem pending_congr (hq : r'.queueAt (.slot key) = r.queueAt (.slot key))
    (hc : ∀ t, r'.claim? t = r.claim? t) : r'.pending key = r.pending key := by
  rw [pending, hq]
  exact List.filterMap_congr fun t _ => hc t

theorem claim?_lineUp (e : Errand κ) (u : τ) :
    (r.lineUp t e).claim? u = if t = u then e.claim? t r.held? else r.claim? u := by
  have hheld : (r.lineUp t e).held? = r.held? := funext (held?_lineUp r t e)
  rw [claim?, view_lineUp r t u Stage.errand?_grant, hheld]
  split
  · subst ‹t = u›
    rfl
  · rfl

theorem claim?_quit (hn : r.claim? t = none) (u : τ) : (r.quit t p).claim? u = r.claim? u := by
  have hheld : (r.quit t p).held? = r.held? := funext (held?_quit r t p)
  rw [claim?, view_quit r t u p Stage.errand?_grant, hheld]
  split
  · rw [← ‹t = u›, hn]
    rfl
  · rfl

/-- Who lines up for a slot is pending there behind the others, if it wants to use it. -/
theorem Sound.pending_lineUp (hs : r.Sound owed) (ht : r.stage? t = none) {e : Errand κ}
    (he : e.place = .slot key) (hk : (r.held? key).isSome) (k : SlotKey) :
    (r.lineUp t e).pending k =
      if key = k then r.pending k ++ (e.claim? t r.held?).toList else r.pending k := by
  have hnot : ∀ p, t ∉ r.queueAt p := fun p hm => by
    simpa [view_of_absent ht] using (hs.queued.mem_iff t p).mp hm
  have hother : ∀ u ∈ r.queueAt (.slot k), (r.lineUp t e).claim? u = r.claim? u := by
    intro u hu
    rw [claim?_lineUp, if_neg]
    exact fun e => hnot _ (e ▸ hu)
  have hself : (r.lineUp t e).claim? t = e.claim? t r.held? := by simp [claim?_lineUp]
  rw [pending, queueAt_lineUp (.slot k) he hk]
  by_cases hkk : key = k
  · subst hkk
    simp only [if_true, List.filterMap_append, List.filterMap_congr hother]
    cases hc : e.claim? t r.held? <;> simp [pending, hself, hc]
  · have hp : Place.slot key ≠ .slot k := fun e => hkk (Place.slot.inj e)
    simp only [hkk, hp, if_false, List.filterMap_congr hother]
    rfl

/-- Who gives a lock up was not pending, so the others are as before. -/
theorem Sound.pending_quit (hs : r.Sound owed) (ht : r.view Stage.lock? t = some p)
    (hn : r.claim? t = none) (k : SlotKey) : (r.quit t p).pending k = r.pending k := by
  obtain ⟨ws, hws, -⟩ := hs.queued.queueAt_of_lock ht
  have hclaim : (r.quit t p).claim? = r.claim? := funext (claim?_quit hn)
  rw [pending, queueAt_quit, hclaim]
  split
  · subst ‹p = .slot k›
    simp [pending, hws, hn]
  · rfl

/-- Who begins its block was the first one pending. -/
theorem Sound.pending_enter (hs : r.Sound [])
    (ht : r.stage? t = some (.granted (.use key id))) (k : SlotKey) :
    r.pending k = (if key = k then [(t, id, r.held? key)] else []) ++
      (r.setStage t (.inside key c)).pending k := by
  have hlock : r.view Stage.lock? t = some (.slot key) := view_of_stage ht
  have herr : r.view Stage.errand? t = some (.use key id) := view_of_stage ht
  obtain ⟨ws, hws, hnot⟩ := hs.queued.queueAt_of_lock hlock
  have hother : ∀ u, t ≠ u → (r.setStage t (.inside key c)).claim? u = r.claim? u := fun u hu =>
    claim?_congr (by simp [hu]) fun _ _ _ => rfl
  by_cases hk : key = k
  · subst hk
    have hall : ∀ u ∈ ws, (r.setStage t (.inside key c)).claim? u = r.claim? u :=
      fun u hu => hother u fun e => hnot (e ▸ hu)
    have hnew : (r.setStage t (.inside key c)).claim? t = none :=
      claim?_of_absent (by simp [Stage.errand?])
    have hold : r.claim? t = some (t, id, r.held? key) := by simp [claim?, herr, Errand.claim?]
    simp [pending, hws, hold, hnew, List.filterMap_congr hall]
  · rw [if_neg hk, List.nil_append, pending, pending, queueAt_setStage]
    refine List.filterMap_congr fun u hu => (hother u ?_).symm
    rintro rfl
    have hpt : r.view Stage.place? t = some (.slot key) :=
      (hs.queued.mem_iff t _).mp (by simp [hws])
    have hpk := (hs.queued.mem_iff t (.slot k)).mp hu
    exact hk (Place.slot.inj (Option.some.inj (hpt.symm.trans hpk)))

/-! ## Accesses that are answered -/

/-- Each access is answered, or waits in the queue of the slot with the connection that it asked
for. -/
structure Answered (r : Registry τ κ) (h : List (Event τ κ)) : Prop where
  enlisted : ∀ id, r.connection? id = OrderedMap.get? (roster h) id
  asked : ∀ t, byTask t (applications h) = byTask t (answers h) ++ (r.claim? t).toList
  waiting : ∀ key c, r.held? key = some c →
    toward (some c) (applications h) = toward (some c) (answers h) ++ r.pending key
  served : ∀ c, (∀ key, r.held? key ≠ some c) →
    toward (some c) (applications h) = toward (some c) (answers h)
  refused : toward none (applications h) = toward none (answers h)

theorem answered_empty : (empty : Registry τ κ).Answered [] := by
  have hh : ∀ key, (empty : Registry τ κ).held? key = none := fun _ => rfl
  have hc : ∀ t, (empty : Registry τ κ).claim? t = none := fun _ => rfl
  constructor
  case enlisted => exact fun _ => rfl
  all_goals simp [hh, hc, applications, applicationsFrom, answers, toward, byTask]

/-- Events that start and answer no access and leave the map alone. -/
theorem Answered.congr (ha : r.Answered h) (hh : ∀ key, r'.held? key = r.held? key)
    (hl : r'.live = r.live) (hc : ∀ t, r'.claim? t = r.claim? t)
    (hp : ∀ key, r'.pending key = r.pending key) (hes : ∀ e ∈ es, e.Silent) :
    r'.Answered (h ++ es) := by
  obtain ⟨hr, happ, hans⟩ := of_silent (h := h) hes
  constructor
  case enlisted => exact fun id => by rw [connection?_congr hh hl, hr, ha.enlisted]
  case asked => simpa only [hc, happ, hans] using ha.asked
  case waiting => simpa only [hh, hp, happ, hans] using ha.waiting
  case served => simpa only [hh, happ, hans] using ha.served
  case refused => simpa only [happ, hans] using ha.refused

/-- Accesses of one task to one connection are started or begin: `as` are those that are started,
and `bs` are those that begin. -/
theorem Answered.extend (ha : r.Answered h) (hf : r.Followed h) (hc : r.held? key = some c)
    (hh : ∀ key, r'.held? key = r.held? key) (hl : r'.live = r.live)
    {as bs : List (τ × String × Option κ)} (happ : applications h' = applications h ++ as)
    (hans : answers h' = answers h ++ bs) (hr : roster h' = roster h)
    (hone : ∀ a ∈ as ++ bs, a.1 = t ∧ a.2.2 = some c)
    (hclaim : ∀ u, (r.claim? u).toList ++ (if t = u then as else []) =
      (if t = u then bs else []) ++ (r'.claim? u).toList)
    (hpending : ∀ k, r.pending k ++ (if key = k then as else []) =
      (if key = k then bs else []) ++ r'.pending k) : r'.Answered h' := by
  have htask : ∀ (u : τ) (l : List (τ × String × Option κ)), (∀ a ∈ l, a ∈ as ++ bs) →
      byTask u l = if t = u then l else [] := by
    intro u l hl
    split
    · exact List.filter_eq_self.mpr fun a ha => by simp [(hone a (hl a ha)).1, ‹t = u›]
    · exact List.filter_eq_nil_iff.mpr fun a ha => by simp [(hone a (hl a ha)).1, ‹¬t = u›]
  have htoward : ∀ (o : Option κ) (l : List (τ × String × Option κ)), (∀ a ∈ l, a ∈ as ++ bs) →
      toward o l = if some c = o then l else [] := by
    intro o l hl
    split
    · exact List.filter_eq_self.mpr fun a ha => by simp [(hone a (hl a ha)).2, ‹some c = o›]
    · exact List.filter_eq_nil_iff.mpr fun a ha => by simp [(hone a (hl a ha)).2, ‹¬some c = o›]
  have has : ∀ a ∈ as, a ∈ as ++ bs := fun a => List.mem_append_left bs
  have hbs : ∀ a ∈ bs, a ∈ as ++ bs := fun a => List.mem_append_right as
  constructor
  case enlisted => exact fun id => by rw [connection?_congr hh hl, hr, ha.enlisted]
  case asked =>
    intro u
    rw [happ, hans, byTask_append, byTask_append, ha.asked, htask u as has, htask u bs hbs,
      List.append_assoc, hclaim, List.append_assoc]
  case waiting =>
    intro k c' hk
    rw [hh] at hk
    have hkk : some c = some c' ↔ key = k := by
      constructor
      · intro e
        exact hf.single key k c hc (e ▸ hk)
      · rintro rfl
        exact hc.symm.trans hk
    rw [happ, hans, toward_append, toward_append, ha.waiting k c' hk, htoward _ as has,
      htoward _ bs hbs, List.append_assoc, List.append_assoc]
    simp only [hkk, hpending]
  case served =>
    intro c' hc'
    have hcc : some c ≠ some c' := fun e => hc' key (by rw [hh, hc, e])
    rw [happ, hans, toward_append, toward_append, htoward _ as has, htoward _ bs hbs, if_neg hcc,
      if_neg hcc, ha.served c' fun k hk => hc' k (by rw [hh, hk])]
  case refused =>
    rw [happ, hans, toward_append, toward_append, htoward _ as has, htoward _ bs hbs,
      if_neg (by simp), if_neg (by simp), ha.refused]

/-! ## Moves -/

theorem Answered.refuse (ha : r.Answered h) (ht : r.stage? t = none) (hk : r.liveKey? id = none) :
    r.Answered (h ++ [.started t (.access id), .refused t id]) := by
  have hnone : OrderedMap.get? (roster h) id = none := by
    rw [← ha.enlisted]
    simp [connection?, hk]
  have happ : applications (h ++ [.started t (.access id), .refused t id]) =
      applications h ++ [(t, id, none)] := by
    simp [applications_append, applicationsFrom, Event.application?, hnone]
  have hans : answers (h ++ [.started t (.access id), .refused t id]) =
      answers h ++ [(t, id, none)] := by
    rw [answers_append]
    rfl
  have hroster : roster (h ++ [.started t (.access id), .refused t id]) = roster h := by
    simp [roster_append, Event.enlist]
  constructor
  case enlisted => exact fun i => hroster ▸ ha.enlisted i
  case asked =>
    intro u
    rw [happ, hans, byTask_append, byTask_append, ha.asked]
    by_cases hu : t = u
    · subst hu
      simp [claim?_of_absent (view_of_absent ht)]
    · simp [byTask, hu]
  case waiting =>
    intro key c hc
    simpa [happ, hans, toward] using ha.waiting key c hc
  case served =>
    intro c hc
    simpa [happ, hans, toward] using ha.served c hc
  case refused => rw [happ, hans, toward_append, toward_append, ha.refused]

theorem Answered.ask (ha : r.Answered h) (hf : r.Followed h) (hs : r.Sound [])
    (ht : r.stage? t = none) (hk : r.liveKey? id = some key) :
    (r.lineUp t (.use key id)).Answered (h ++ [.started t (.access id)]) := by
  obtain ⟨c, hc, hid⟩ := connection?_eq_some hs hk
  have hclaim : (Errand.use key id : Errand κ).claim? t r.held? = some (t, id, some c) := by
    simp [Errand.claim?, hc]
  have happ : applications (h ++ [.started t (.access id)]) =
      applications h ++ [(t, id, some c)] := by
    simp [applications_append, applicationsFrom, Event.application?, ← ha.enlisted, hid]
  refine ha.extend hf hc (held?_lineUp r t _) (live_lineUp r t _) happ
    (by rw [answers_started, List.append_nil]) (by simp [roster_append, Event.enlist])
    (t := t) (by simp) (fun u => ?_) (fun k => ?_)
  · rw [claim?_lineUp, hclaim]
    split
    · simp [← ‹t = u›, claim?_of_absent (view_of_absent ht)]
    · simp
  · rw [hs.pending_lineUp ht (e := .use key id) rfl (by simp [hc]), hclaim]
    split <;> simp

theorem Answered.enter (ha : r.Answered h) (hf : r.Followed h) (hs : r.Sound [])
    (ht : r.stage? t = some (.granted (.use key id))) (hc : r.held? key = some c) :
    (r.setStage t (.inside key c)).Answered (h ++ [.entered t id c]) := by
  have herr : r.view Stage.errand? t = some (.use key id) := view_of_stage ht
  have hans : answers (h ++ [.entered t id c]) = answers h ++ [(t, id, some c)] := by
    rw [answers_append]
    rfl
  have happ : applications (h ++ [.entered t id c]) = applications h ++ [] := by
    rw [applications_append]
    rfl
  refine ha.extend hf hc (held?_setStage r t _) rfl happ hans
    (by simp [roster_append, Event.enlist]) (t := t) (by simp) (fun u => ?_) (fun k => ?_)
  · by_cases hu : t = u
    · subst hu
      have hnew : (r.setStage t (.inside key c)).claim? t = none :=
        claim?_of_absent (by simp [Stage.errand?])
      have hold : r.claim? t = some (t, id, some c) := by simp [claim?, herr, Errand.claim?, hc]
      simp [hnew, hold]
    · have hother : (r.setStage t (.inside key c)).claim? u = r.claim? u :=
        claim?_congr (by simp [hu]) fun _ _ _ => rfl
      simp [hu, hother]
  · rw [hs.pending_enter (c := c) ht, hc]
    simp

theorem Sound.claim?_takeOut (hs : r.Sound [])
    (ht : r.stage? t = some (.granted (.retire key rest))) (u : τ) :
    (r.takeOut t key c rest).claim? u = r.claim? u := by
  have herr : r.view Stage.errand? t = some (.retire key rest) := view_of_stage ht
  have hview := view_takeOut r t u key c rest Stage.errand?_grant
  by_cases hu : t = u
  · subst hu
    rw [claim?_of_absent (by rw [hview, if_pos rfl]; rfl)]
    simp [claim?, herr, Errand.claim?]
  · rw [if_neg hu] at hview
    refine claim?_congr hview fun k i hui => ?_
    -- nobody else is in the queue of the slot
    have hmem := (hs.queued.mem_iff u (.slot k)).mpr (place?_of_errand hui)
    have hkk : key ≠ k := by
      rintro rfl
      exact hu (by simpa [hs.queueAt_of_retire ht, eq_comm] using hmem)
    simp [hkk]

/-- A connection is taken out of its slot when nobody is pending there. -/
theorem Answered.takeOut (ha : r.Answered h) (hs : r.Sound [])
    (ht : r.stage? t = some (.granted (.retire key rest))) (hc : r.held? key = some c) :
    (r.takeOut t key c rest).Answered (h ++ [.closing t c]) := by
  have herr : r.view Stage.errand? t = some (.retire key rest) := view_of_stage ht
  have hduty : key ∈ r.duties t := by simp [duties_of_errand herr]
  have hnone : r.claim? t = none := by simp [claim?, herr, Errand.claim?]
  have hclaim := fun u => hs.claim?_takeOut (c := c) ht u
  have hempty : r.pending key = [] := by simp [pending, hs.queueAt_of_retire ht, hnone]
  have hpending : ∀ k, key ≠ k → (r.takeOut t key c rest).pending k = r.pending k := fun k hk =>
    pending_congr (by simp [hk]) hclaim
  have hquiet : ∀ e ∈ [(.closing t c : Event τ κ)], e.Silent := by simp [Event.Silent]
  obtain ⟨hr, happ, hans⟩ := of_silent (h := h) hquiet
  constructor
  case enlisted =>
    intro i
    rw [hr, ← ha.enlisted, connection?, connection?, liveKey?_takeOut]
    refine Option.bind_congr fun k hk => ?_
    rw [held?_takeOut, if_neg]
    rintro rfl
    exact hs.kept.not_live_of_duty t key hduty (id_of_liveKey? hk ▸ hk)
  case asked => simpa only [hclaim, happ, hans] using ha.asked
  case waiting =>
    intro k c' hk
    rw [held?_takeOut] at hk
    split at hk
    · simp at hk
    · rw [happ, hans, hpending k ‹_›]
      exact ha.waiting k c' hk
  case served =>
    intro c' hc'
    rw [happ, hans]
    by_cases hcc : c = c'
    · subst hcc
      simpa [hempty] using ha.waiting key c hc
    · refine ha.served c' fun k hk => hc' k ?_
      rw [held?_takeOut, if_neg, hk]
      rintro rfl
      exact hcc (Option.some.inj (hc.symm.trans hk))
  case refused => rw [happ, hans, ha.refused]

/-- Nobody asked for a connection that was not registered before, and nobody waits at a new slot. -/
theorem Answered.register (ha : r.Answered h) (hf : r.Followed h) (hs : r.Sound []) (t : τ)
    (id : String) (hc : c ∉ registered h) :
    (r.register id c).Answered (h ++ [.started t (.replace id c)]) := by
  have hheld := fun k => held?_register k id c hs.numbered
  have hnot : ∀ k, r.held? k ≠ some c := fun k hk => hc (hf.known k c hk)
  have hclaim : ∀ u, (r.register id c).claim? u = r.claim? u := fun u =>
    claim?_congr rfl fun k i hu =>
      held?_register_of_isSome k id c hs.numbered (hs.served.use u k i hu).2
  have happ : applications (h ++ [.started t (.replace id c)]) = applications h :=
    applications_started (by simp)
  have hans : answers (h ++ [.started t (.replace id c)]) = answers h := answers_started
  have hroster : roster (h ++ [.started t (.replace id c)]) =
      OrderedMap.insert (roster h) id c := by
    simp [roster_append, Event.enlist]
  constructor
  case enlisted =>
    intro i
    rw [hroster, OrderedMap.get?_insert, connection?, liveKey?_register, ← ha.enlisted]
    by_cases hi : id = i
    · subst hi
      simp [hheld]
    · rw [if_neg hi, if_neg hi, connection?]
      refine Option.bind_congr fun k hk => ?_
      rw [hheld, if_neg]
      rintro rfl
      exact hi (id_of_liveKey? hk)
  case asked => simpa only [hclaim, happ, hans] using ha.asked
  case waiting =>
    intro k c' hk
    rw [hheld] at hk
    rw [happ, hans]
    split at hk
    · obtain rfl := Option.some.inj hk
      obtain rfl := ‹r.nextKey id = k›
      have hqueue : (r.register id c).queueAt (.slot (r.nextKey id)) = [] := by
        rw [queueAt_register]
        simp [queueAt, hs.numbered.get?_nextKey]
      have hempty : (r.register id c).pending (r.nextKey id) = [] := by simp [pending, hqueue]
      rw [hempty, List.append_nil]
      exact ha.served c hnot
    · rw [pending_congr (queueAt_register ..) hclaim]
      exact ha.waiting k c' hk
  case served =>
    intro c' hc'
    rw [happ, hans]
    refine ha.served c' fun k hk => hc' k ?_
    rw [held?_register_of_isSome k id c hs.numbered (by simp [hk]), hk]
  case refused => rw [happ, hans, ha.refused]

/-- What is only taken off the map keeps its slot. -/
theorem Answered.unmap (ha : r.Answered h) (hh : ∀ key, r'.held? key = r.held? key)
    (hc : ∀ t, r'.claim? t = r.claim? t) (hp : ∀ key, r'.pending key = r.pending key)
    {op : Operation κ} (hop : ∀ id, op ≠ .access id)
    (he : ∀ id, r'.connection? id = OrderedMap.get? (roster (h ++ [.started t op])) id) :
    r'.Answered (h ++ [.started t op]) := by
  have happ : applications (h ++ [.started t op]) = applications h := applications_started hop
  have hans : answers (h ++ [.started t op]) = answers h := answers_started
  constructor
  case enlisted => exact he
  case asked => simpa only [hc, happ, hans] using ha.asked
  case waiting => simpa only [hh, hp, happ, hans] using ha.waiting
  case served => simpa only [hh, happ, hans] using ha.served
  case refused => rw [happ, hans, ha.refused]

/-! ## Runs -/

theorem Answered.move (ha : r.Answered h) (hf : r.Followed h) (hs : r.Sound (o.getD []))
    (m : Move t r o es r' o') (hn : (registered (h ++ es)).Nodup) : r'.Answered (h ++ es) := by
  cases m with
  | refuse ht hk => exact ha.refuse ht hk
  | ask ht hk => exact ha.ask hf hs ht hk
  | enter ht hc => exact ha.enter hf hs ht hc
  | leave raised ht =>
    have hnone : r.claim? t = none := claim?_of_absent (view_of_stage ht)
    exact ha.congr (by simp) (by simp) (claim?_quit hnone)
      (hs.pending_quit (view_of_stage ht : r.view Stage.lock? t = some (.slot _)) hnone)
      (by simp [Event.Silent])
  | register id c ht =>
    exact ha.register hf hs t id (not_mem_registered hn (by simp [registered, Event.registered?]))
  | unregister id =>
    refine ha.unmap ?_ ?_ ?_ (by intro i; simp) fun i => ?_
    · exact fun _ => rfl
    · exact fun _ => rfl
    · exact fun _ => rfl
    · rw [connection?, liveKey?_unregister, roster_append]
      simp only [List.foldl_cons, List.foldl_nil, Event.enlist, OrderedMap.get?_erase]
      split
      · rfl
      · exact ha.enlisted i
  | unregisterAll =>
    refine ha.unmap ?_ ?_ ?_ (by intro i; simp) fun i => ?_
    · exact fun _ => rfl
    · exact fun _ => rfl
    · exact fun _ => rfl
    · simp [connection?, roster_append, Event.enlist]
  | @await key rest ht =>
    have hheld : (r.held? key).isSome := (hs.kept.held_iff key).mpr (.inr (.inl List.mem_cons_self))
    refine ha.congr (by simp) (by simp) (fun u => ?_) (fun k => ?_) (by simp)
    · rw [claim?_lineUp]
      split
      · rw [← ‹t = u›, claim?_of_absent (view_of_absent ht)]
        rfl
      · rfl
    · simp [hs.pending_lineUp ht (e := .retire key rest) rfl hheld, Errand.claim?]
  | close ht hc => exact ha.takeOut hs ht hc
  | closed raised ht =>
    have herr : r.view Stage.errand? t = none := view_of_stage ht
    have hclaim : ∀ u, (r.dropTask t).claim? u = r.claim? u := by
      refine fun u => claim?_congr ?_ fun _ _ _ => rfl
      rw [view_dropTask]
      split
      · rw [← ‹t = u›, herr]
      · rfl
    exact ha.congr (fun _ => rfl) rfl hclaim (fun k => pending_congr (by simp) hclaim)
      (by simp [Event.Silent])
  | finish =>
    exact ha.congr (fun _ => rfl) rfl (fun _ => rfl) (fun _ => rfl) (by simp [Event.Silent])

/-- **A run keeps accesses in order**, if it registers no connection again. -/
theorem Answered.run (ha : r.Answered h) (hf : r.Followed h) (hs : r.Sound [])
    {inputs : List (Input τ κ)} (hi : ∀ t, .cancel t ∉ inputs)
    (hn : (registered (h ++ (r.run inputs).2)).Nodup) :
    (r.run inputs).1.Answered (h ++ (r.run inputs).2) := by
  have hboth : (r.run inputs).1.Followed (h ++ (r.run inputs).2) ∧
      (r.run inputs).1.Answered (h ++ (r.run inputs).2) := by
    refine hs.run_preserves (P := fun r h => (registered h).Nodup → r.Followed h ∧ r.Answered h)
      ?_ (fun _ => ⟨hf, ha⟩) hi hn
    intro r r' o o' h es t hs m hfa hn
    obtain ⟨hf, ha⟩ := hfa (nodup_registered h es hn)
    exact ⟨hf.move hs m hn, ha.move hf hs m hn⟩
  exact hboth.2

theorem answered_reached {inputs : List (Input τ κ)} (hi : ∀ t, .cancel t ∉ inputs)
    (hn : (registered (chronicle inputs)).Nodup) :
    (reached inputs).Answered (chronicle inputs) :=
  answered_empty.run followed_empty sound_empty hi hn

/-! ## Order -/

/-- What the chronicle of a run says of accesses: each one gets the connection that its identifier
had when it was started, and is refused if it had none. -/
structure InOrder (r : Registry τ κ) (h : List (Event τ κ)) : Prop where
  /-- The map of identifiers is the one that the starts made. -/
  roster : ∀ id, r.connection? id = OrderedMap.get? (roster h) id
  /-- A task is answered what it asked for. -/
  task : ∀ t, byTask t (answers h) <+: byTask t (applications h)
  /-- Those who ask for an identifier that has no connection are refused, and nobody else is. -/
  refused : toward none (answers h) = toward none (applications h)
  /-- Accesses to a connection begin in the order in which they were started. -/
  connection : ∀ c, toward (some c) (answers h) <+: toward (some c) (applications h)
  /-- All of them began when the connection is closed. -/
  closing : ∀ es t c es', h = es ++ .closing t c :: es' →
    toward (some c) (answers es) = toward (some c) (applications h)
  /-- All of them were started when the connection is taken off the map. -/
  displaced : ∀ es e es' id c, h = es ++ e :: es' →
    OrderedMap.get? (Chronicle.roster es) id = some c →
      OrderedMap.get? (Chronicle.roster (es ++ [e])) id ≠ some c →
        toward (some c) (applications h) = toward (some c) (applications es)
  /-- Who asks for an identifier after it was replaced asks for the new connection, or for one that
  is registered later still. -/
  replaced : ∀ es t id c es', h = es ++ .started t (.replace id c) :: es' →
    ∀ u c', (u, id, some c') ∈
      applicationsFrom (Chronicle.roster (es ++ [.started t (.replace id c)])) es' →
        c' ∈ c :: registered es'

/-- **Accesses are served in order**, in every run that registers no connection twice. -/
theorem accesses_in_order {inputs : List (Input τ κ)} (hi : ∀ t, .cancel t ∉ inputs)
    (hn : (registered (chronicle inputs)).Nodup) :
    (reached inputs).InOrder (chronicle inputs) := by
  have hf := followed_reached hi hn
  have ha := answered_reached hi hn
  set r := reached inputs
  set h := chronicle inputs
  constructor
  case roster => exact ha.enlisted
  case task => exact fun t => ⟨_, (ha.asked t).symm⟩
  case refused => exact ha.refused.symm
  case connection =>
    intro c
    by_cases hc : ∃ key, r.held? key = some c
    · obtain ⟨key, hc⟩ := hc
      exact ⟨_, (ha.waiting key c hc).symm⟩
    · exact ⟨[], by rw [ha.served c (not_exists.mp hc), List.append_nil]⟩
  case closing =>
    intro es t c es' heq
    obtain ⟨hnot, hnone⟩ := (heq ▸ hf).of_closing
    have hans : answers h = answers es ++ answers es' := by
      rw [heq, answers_append]
      rfl
    rw [ha.served c hnot, hans, toward_append, hnone, List.append_nil]
  case displaced =>
    intro es e es' id c heq hc hd
    rw [heq] at hn ⊢
    exact toward_of_displaced hn hc hd
  case replaced =>
    intro es t id c es' _ u c' ha
    have hnew : ∀ c', OrderedMap.get? (Chronicle.roster (es ++ [.started t (.replace id c)])) id =
        some c' → c' ∈ [c] := by
      intro c' hc'
      simpa [roster_concat, Event.enlist, OrderedMap.get?_insert, eq_comm] using hc'
    exact mem_of_mem_applicationsFrom hnew ha

theorem accesses_in_order_relay :
    (∀ t, .cancel t ∉ relay) ∧ (registered (chronicle relay)).Nodup ∧
      (reached relay).InOrder (chronicle relay) :=
  ⟨by simp [relay], by decide, accesses_in_order (by simp [relay]) (by decide)⟩

end Registry

end Polystore
