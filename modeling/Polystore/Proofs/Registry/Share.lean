import Polystore.Proofs.Registry.Move

/-!
# Shares of a registry

As long as nothing is closed all at once, every task works for one identifier, its *owner*. So a
registry falls apart into shares, one for each identifier: its place on the map, its slots and its
tasks.

* `OrderedMap.select`: the part of a map whose keys are of a kind;
* `Registry.concerns`, `Housed`: tasks have to do with slots of their owners only;
  **`Housed.course`**: and this stays so;
* `Registry.share`: the share of an identifier, with `share_lineUp`, `share_quit` and the like: what
  small changes do to it;
* **`Sound.share_course`**: the moves of a task leave the shares of other identifiers alone.
-/

set_option linter.unusedSectionVars false

namespace Polystore

/-! ## Parts of maps -/

namespace OrderedMap

variable {κ α : Type} [DecidableEq κ] {m : OrderedMap κ α} {key : κ}

/-- The part of a map whose keys are of a kind. -/
def select (p : κ → Prop) [DecidablePred p] (m : OrderedMap κ α) : OrderedMap κ α :=
  m.filter fun entry => p entry.1

variable (p : κ → Prop) [DecidablePred p] (m) (key) (value : α) (f : α → α)

theorem select_cons (entry : κ × α) :
    select p (entry :: m) = if p entry.1 then entry :: select p m else select p m := by
  by_cases h : p entry.1 <;> simp [select, h]

theorem get?_select : get? (select p m) key = if p key then get? m key else none := by
  induction m with
  | nil => simp [select]
  | cons entry rest ih =>
    rw [select_cons, get?_cons]
    by_cases hk : entry.1 = key
    · subst hk
      split <;> simp_all [get?_cons]
    · split <;> simp [get?_cons, hk, ih]

theorem select_insert : select p (insert m key value) =
    if p key then insert (select p m) key value else select p m := by
  induction m with
  | nil => by_cases h : p key <;> simp [select, insert, h]
  | cons entry rest ih =>
    obtain ⟨k, v⟩ := entry
    by_cases hk : k = key
    · subst hk
      by_cases h : p k <;> simp [insert, select_cons, h]
    · by_cases h : p k <;> by_cases h' : p key <;> simp_all [insert, select_cons]

theorem select_erase : select p (erase m key) =
    if p key then erase (select p m) key else select p m := by
  induction m with
  | nil => simp [select, erase]
  | cons entry rest ih =>
    obtain ⟨k, v⟩ := entry
    by_cases hk : k = key
    · subst hk
      by_cases h : p k <;> simp_all [erase, select_cons]
    · by_cases h : p k <;> by_cases h' : p key <;> simp_all [erase, select_cons]

theorem select_modify : select p (modify m key f) =
    if p key then modify (select p m) key f else select p m := by
  induction m with
  | nil => simp [select, modify]
  | cons entry rest ih =>
    have hcons : modify (entry :: rest) key f =
        (if entry.1 = key then (entry.1, f entry.2) else entry) :: modify rest key f := rfl
    rw [hcons, select_cons, ih, select_cons]
    by_cases hk : entry.1 = key
    · subst hk
      by_cases h : p entry.1 <;> simp [modify, h]
    · by_cases h : p entry.1 <;> by_cases h' : p key <;> simp [modify, hk, h, h']

end OrderedMap

/-- The identifier of an operation; closing all connections has none. -/
def Operation.id? {κ : Type} : Operation κ → Option String
  | .access id | .replace id _ | .remove id => some id
  | .closeAll => none

variable {τ κ : Type}

/-- The identifier that an event names. -/
def Event.id? : Event τ κ → Option String
  | .started _ op => op.id?
  | .refused _ id | .entered _ id _ => some id
  | _ => none

/-- The slots that a task has to do with. -/
def Stage.keys : Stage κ → List SlotKey
  | .waiting (.use key _) | .granted (.use key _) | .inside key _ => [key]
  | .waiting (.retire key rest) | .granted (.retire key rest) => key :: rest
  | .closing _ rest => rest
  | _ => []

@[simp] theorem Stage.keys_grant (s : Stage κ) : s.grant.keys = s.keys := by
  cases s with
  | waiting e => cases e <;> rfl
  | _ => rfl

namespace Registry

variable [DecidableEq τ] {r r' : Registry τ κ} {owner : τ → String} {id : String} {t u : τ}
  {o o' : Option (List SlotKey)} {owed : List SlotKey} {es : List (Event τ κ)} {e : Errand κ}
  {key : SlotKey} {rest : List SlotKey}

/-! ## Owners -/

/-- The slots that a task has to do with. -/
def concerns (r : Registry τ κ) (t : τ) : List SlotKey :=
  (r.view (fun s => some s.keys) t).getD []

theorem concerns_of_stage {s : Stage κ} (h : r.stage? t = some s) : r.concerns t = s.keys := by
  simp [concerns, view_of_stage h]

theorem concerns_setStage (r : Registry τ κ) (t u : τ) (s : Stage κ) :
    (r.setStage t s).concerns u = if t = u then s.keys else r.concerns u := by
  unfold concerns
  rw [view_setStage]
  split <;> rfl

theorem concerns_dropTask (r : Registry τ κ) (t u : τ) :
    (r.dropTask t).concerns u = if t = u then [] else r.concerns u := by
  unfold concerns
  rw [view_dropTask]
  split <;> rfl

theorem concerns_quit (r : Registry τ κ) (t u : τ) (p : Place) :
    (r.quit t p).concerns u = if t = u then [] else r.concerns u := by
  unfold concerns
  rw [view_quit r t u p (by simp)]
  split <;> rfl

theorem concerns_lineUp (r : Registry τ κ) (t u : τ) (e : Errand κ) :
    (r.lineUp t e).concerns u = if t = u then (Stage.waiting e).keys else r.concerns u := by
  unfold concerns
  rw [view_lineUp r t u (by simp)]
  split <;> rfl

/-- Tasks have to do with slots of their owners only. -/
def Housed (owner : τ → String) (r : Registry τ κ) : Prop :=
  ∀ t, ∀ key ∈ r.concerns t, key.id = owner t

theorem housed_empty : (empty : Registry τ κ).Housed owner := by
  intro t key hk
  cases hk

theorem Housed.change {keys : List SlotKey} (h : r.Housed owner)
    (hc : ∀ u, r'.concerns u = if t = u then keys else r.concerns u)
    (hk : ∀ key ∈ keys, key.id = owner t) : r'.Housed owner := by
  intro u key hu
  rw [hc] at hu
  split at hu
  · subst ‹t = u›
    exact hk key hu
  · exact h u key hu

/-- Who is in the queue of a slot works for its identifier. -/
theorem Housed.owner_eq (h : r.Housed owner) (hs : r.Sound owed)
    (hu : u ∈ r.queueAt (.slot key)) : owner u = key.id := by
  obtain ⟨s, hstage, hplace⟩ := Option.bind_eq_some_iff.mp ((hs.queued.mem_iff u _).mp hu)
  refine (h u key ?_).symm
  rw [concerns_of_stage hstage]
  cases s with
  | waiting e | granted e =>
    cases e <;> simp_all [Stage.place?, Errand.place, Stage.keys]
  | inside k c => simp_all [Stage.place?, Stage.keys]
  | _ => simp [Stage.place?] at hplace

/-- **A move keeps tasks with their owners**, if tasks are started for their owners only. -/
theorem Housed.move (h : r.Housed owner) (ho : ∀ key ∈ o.getD [], key.id = owner t)
    (hes : ∀ op, .started t op ∈ es → op.id? = some (owner t)) (m : Move t r o es r' o') :
    r'.Housed owner ∧ ∀ key ∈ o'.getD [], key.id = owner t := by
  have hlive : ∀ (op : Operation κ) {i : String}, .started t op ∈ es → op.id? = some i →
      ∀ key ∈ (r.liveKey? i).toList, key.id = owner t := by
    intro op i hmem hid key hkey
    have howner := hes op hmem
    rw [hid] at howner
    exact (id_of_liveKey? (Option.mem_toList.mp hkey)).trans (Option.some.inj howner)
  cases m with
  | refuse => exact ⟨h, ho⟩
  | @ask i key ht hk =>
    have hown := hlive (.access i) List.mem_cons_self rfl key (by simp [hk])
    refine ⟨h.change (fun u => concerns_lineUp r t u _) ?_, ho⟩
    simpa [Stage.keys] using hown
  | @enter i key c ht hc =>
    have hown := h t key (by simp [concerns_of_stage ht, Stage.keys])
    refine ⟨h.change (fun u => concerns_setStage r t u _) ?_, ho⟩
    simpa [Stage.keys] using hown
  | leave raised ht => exact ⟨h.change (fun u => concerns_quit r t u _) (by simp), ho⟩
  | register i c ht => exact ⟨h, hlive (.replace i c) List.mem_cons_self rfl⟩
  | unregister i ht => exact ⟨h, hlive (.remove i) List.mem_cons_self rfl⟩
  | unregisterAll => cases hes .closeAll List.mem_cons_self
  | await ht => exact ⟨h.change (fun u => concerns_lineUp r t u _) ho, by simp⟩
  | @close key rest c ht hc =>
    have hown := h t
    rw [concerns_of_stage ht] at hown
    have hquit : (r.quit t (.slot key)).Housed owner :=
      h.change (fun u => concerns_quit r t u _) (by simp)
    have hdrain : ((r.quit t (.slot key)).drain key).Housed owner := hquit
    refine ⟨hdrain.change (fun u => concerns_setStage _ t u _) fun k hk => ?_, ho⟩
    exact hown k (List.mem_cons_of_mem _ hk)
  | closed raised ht =>
    have hown := h t
    rw [concerns_of_stage ht] at hown
    exact ⟨h.change (fun u => concerns_dropTask r t u) (by simp), hown⟩
  | finish => exact ⟨h, by simp⟩

/-- What is seen of a task names its owner. -/
theorem Housed.named_move (h : r.Housed owner) (hs : r.Sound (o.getD []))
    (hes : ∀ op, .started t op ∈ es → op.id? = some (owner t)) (m : Move t r o es r' o') :
    ∀ e ∈ es, ∀ i, e.id? = some i → i = owner t := by
  have hstart : ∀ op i, .started t op ∈ es → op.id? = some i → i = owner t := by
    intro op i hmem hid
    exact Option.some.inj (hid.symm.trans (hes op hmem))
  cases m with
  | @refuse i =>
    have hi := hstart (.access i) i List.mem_cons_self rfl
    simp [Event.id?, Operation.id?, hi]
  | @enter i key c ht hc =>
    have hkey := (hs.served.use t key i (view_of_stage ht)).1
    have hown := h t key (by simp [concerns_of_stage ht, Stage.keys])
    simp [Event.id?, ← hown, hkey]
  | ask | register | unregister | unregisterAll =>
    simp only [List.mem_singleton, forall_eq]
    exact fun i => hstart _ i List.mem_cons_self
  | _ => simp [Event.id?]

theorem Housed.course (h : r.Housed owner) (ho : ∀ key ∈ o.getD [], key.id = owner t)
    (hes : ∀ op, .started t op ∈ es → op.id? = some (owner t)) (m : Course t r o es r' o') :
    r'.Housed owner ∧ ∀ key ∈ o'.getD [], key.id = owner t := by
  induction m with
  | done => exact ⟨h, ho⟩
  | next m _ ih =>
    obtain ⟨h', ho'⟩ := h.move ho (fun op hop => hes op (List.mem_append_left _ hop)) m
    exact ih h' ho' fun op hop => hes op (List.mem_append_right _ hop)

theorem Housed.named_course (h : r.Housed owner) (hs : r.Sound (o.getD []))
    (ho : ∀ key ∈ o.getD [], key.id = owner t)
    (hes : ∀ op, .started t op ∈ es → op.id? = some (owner t)) (m : Course t r o es r' o') :
    ∀ e ∈ es, ∀ i, e.id? = some i → i = owner t := by
  induction m with
  | done => simp
  | next m _ ih =>
    have hfirst := fun op hop => hes op (List.mem_append_left _ hop)
    obtain ⟨h', ho'⟩ := h.move ho hfirst m
    intro e he
    rcases List.mem_append.mp he with he | he
    · exact h.named_move hs hfirst m e he
    · exact ih h' (hs.move m) ho' (fun op hop => hes op (List.mem_append_right _ hop)) e he

/-! ## Shares -/

/-- The share of an identifier: its place on the map, its slots and its tasks. -/
def share (owner : τ → String) (id : String) (r : Registry τ κ) : Registry τ κ where
  live := OrderedMap.select (· = id) r.live
  queue := r.queue
  slots := OrderedMap.select (·.id = id) r.slots
  tasks := OrderedMap.select (owner · = id) r.tasks

section Reading

variable (r) (owner) (id)

theorem stage?_share (ht : owner t = id) : (r.share owner id).stage? t = r.stage? t := by
  simp [stage?, share, OrderedMap.get?_select, ht]

@[simp] theorem liveKey?_share : (r.share owner id).liveKey? id = r.liveKey? id := by
  simp [liveKey?, share, OrderedMap.get?_select]

theorem held?_share (hk : key.id = id) : (r.share owner id).held? key = r.held? key := by
  simp [held?, share, OrderedMap.get?_select, hk]

@[simp] theorem connection?_share : (r.share owner id).connection? id = r.connection? id := by
  rw [connection?, connection?, liveKey?_share]
  exact Option.bind_congr fun key hk => held?_share r owner id (id_of_liveKey? hk)

@[simp] theorem contains_share : (r.share owner id).contains id = r.contains id := by
  simp [contains, OrderedMap.contains, share, OrderedMap.get?_select]

theorem queueAt_share (hk : key.id = id) :
    (r.share owner id).queueAt (.slot key) = r.queueAt (.slot key) := by
  simp [queueAt, share, OrderedMap.get?_select, hk]

theorem isTaken_share (hk : key.id = id) :
    (r.share owner id).isTaken (.slot key) = r.isTaken (.slot key) := by
  rw [isTaken, isTaken, queueAt_share r owner id hk]

@[simp] theorem nextKey_share : (r.share owner id).nextKey id = r.nextKey id := by
  simp only [nextKey, share, OrderedMap.select, List.filter_filter]
  congr 2
  refine List.filter_congr fun entry _ => ?_
  simp

end Reading

/-! ## Shares after a change -/

section Changes

variable (r) (owner) (id) (t) (key) (s : Stage κ) (g : List τ → List τ) (i : String) (c : κ)

theorem share_setStage : (r.setStage t s).share owner id =
    if owner t = id then (r.share owner id).setStage t s else r.share owner id := by
  simp only [share, setStage, OrderedMap.select_insert]
  split <;> rfl

theorem share_dropTask : (r.dropTask t).share owner id =
    if owner t = id then (r.share owner id).dropTask t else r.share owner id := by
  simp only [share, dropTask, OrderedMap.select_erase]
  split <;> rfl

theorem share_modifySlot (f : Slot τ κ → Slot τ κ) : (r.modifySlot key f).share owner id =
    if key.id = id then (r.share owner id).modifySlot key f else r.share owner id := by
  simp only [share, modifySlot, OrderedMap.select_modify]
  split <;> rfl

theorem share_drain : (r.drain key).share owner id =
    if key.id = id then (r.share owner id).drain key else r.share owner id :=
  share_modifySlot r owner id key _

theorem share_modifyQueue : (r.modifyQueue (.slot key) g).share owner id =
    if key.id = id then (r.share owner id).modifyQueue (.slot key) g else r.share owner id :=
  share_modifySlot r owner id key _

theorem share_register : (r.register i c).share owner id =
    if i = id then (r.share owner id).register i c else r.share owner id := by
  have hslots : OrderedMap.select (·.id = id) (r.slots ++ [(r.nextKey i, ⟨some c, []⟩)]) =
      OrderedMap.select (·.id = id) r.slots ++ if i = id then [(r.nextKey i, ⟨some c, []⟩)] else []
      := by
    rw [OrderedMap.select, List.filter_append]
    by_cases h : i = id <;> simp [h, OrderedMap.select, nextKey]
  by_cases h : i = id
  · subst h
    have hnext := nextKey_share r owner i
    rw [if_pos rfl] at hslots ⊢
    simp only [register, hnext]
    simp only [share, OrderedMap.select_insert, hslots, if_true]
  · rw [if_neg h] at hslots ⊢
    simp only [register, share, OrderedMap.select_insert, hslots, h, if_false, List.append_nil]

theorem share_unregister : (r.unregister i).share owner id =
    if i = id then (r.share owner id).unregister i else r.share owner id := by
  simp only [share, unregister, OrderedMap.select_erase]
  split <;> rfl

theorem share_grant : (r.grant t).share owner id =
    if owner t = id then (r.share owner id).grant t else r.share owner id := by
  by_cases ht : owner t = id
  · rw [if_pos ht, grant, grant, stage?_share r owner id ht]
    cases r.stage? t with
    | none => rfl
    | some s => exact (share_setStage r owner id t _).trans (if_pos ht)
  · rw [if_neg ht, grant]
    cases r.stage? t with
    | none => rfl
    | some s => exact (share_setStage r owner id t _).trans (if_neg ht)

variable {r owner t key}

/-- A slot that is given up is handed on in the share that it belongs to. -/
theorem share_quit (ht : owner t = key.id) (hq : ∀ u ∈ r.queueAt (.slot key), owner u = key.id) :
    (r.quit t (.slot key)).share owner id =
      if key.id = id then (r.share owner id).quit t (.slot key) else r.share owner id := by
  rw [quit, share_dropTask, ht]
  by_cases hk : key.id = id
  · rw [if_pos hk, if_pos hk, quit, release, release, queueAt_share r owner id hk]
    cases hnext : (r.queueAt (.slot key))[1]? with
    | none => simp [share_modifyQueue, hk]
    | some u =>
      have hu := hq u (List.mem_of_getElem? hnext)
      simp [share_grant, share_modifyQueue, hu, hk]
  · rw [if_neg hk, if_neg hk, release]
    cases hnext : (r.queueAt (.slot key))[1]? with
    | none => simp [share_modifyQueue, hk]
    | some u =>
      have hu := hq u (List.mem_of_getElem? hnext)
      simp [share_grant, share_modifyQueue, hu, hk]

theorem share_lineUp (ht : owner t = key.id) (he : e.place = .slot key) :
    (r.lineUp t e).share owner id =
      if key.id = id then (r.share owner id).lineUp t e else r.share owner id := by
  rw [lineUp, share_setStage, ht, he, share_modifyQueue]
  by_cases hk : key.id = id
  · simp only [hk, if_true, lineUp, he, isTaken_share r owner id hk]
  · simp only [hk, if_false]

theorem share_takeOut (ht : owner t = key.id)
    (hq : ∀ u ∈ r.queueAt (.slot key), owner u = key.id) :
    (r.takeOut t key c rest).share owner id =
      if key.id = id then (r.share owner id).takeOut t key c rest else r.share owner id := by
  rw [takeOut, share_setStage, share_drain, share_quit id ht hq, ht]
  split <;> rfl

end Changes

/-! ## Moves of other tasks -/

/-- A move leaves the shares alone that are not of its owner. -/
theorem Sound.share_move (hs : r.Sound (o.getD [])) (h : r.Housed owner)
    (ho : ∀ key ∈ o.getD [], key.id = owner t)
    (hes : ∀ op, .started t op ∈ es → op.id? = some (owner t)) (hne : owner t ≠ id)
    (m : Move t r o es r' o') : r'.share owner id = r.share owner id := by
  have hown : ∀ (op : Operation κ) {i : String}, .started t op ∈ es → op.id? = some i →
      i = owner t := by
    intro op i hmem hid
    have howner := hes op hmem
    rw [hid] at howner
    exact Option.some.inj howner
  cases m with
  | refuse => rfl
  | @ask i key ht hk =>
    have hkey : owner t = key.id :=
      ((id_of_liveKey? hk).trans (hown (.access i) List.mem_cons_self rfl)).symm
    rw [share_lineUp id hkey rfl, if_neg (hkey ▸ hne)]
  | enter => rw [share_setStage, if_neg hne]
  | @leave key c raised ht =>
    have hkey : owner t = key.id := (h t key (by simp [concerns_of_stage ht, Stage.keys])).symm
    rw [share_quit id hkey fun u => h.owner_eq hs, if_neg (hkey ▸ hne)]
  | register i c ht =>
    rw [share_register, if_neg]
    exact hown (.replace i c) List.mem_cons_self rfl ▸ hne
  | unregister i ht =>
    rw [share_unregister, if_neg]
    exact hown (.remove i) List.mem_cons_self rfl ▸ hne
  | unregisterAll => cases hes .closeAll List.mem_cons_self
  | @await key rest ht =>
    have hkey : owner t = key.id := (ho key List.mem_cons_self).symm
    rw [share_lineUp id hkey rfl, if_neg (hkey ▸ hne)]
  | @close key rest c ht hc =>
    have hkey : owner t = key.id := (h t key (by simp [concerns_of_stage ht, Stage.keys])).symm
    rw [share_takeOut id c hkey fun u => h.owner_eq hs, if_neg (hkey ▸ hne)]
  | closed => rw [share_dropTask, if_neg hne]
  | finish => rfl

/-- **The moves of a task leave the shares of other identifiers alone.** -/
theorem Sound.share_course (hs : r.Sound (o.getD [])) (h : r.Housed owner)
    (ho : ∀ key ∈ o.getD [], key.id = owner t)
    (hes : ∀ op, .started t op ∈ es → op.id? = some (owner t)) (hne : owner t ≠ id)
    (m : Course t r o es r' o') : r'.share owner id = r.share owner id := by
  induction m with
  | done => rfl
  | next m _ ih =>
    have hfirst := fun op hop => hes op (List.mem_append_left _ hop)
    obtain ⟨h', ho'⟩ := h.move ho hfirst m
    rw [ih (hs.move m) h' ho' fun op hop => hes op (List.mem_append_right _ hop)]
    exact hs.share_move h ho hfirst hne m

end Registry

end Polystore
