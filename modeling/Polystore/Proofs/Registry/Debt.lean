import Polystore.Proofs.Registry.Chronicle
import Polystore.Proofs.Registry.Move

/-!
# Debts

A task that takes connections off the map owes that they are closed. It pays one after another, and
it ends when all of them are paid.

* `Stage.dues?`, `Registry.Owes`: the connections that a task has still to close, or is closing;
* `Registry.Debt`: the same for a task that may be in the middle of a step;
* `Outcome`: a task paid a part of what it owed, or all of it and ended then;
* **`keeps_outcome`**, `Sound.outcome_run`: what a task paid in a run and what it owes after the run
  is what it owed before;
* `Registry.displaced`, **`Sound.exists_retire`**: the connections that an operation takes off the
  map, and the slots that its task retires then; `Sound.outcome_start`: so the task owes them.
-/

set_option linter.unusedSectionVars false

namespace Polystore

/-- The connection that a task is closing, and the slots that it has to retire. -/
def Stage.dues? {κ : Type} : Stage κ → Option (Option κ × List SlotKey)
  | .waiting (.retire key rest) | .granted (.retire key rest) => some (none, key :: rest)
  | .closing c rest => some (some c, rest)
  | _ => none

@[simp] theorem Stage.dues?_grant {κ : Type} (s : Stage κ) : s.grant.dues? = s.dues? := by
  cases s with
  | waiting e => cases e <;> rfl
  | _ => rfl

namespace Registry

open Chronicle

variable {τ κ : Type} [DecidableEq τ] {r r' : Registry τ κ} {t u : τ} {es es' : List (Event τ κ)}
  {o o' : Option (List SlotKey)} {key : SlotKey} {keys rest owed : List SlotKey} {b : Option κ}
  {cs : List κ}

/-! ## What a task owes -/

/-- The connections that an unfinished task has to close, the one that it is closing first. -/
def Owes (r : Registry τ κ) (t : τ) (cs : List κ) : Prop :=
  ∃ b keys, r.view Stage.dues? t = some (b, keys) ∧ b.toList ++ keys.filterMap r.held? = cs

/-- The connections that a task has to close, between two steps or with the slots owed in the middle
of one. -/
def Debt (r : Registry τ κ) (o : Option (List SlotKey)) (t : τ) (cs : List κ) : Prop :=
  match o with
  | none => r.Owes t cs
  | some owed => r.stage? t = none ∧ owed.filterMap r.held? = cs

theorem duties_of_dues (h : r.view Stage.dues? t = some (b, keys)) : r.duties t = keys := by
  obtain ⟨s, hs, h⟩ := Option.bind_eq_some_iff.mp h
  rw [duties_of_stage hs]
  cases s with
  | waiting e | granted e => cases e <;> simp_all [Stage.dues?, Stage.duties]
  | closing c rest => simp_all [Stage.dues?, Stage.duties]
  | _ => simp [Stage.dues?] at h

theorem not_owes_of_absent (h : r.view Stage.dues? t = none) : ¬r.Owes t cs := by
  rintro ⟨b, keys, hd, -⟩
  simp [h] at hd

theorem Owes.congr (h : r.Owes t cs) (hv : r'.view Stage.dues? t = r.view Stage.dues? t)
    (hh : ∀ key ∈ r.duties t, r'.held? key = r.held? key) : r'.Owes t cs := by
  obtain ⟨b, keys, hd, rfl⟩ := h
  refine ⟨b, keys, hv.trans hd, ?_⟩
  rw [duties_of_dues hd] at hh
  rw [List.filterMap_congr hh]

/-! ## What becomes of a debt -/

/-- A task paid a part of what it owed, or all of it, and ended then. -/
inductive Outcome (r : Registry τ κ) (o : Option (List SlotKey)) (t : τ) (cs : List κ)
    (es : List (Event τ κ)) : Prop
  | running (cs' : List κ) : r.Debt o t cs' → closedBy t es ++ cs' = cs →
    (∀ e ∈ es, ¬e.ends t) → Outcome r o t cs es
  | paid (es₁ es₂ : List (Event τ κ)) : es = es₁ ++ .finished t false :: es₂ →
    (∀ e ∈ es₁, ¬e.ends t) → closedBy t es₁ = cs → Outcome r o t cs es

theorem closedBy_append (t : τ) (es es' : List (Event τ κ)) :
    closedBy t (es ++ es') = closedBy t es ++ closedBy t es' := by
  simp [closedBy]

/-- What is left of a debt is paid later. -/
theorem Outcome.trans {o'' : Option (List SlotKey)} (h : r.Outcome o t cs es)
    (h' : ∀ cs', r.Debt o t cs' → r'.Outcome o'' t cs' es') : r'.Outcome o'' t cs (es ++ es') := by
  cases h with
  | running cs' hd hcs hes =>
    subst hcs
    cases h' cs' hd with
    | running cs'' hd' hcs' hes' =>
      refine .running cs'' hd' (by rw [closedBy_append, List.append_assoc, hcs']) fun e he => ?_
      rcases List.mem_append.mp he with he | he
      · exact hes e he
      · exact hes' e he
    | paid es₁ es₂ heq hes' hcs' =>
      refine .paid (es ++ es₁) es₂ (by simp [heq]) (fun e he => ?_) (by rw [closedBy_append, hcs'])
      rcases List.mem_append.mp he with he | he
      · exact hes e he
      · exact hes' e he
  | paid es₁ es₂ heq hes hcs => exact .paid es₁ (es₂ ++ es') (by simp [heq]) hes hcs

/-- The first event that ends a task comes when all is paid, and it is no exception. -/
theorem Outcome.first {e : Event τ κ} (h : r.Outcome o t cs (es ++ e :: es'))
    (hes : ∀ e' ∈ es, ¬e'.ends t) (he : e.ends t) : e = .finished t false ∧ closedBy t es = cs := by
  cases h with
  | running cs' hd hcs hnone => exact absurd he (hnone e (by simp))
  | paid es₁ es₂ heq hes₁ hcs =>
    rcases List.append_eq_append_iff.mp heq with ⟨l, rfl, hl⟩ | ⟨l, rfl, hl⟩
    · cases l with
      | nil =>
        simp only [List.nil_append, List.cons.injEq] at hl
        exact ⟨hl.1, by simpa using hcs⟩
      | cons e' l =>
        simp only [List.cons_append, List.cons.injEq] at hl
        exact absurd he (hl.1 ▸ hes₁ e' (by simp))
    · cases l with
      | nil =>
        simp only [List.nil_append, List.cons.injEq] at hl
        exact ⟨hl.1.symm, by simpa using hcs⟩
      | cons e' l =>
        simp only [List.cons_append, List.cons.injEq] at hl
        exact absurd rfl (hl.1 ▸ hes e' (by simp))

/-- When a slot is emptied, those that are to be retired behind it are left alone. -/
theorem Sound.filterMap_takeOut (hs : r.Sound [])
    (ht : r.stage? t = some (.granted (.retire key rest))) (c : κ) :
    rest.filterMap (r.takeOut t key c rest).held? = rest.filterMap r.held? := by
  have hnd := hs.kept.duties_nodup t
  rw [duties_of_stage ht] at hnd
  have hnot : key ∉ rest := (List.nodup_cons.mp hnd).1
  refine List.filterMap_congr fun k hk => ?_
  have hkk : key ≠ k := fun e => hnot (e ▸ hk)
  simp [hkk]

/-- A task pays with its own moves. -/
theorem Sound.outcome_move (hs : r.Sound (o.getD [])) (m : Move t r o es r' o')
    (hd : r.Debt o t cs) : r'.Outcome o' t cs es := by
  cases m with
  | refuse ht | ask ht | register _ _ ht | unregister _ ht | unregisterAll ht =>
    exact absurd hd (not_owes_of_absent (view_of_absent ht))
  | enter ht | leave _ ht => exact absurd hd (not_owes_of_absent (view_of_stage ht))
  | @await key rest ht =>
    obtain ⟨-, rfl⟩ := hd
    refine .running _ ⟨none, key :: rest, ?_, ?_⟩ rfl (by simp)
    · rw [view_lineUp r t t Stage.dues?_grant, if_pos rfl]
      rfl
    · rw [funext (held?_lineUp r t (.retire key rest))]
      rfl
  | @close key rest c ht hc =>
    obtain ⟨b, keys, hdues, rfl⟩ := hd
    obtain ⟨rfl, rfl⟩ : none = b ∧ key :: rest = keys := by
      rw [view_of_stage ht] at hdues
      simpa [Stage.dues?] using hdues
    refine .running _ ⟨some c, rest, view_of_stage (stage?_takeOut_self ..), rfl⟩ ?_
      (by simp [Event.ends])
    rw [hs.filterMap_takeOut ht c]
    simp [closedBy, Event.closedBy?, hc]
  | @closed rest c raised ht =>
    obtain ⟨b, keys, hdues, rfl⟩ := hd
    obtain ⟨rfl, rfl⟩ : some c = b ∧ rest = keys := by
      rw [view_of_stage ht] at hdues
      simpa [Stage.dues?] using hdues
    refine .running _ ⟨by simp, rfl⟩ ?_ (by simp [Event.ends])
    simp [closedBy, Event.closedBy?, funext (held?_dropTask r t)]
  | finish =>
    obtain ⟨-, rfl⟩ := hd
    exact .paid [] [] rfl (by simp) rfl

/-- The moves of another task leave the stage of a task alone, up to a lock that it is handed. -/
theorem Move.view_of_other (m : Move u r o es r' o') (hu : u ≠ t) {β : Type}
    {f : Stage κ → Option β} (hf : ∀ s, f s.grant = f s) : r'.view f t = r.view f t := by
  cases m with
  | refuse | register | unregister | unregisterAll | finish => rfl
  | ask | await => rw [view_lineUp r u t hf, if_neg hu]
  | enter | closed => simp [hu]
  | leave => rw [view_quit r u t _ hf, if_neg hu]
  | close => rw [view_takeOut r u t _ _ _ hf, if_neg hu]

/-- The moves of another task leave the slots alone that a task has to retire. -/
theorem Sound.held?_of_other (hs : r.Sound (o.getD [])) (m : Move u r o es r' o') (hu : u ≠ t)
    (hk : key ∈ r.duties t) : r'.held? key = r.held? key := by
  cases m with
  | refuse | unregister | unregisterAll | finish => rfl
  | ask | await | enter | leave | closed => simp
  | register id c =>
    exact held?_register_of_isSome key id c hs.numbered
      ((hs.kept.held_iff key).mpr (.inr (.inr ⟨t, hk⟩)))
  | @close k rest c hst =>
    have hku : k ∈ r.duties u := by simp [duties_of_stage hst, Stage.duties]
    have hkk : k ≠ key := by
      rintro rfl
      exact hu (hs.kept.duty_unique k u t hku hk)
    simp [hkk]

/-- The moves of other tasks leave what is to be retired as it is. -/
theorem Sound.filterMap_of_other (hs : r.Sound (o.getD [])) (m : Move u r o es r' o') (hu : u ≠ t) :
    (r.duties t).filterMap r'.held? = (r.duties t).filterMap r.held? :=
  List.filterMap_congr fun _ hk => hs.held?_of_other m hu hk

/-- What a task does is seen as what it does. -/
theorem Move.not_of_other (m : Move u r o es r' o') (hu : u ≠ t) :
    ∀ e ∈ es, e.closedBy? t = none ∧ ¬e.ends t := by
  cases m <;> simp [Event.closedBy?, Event.ends, hu]

/-- A task pays with its own moves, and the moves of other tasks leave its debt alone. -/
theorem keeps_outcome : Keeps t fun r o es => r.Outcome o t cs es where
  own hs m h := h.trans fun _ hd => hs.outcome_move m hd
  other hu hs m h := h.trans fun cs' hd => by
    have hes := m.not_of_other hu
    have hnone : closedBy t _ = [] := List.filterMap_eq_nil_iff.mpr fun e he => (hes e he).1
    have howes := hd.congr (m.view_of_other hu Stage.dues?_grant) fun _ hk =>
      hs.held?_of_other m hu hk
    exact .running cs' howes (by rw [hnone, List.nil_append]) fun e he => (hes e he).2

/-! ## Steps and runs -/

/-- **What a task owes is paid or still owed after a run.** -/
theorem Sound.outcome_run (hs : r.Sound []) {inputs : List (Input τ κ)}
    (hi : ∀ t, .cancel t ∉ inputs) (hd : r.Owes t cs) :
    (r.run inputs).1.Outcome none t cs (r.run inputs).2 :=
  keeps_outcome.run hs hi (h := []) (.running cs hd rfl (by simp))

/-- The connections that an operation takes off the map, in the order in which they are closed. -/
def displaced (r : Registry τ κ) : Operation κ → List κ
  | .access _ => []
  | .replace id _ | .remove id => (r.connection? id).toList
  | .closeAll => r.ids.filterMap r.connection?

theorem filterMap_liveKey? (r : Registry τ κ) (id : String) :
    (r.liveKey? id).toList.filterMap r.held? = (r.connection? id).toList := by
  unfold connection?
  cases r.liveKey? id with
  | none => rfl
  | some key => cases hk : r.held? key <;> simp [hk]

theorem filterMap_liveKeys (hn : r.ids.Nodup) :
    r.liveKeys.filterMap r.held? = r.ids.filterMap r.connection? := by
  rw [liveKeys, ids, OrderedMap.keys, List.filterMap_map, List.filterMap_map]
  refine List.filterMap_congr fun entry hm => ?_
  have hg := (OrderedMap.get?_eq_some_iff hn entry.1 entry.2).mpr hm
  simp [connection?, liveKey?, hg]

/-- All identifiers have a connection. -/
theorem Sound.map_connection? (hs : r.Sound []) :
    r.ids.map r.connection? = (r.displaced .closeAll).map some := by
  rw [displaced, List.map_filterMap, ← List.filterMap_eq_map]
  refine List.filterMap_congr fun id hid => ?_
  obtain ⟨entry, hm, rfl⟩ := List.mem_map.mp hid
  have hlive := (OrderedMap.get?_eq_some_iff hs.kept.ids_nodup entry.1 entry.2).mpr hm
  have hkey : r.liveKey? entry.1 = some ⟨entry.1, entry.2⟩ := by simp [liveKey?, hlive]
  obtain ⟨c, -, hc⟩ := connection?_eq_some hs hkey
  rw [Function.comp_apply, hc]
  rfl

/-- An operation takes slots off the map, and what its task goes on with is to retire them. -/
theorem Sound.exists_retire (hs : r.Sound []) (ht : r.stage? t = none) {op : Operation κ}
    (hop : ∀ id, op ≠ .access id) :
    ∃ (r' : Registry τ κ) (owed : List SlotKey), r.start t op = r'.retire t owed ∧
      r'.Sound owed ∧ r'.stage? t = none ∧ owed.filterMap r'.held? = r.displaced op := by
  have hq := hs.queue_eq_nil
  cases op with
  | access id => exact absurd rfl (hop id)
  | replace id c =>
    refine ⟨_, _, start_replace hq ht id c, hs.register id c, ht, ?_⟩
    rw [displaced, ← filterMap_liveKey?]
    refine List.filterMap_congr fun key hk => ?_
    obtain hk : r.liveKey? id = some key := by simpa using hk
    exact held?_register_of_isSome key id c hs.numbered
      ((hs.kept.held_iff key).mpr (.inl (id_of_liveKey? hk ▸ hk)))
  | remove id =>
    exact ⟨_, _, start_remove hq ht id, hs.unregister id, ht, filterMap_liveKey? r id⟩
  | closeAll =>
    exact ⟨_, _, start_closeAll hq ht, hs.unregisterAll, ht, filterMap_liveKeys hs.kept.ids_nodup⟩

/-- **A task that takes connections off the map owes that they are closed.** -/
theorem Sound.outcome_start (hs : r.Sound []) (ht : r.stage? t = none) {op : Operation κ}
    (hop : ∀ id, op ≠ .access id) :
    (r.step (.start t op)).1.Outcome none t (r.displaced op) (r.step (.start t op)).2 := by
  obtain ⟨r', owed, heq, hs', ht', hcs⟩ := hs.exists_retire ht hop
  have hfirst : r'.Outcome (some owed) t (r.displaced op) [.started t op] :=
    .running _ ⟨ht', hcs⟩ rfl (by simp [Event.ends])
  have hall := keeps_outcome.course hs' (hs'.course_retire ht') hfirst
  simpa [step_start ht, heq] using hall

end Registry

end Polystore
