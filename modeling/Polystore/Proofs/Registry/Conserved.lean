import Polystore.Proofs.Registry.Debt
import Polystore.Proofs.Registry.Followed

/-!
# No connection is lost

Every connection that was registered is somewhere: on the map, with the one task that has to close
it, or closed.

* `Whereabouts`, `Registry.IsAt`: where a connection can be;
* `Conserved`: what holds of a run; `connections_conserved`.
-/

set_option linter.unusedSectionVars false

namespace Polystore

namespace Registry

open Chronicle

variable {τ κ : Type} [DecidableEq τ] [DecidableEq κ] {r : Registry τ κ} {h : List (Event τ κ)}
  {t u : τ} {key : SlotKey} {id : String} {c : κ}

/-! ## Whereabouts -/

/-- Where a registered connection can be. -/
inductive Whereabouts (τ : Type)
  | live (id : String)
  | detached (task : τ)
  | retired
deriving DecidableEq, Repr

/-- The connections that a task has to call `close` on. -/
def promised (r : Registry τ κ) (t : τ) : List κ := (r.duties t).filterMap r.held?

/-- A connection is on the map under an identifier, or a task took it off the map and has to call
`close`, or `close` was called once. -/
def IsAt (r : Registry τ κ) (h : List (Event τ κ)) (c : κ) : Whereabouts τ → Prop
  | .live id => r.connection? id = some c ∧ closings c h = 0
  | .detached t => c ∈ r.promised t ∧ closings c h = 0 ∧ ∀ id, r.connection? id ≠ some c
  | .retired =>
    closings c h = 1 ∧ (∀ id, r.connection? id ≠ some c) ∧ ∀ t, c ∉ r.promised t

theorem exists_held_of_connection? (hc : r.connection? id = some c) :
    ∃ key, r.held? key = some c ∧ r.liveKey? id = some key := by
  obtain ⟨key, hk, hc⟩ := Option.bind_eq_some_iff.mp hc
  exact ⟨key, hc, hk⟩

/-- Nothing is in two places. -/
theorem Followed.isAt_unique (hf : r.Followed h) (hs : r.Sound []) {w w' : Whereabouts τ}
    (hw : r.IsAt h c w) (hw' : r.IsAt h c w') : w = w' := by
  cases w with
  | live id =>
    cases w' with
    | live id' =>
      obtain ⟨key, hk, hl⟩ := exists_held_of_connection? hw.1
      obtain ⟨key', hk', hl'⟩ := exists_held_of_connection? hw'.1
      obtain rfl := hf.single key key' c hk hk'
      rw [← id_of_liveKey? hl, ← id_of_liveKey? hl']
    | detached t => exact absurd hw.1 (hw'.2.2 id)
    | retired => exact absurd hw.1 (hw'.2.1 id)
  | detached t =>
    cases w' with
    | live id => exact absurd hw'.1 (hw.2.2 id)
    | detached u =>
      obtain ⟨key, hd, hk⟩ := List.mem_filterMap.mp hw.1
      obtain ⟨key', hd', hk'⟩ := List.mem_filterMap.mp hw'.1
      obtain rfl := hf.single key key' c hk hk'
      rw [hs.kept.duty_unique key t u hd hd']
    | retired => exact absurd hw.1 (hw'.2.2 t)
  | retired =>
    cases w' with
    | live id => exact absurd hw'.1 (hw.2.1 id)
    | detached t => exact absurd hw'.1 (hw.2.2 t)
    | retired => rfl

/-- A connection in a slot is on the map or promised to be closed, and not both. -/
theorem Followed.exists_isAt_of_held (hf : r.Followed h) (hs : r.Sound [])
    (hk : r.held? key = some c) (hz : closings c h = 0) : ∃ w, r.IsAt h c w := by
  rcases (hs.kept.held_iff key).mp (by simp [hk]) with hl | hl | ⟨t, ht⟩
  · exact ⟨.live key.id, by simp [connection?, hl, hk], hz⟩
  · simp at hl
  · refine ⟨.detached t, List.mem_filterMap.mpr ⟨key, ht, hk⟩, hz, fun id hid => ?_⟩
    obtain ⟨key', hk', hl'⟩ := exists_held_of_connection? hid
    obtain rfl := hf.single key key' c hk hk'
    exact hs.kept.not_live_of_duty t key ht (id_of_liveKey? hl' ▸ hl')

theorem Followed.exists_isAt (hf : r.Followed h) (hs : r.Sound []) (hm : c ∈ registered h) :
    ∃ w, r.IsAt h c w := by
  obtain ⟨p, hp⟩ := exists_stands r c
  have hphase := hf.phase c hm p hp
  have hcl := closings_of_phase hphase
  have hretired : p.closings = 1 → (∀ key, r.held? key ≠ some c) → ∃ w, r.IsAt h c w := by
    intro hone hnot
    refine ⟨.retired, hcl.trans hone, fun id hid => ?_, fun t ht => ?_⟩
    · obtain ⟨key, hk, -⟩ := exists_held_of_connection? hid
      exact hnot key hk
    · obtain ⟨key, -, hk⟩ := List.mem_filterMap.mp ht
      exact hnot key hk
  cases hp with
  | free key hk => exact hf.exists_isAt_of_held hs hk hcl
  | used t key hu => exact hf.exists_isAt_of_held hs (hs.served.inside t key c hu) hcl
  | closing t rest => exact hretired rfl (hf.not_held hm hphase (by simp) (by simp))
  | closed hnot => exact hretired rfl hnot

/-! ## Runs -/

/-- What holds of connections in a run. -/
structure Conserved (inputs : List (Input τ κ)) : Prop where
  /-- Every connection that was registered is in one place. -/
  whereabouts : ∀ c ∈ registered (chronicle inputs),
    ∃! w, (reached inputs).IsAt (chronicle inputs) c w
  /-- A task that takes connections off the map ends when its calls of `close` came back for all of
  them, and it ends in the regular way. -/
  settled : ∀ is t op is', inputs = is ++ .start t op :: is' →
    (reached is).stage? t = none → (∀ id, op ≠ .access id) →
      ∀ es e es', ((reached is).run (.start t op :: is')).2 = es ++ e :: es' →
        (∀ e' ∈ es, ¬e'.ends t) → e.ends t →
          e = .finished t false ∧ closedBy t es = (reached is).displaced op
  /-- When all tasks have ended, every connection that was registered is on the map, or it was
  closed once. -/
  ended : (reached inputs).tasks = [] → ∀ c ∈ registered (chronicle inputs),
    (∃ id, (reached inputs).connection? id = some c ∧ closings c (chronicle inputs) = 0) ∨
      (closings c (chronicle inputs) = 1 ∧ ∃ t raised, .closed t c raised ∈ chronicle inputs)

/-- **No connection is lost and none is closed twice**, in every run that registers no connection
twice. -/
theorem connections_conserved {inputs : List (Input τ κ)} (hi : ∀ t, .cancel t ∉ inputs)
    (hn : (registered (chronicle inputs)).Nodup) : Conserved inputs := by
  have hf := followed_reached hi hn
  have hs := sound_reached hi
  constructor
  case whereabouts =>
    intro c hm
    obtain ⟨w, hw⟩ := hf.exists_isAt hs hm
    exact ⟨w, hw, fun w' hw' => hf.isAt_unique hs hw' hw⟩
  case settled =>
    intro is t op is' heq ht hop es e es' hes hnone he
    subst heq
    have hbefore : (reached is).Sound [] :=
      sound_reached fun u hu => hi u (List.mem_append_left _ hu)
    have hafter : ∀ u, .cancel u ∉ is' := fun u hu =>
      hi u (List.mem_append_right _ (List.mem_cons_of_mem _ hu))
    have hout := (hbefore.outcome_start ht hop).trans fun cs' hd =>
      (hbefore.step (by simp)).outcome_run hafter hd
    simp only [Registry.run] at hes
    rw [hes] at hout
    exact hout.first hnone he
  case ended =>
    intro htasks c hm
    have habsent : ∀ t, (reached inputs).stage? t = none := fun t => by simp [stage?, htasks]
    obtain ⟨w, hw⟩ := hf.exists_isAt hs hm
    cases w with
    | live id => exact .inl ⟨id, hw⟩
    | detached t =>
      obtain ⟨key, hk, -⟩ := List.mem_filterMap.mp hw.1
      simp [duties_of_absent (habsent t)] at hk
    | retired =>
      obtain ⟨p, hp⟩ := exists_stands (reached inputs) c
      have hphase := hf.phase c hm p hp
      have hone := (closings_of_phase hphase).symm.trans hw.1
      refine .inr ⟨hw.1, exists_closed ?_⟩
      cases hp with
      | closed => exact hphase
      | closing t rest hcl => simp [view_of_absent (habsent t)] at hcl
      | _ => simp [Phase.closings] at hone

theorem connections_conserved_relay :
    (∀ t, .cancel t ∉ relay) ∧ (registered (chronicle relay)).Nodup ∧
      Conserved relay ∧ (reached relay).tasks = [] ∧
        (reached (relay.take 3)).displaced (.replace "a" 11) = [10] :=
  ⟨by simp [relay], by decide, connections_conserved (by simp [relay]) (by decide), by decide,
    by decide⟩

end Registry

end Polystore
