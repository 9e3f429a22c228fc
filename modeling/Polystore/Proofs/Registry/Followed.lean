import Polystore.Proofs.Registry.Chronicle
import Polystore.Proofs.Registry.Move

/-!
# Where connections stand

The chronicle of a run says where each connection is, if no connection is registered twice.

* `Stands`: where a connection stands, as the registry shows it: in a slot, used by a task in the
  slot, being closed by a task, or nowhere;
* `Followed`: the history of each connection leaves it where it stands;
* `Followed.act`: one more event in the history of one connection;
* **`Followed.move`**, **`Followed.run`**: moves and runs keep histories and registry in agreement.
-/

set_option linter.unusedSectionVars false

namespace Polystore

namespace Registry

open Chronicle

variable {τ κ : Type} [DecidableEq τ] [DecidableEq κ] {r r' : Registry τ κ}
  {h es : List (Event τ κ)} {t : τ} {key : SlotKey} {rest owed : List SlotKey}
  {o o' : Option (List SlotKey)} {id : String} {c c' : κ} {p q : Phase τ}

/-! ## Standing -/

/-- Where a connection stands, as the registry shows it. -/
inductive Stands (r : Registry τ κ) (c : κ) : Phase τ → Prop
  | free (key : SlotKey) : r.held? key = some c →
    (∀ t, r.view Stage.inside? t ≠ some (key, c)) → Stands r c .free
  | used (t : τ) (key : SlotKey) : r.view Stage.inside? t = some (key, c) → Stands r c (.used t)
  | closing (t : τ) (rest : List SlotKey) : r.view Stage.closing? t = some (c, rest) →
    Stands r c (.closing t)
  | closed : (∀ key, r.held? key ≠ some c) →
    (∀ t rest, r.view Stage.closing? t ≠ some (c, rest)) → Stands r c .closed

theorem stands_of_held (hk : r.held? key = some c) :
    r.Stands c .free ∨ ∃ t, r.Stands c (.used t) := by
  by_cases hu : ∃ t, r.view Stage.inside? t = some (key, c)
  · obtain ⟨t, hu⟩ := hu
    exact .inr ⟨t, .used t key hu⟩
  · exact .inl (.free key hk (not_exists.mp hu))

theorem exists_stands (r : Registry τ κ) (c : κ) : ∃ p, r.Stands c p := by
  by_cases hk : ∃ key, r.held? key = some c
  · obtain ⟨key, hk⟩ := hk
    rcases stands_of_held hk with hfree | ⟨t, hused⟩
    · exact ⟨_, hfree⟩
    · exact ⟨_, hused⟩
  · by_cases hc : ∃ t rest, r.view Stage.closing? t = some (c, rest)
    · obtain ⟨t, rest, hc⟩ := hc
      exact ⟨_, .closing t rest hc⟩
    · exact ⟨_, .closed (not_exists.mp hk) fun t rest e => hc ⟨t, rest, e⟩⟩

theorem Stands.congr (hs : r'.Stands c p)
    (hh : ∀ key, r'.held? key = some c ↔ r.held? key = some c)
    (hi : ∀ t key, r'.view Stage.inside? t = some (key, c) ↔
      r.view Stage.inside? t = some (key, c))
    (hc : ∀ t rest, r'.view Stage.closing? t = some (c, rest) ↔
      r.view Stage.closing? t = some (c, rest)) : r.Stands c p := by
  cases hs with
  | free key hk hu => exact .free key ((hh key).mp hk) fun t e => hu t ((hi t key).mpr e)
  | used t key hu => exact .used t key ((hi t key).mp hu)
  | closing t rest hcl => exact .closing t rest ((hc t rest).mp hcl)
  | closed hk hcl =>
    exact .closed (fun key e => hk key ((hh key).mpr e))
      fun t rest e => hcl t rest ((hc t rest).mpr e)

/-! ## Histories that are followed -/

/-- The history of each connection leaves it where it stands. -/
structure Followed (r : Registry τ κ) (h : List (Event τ κ)) : Prop where
  known : ∀ key c, r.held? key = some c → c ∈ registered h
  known_closing : ∀ t c rest, r.view Stage.closing? t = some (c, rest) → c ∈ registered h
  single : ∀ key k c, r.held? key = some c → r.held? k = some c → key = k
  phase : ∀ c ∈ registered h, ∀ p, r.Stands c p → phase? c h = some p
  unknown : ∀ c, c ∉ registered h → historyOf c h = []

theorem followed_empty : (empty : Registry τ κ).Followed [] := by
  have hh : ∀ key, (empty : Registry τ κ).held? key = none := fun _ => rfl
  have hv : ∀ {β : Type} (f : Stage κ → Option β) (t : τ), (empty : Registry τ κ).view f t = none :=
    fun _ _ => rfl
  constructor <;> simp [hh, hv, registered, historyOf]

theorem Followed.stands_unique (hf : r.Followed h) (hc : c ∈ registered h) (hp : r.Stands c p)
    (hq : r.Stands c q) : p = q :=
  Option.some.inj ((hf.phase c hc p hp).symm.trans (hf.phase c hc q hq))

/-- A connection that is being closed, or was closed, is in no slot. -/
theorem Followed.not_held (hf : r.Followed h) (hm : c ∈ registered h)
    (hp : phase? c h = some p) (hfree : p ≠ .free) (hused : ∀ t, p ≠ .used t) (key : SlotKey) :
    r.held? key ≠ some c := by
  intro hk
  rcases stands_of_held hk with hs | ⟨t, hs⟩
  · exact hfree (Option.some.inj (hp.symm.trans (hf.phase c hm _ hs)))
  · exact hused t (Option.some.inj (hp.symm.trans (hf.phase c hm _ hs)))

/-- Events that are about no connection and register none. -/
theorem Followed.congr (hf : r.Followed h) (hh : ∀ key, r'.held? key = r.held? key)
    (hi : ∀ t, r'.view Stage.inside? t = r.view Stage.inside? t)
    (hc : ∀ t, r'.view Stage.closing? t = r.view Stage.closing? t)
    (hes : ∀ e ∈ es, e.connection? = none ∧ e.registered? = none) : r'.Followed (h ++ es) := by
  have hreg : registered (h ++ es) = registered h := by
    have : es.filterMap Event.registered? = [] :=
      List.filterMap_eq_nil_iff.mpr fun e he => (hes e he).2
    simp [registered, this]
  have hhist : ∀ c, historyOf c (h ++ es) = historyOf c h := by
    intro c
    have : es.filter (fun e => e.connection? = some c) = [] :=
      List.filter_eq_nil_iff.mpr fun e he => by simp [(hes e he).1]
    simp [historyOf, this]
  have hp : ∀ c, phase? c (h ++ es) = phase? c h := fun c => by unfold phase?; rw [hhist]
  constructor
  case known => simpa only [hh, hreg] using hf.known
  case known_closing => simpa only [hc, hreg] using hf.known_closing
  case single => simpa only [hh] using hf.single
  case phase =>
    intro c hm p hs
    rw [hp]
    exact hf.phase c (hreg ▸ hm) p (hs.congr (by simp [hh]) (by simp [hi]) (by simp [hc]))
  case unknown => simpa only [hreg, hhist] using hf.unknown

/-- An event takes one connection from where it stands to where it stands then. -/
theorem Followed.act (hf : r.Followed h) {e : Event τ κ} (he : e.connection? = some c)
    (hreg : e.registered? = none) (hm : c ∈ registered h) (hp : r.Stands c p)
    (hpq : p.next e = some q) (hself : ∀ q', r'.Stands c q' → q' = q)
    (hheld : ∀ key c', r'.held? key = some c' → r.held? key = some c')
    (hh : ∀ c', c ≠ c' → ∀ key, r'.held? key = some c' ↔ r.held? key = some c')
    (hi : ∀ c', c ≠ c' → ∀ t key, r'.view Stage.inside? t = some (key, c') ↔
      r.view Stage.inside? t = some (key, c'))
    (hc : ∀ c', c ≠ c' → ∀ t rest, r'.view Stage.closing? t = some (c', rest) ↔
      r.view Stage.closing? t = some (c', rest)) : r'.Followed (h ++ [e]) := by
  have hreg : registered (h ++ [e]) = registered h := by simp [registered, hreg]
  constructor
  case known => exact fun key c' hk => hreg ▸ hf.known key c' (hheld key c' hk)
  case known_closing =>
    intro t c' rest ht
    rw [hreg]
    by_cases hcc : c = c'
    · exact hcc ▸ hm
    · exact hf.known_closing t c' rest ((hc c' hcc t rest).mp ht)
  case single =>
    exact fun key k c' hk hk' => hf.single key k c' (hheld key c' hk) (hheld k c' hk')
  case phase =>
    intro c' hm' q' hs
    rw [phase?_concat, he]
    by_cases hcc : c = c'
    · subst hcc
      rw [hself q' hs, if_pos rfl, hf.phase c hm p hp]
      exact hpq
    · rw [if_neg (by simpa using hcc)]
      exact hf.phase c' (hreg ▸ hm') q' (hs.congr (hh c' hcc) (hi c' hcc) (hc c' hcc))
  case unknown =>
    intro c' hm'
    rw [hreg] at hm'
    have hcc : c ≠ c' := fun e => hm' (e ▸ hm)
    simp [historyOf_concat, he, hcc, hf.unknown c' hm']

/-! ## Moves -/

/-- Nobody is in a block with a slot that another task has. -/
theorem Sound.not_inside (hs : r.Sound owed) (ht : r.view Stage.lock? t = some (.slot key))
    (hn : r.view Stage.inside? t = none) (u : τ) (c : κ) :
    r.view Stage.inside? u ≠ some (key, c) := by
  intro hu
  have hlock : r.view Stage.lock? u = some (.slot key) := view_of_stage (inside?_eq_some.mp hu)
  have htu : some t = some u :=
    ((hs.queued.lock_iff t _).mp ht).symm.trans ((hs.queued.lock_iff u _).mp hlock)
  simp [← Option.some.inj htu, hn] at hu

theorem Followed.enter (hf : r.Followed h) (hs : r.Sound [])
    (ht : r.stage? t = some (.granted (.use key id))) (hc : r.held? key = some c) :
    (r.setStage t (.inside key c)).Followed (h ++ [.entered t id c]) := by
  have hin : r.view Stage.inside? t = none := view_of_stage ht
  have hcl : r.view Stage.closing? t = none := view_of_stage ht
  have hfree : r.Stands c .free := .free key hc fun u => hs.not_inside (view_of_stage ht) hin u c
  have hm := hf.known key c hc
  refine hf.act rfl rfl hm hfree rfl (fun q hq => ?_) (fun _ _ hk => hk) (fun _ _ _ => Iff.rfl)
    (fun c' hcc u k => ?_) (fun c' hcc u rest => ?_)
  · cases hq with
    | free k hk hu =>
      obtain rfl := hf.single k key c hk hc
      exact absurd (by simp [Stage.inside?]) (hu t)
    | used u k hu =>
      rw [view_setStage] at hu
      split at hu
      · rw [‹t = u›]
      · cases hf.stands_unique hm hfree (.used u k hu)
    | closing u rest hu =>
      rw [view_setStage] at hu
      split at hu
      · simp [Stage.closing?] at hu
      · cases hf.stands_unique hm hfree (.closing u rest hu)
    | closed hk => exact absurd hc (hk key)
  · exact view_iff_of_self (view_setStage ..) (by simp [hin]) (by simp [Stage.inside?, hcc])
  · exact view_iff_of_self (view_setStage ..) (by simp [hcl]) (by simp [Stage.closing?])

theorem Followed.leave (hf : r.Followed h) (hs : r.Sound [])
    (ht : r.stage? t = some (.inside key c)) (raised : Bool) :
    (r.quit t (.slot key)).Followed (h ++ [.left t c raised]) := by
  have hin : r.view Stage.inside? t = some (key, c) := view_of_stage ht
  have hcl : r.view Stage.closing? t = none := view_of_stage ht
  have hvin := fun u => view_quit r t u (.slot key) Stage.inside?_grant
  have hvcl := fun u => view_quit r t u (.slot key) Stage.closing?_grant
  have hc := hs.served.inside t key c hin
  have hused : r.Stands c (.used t) := .used t key hin
  have hm := hf.known key c hc
  refine hf.act rfl rfl hm hused (if_pos rfl) (fun q hq => ?_) (by simp) (by simp)
    (fun c' hcc u k => ?_) (fun c' hcc u rest => ?_)
  · cases hq with
    | free => rfl
    | used u k hu =>
      rw [hvin] at hu
      split at hu
      · simp at hu
      · cases hf.stands_unique hm hused (.used u k hu)
        simp at *
    | closing u rest hu =>
      rw [hvcl] at hu
      split at hu
      · simp at hu
      · cases hf.stands_unique hm hused (.closing u rest hu)
    | closed hk => exact absurd (by simpa using hc) (hk key)
  · exact view_iff_of_self (hvin u) (by simp [hin, hcc]) (by simp)
  · exact view_iff_of_self (hvcl u) (by simp [hcl]) (by simp)

theorem Followed.takeOut (hf : r.Followed h) (hs : r.Sound [])
    (ht : r.stage? t = some (.granted (.retire key rest))) (hc : r.held? key = some c) :
    (r.takeOut t key c rest).Followed (h ++ [.closing t c]) := by
  have hin : r.view Stage.inside? t = none := view_of_stage ht
  have hcl : r.view Stage.closing? t = none := view_of_stage ht
  have hvin := fun u => view_takeOut r t u key c rest Stage.inside?_grant
  have hvcl := fun u => view_takeOut r t u key c rest Stage.closing?_grant
  have hfree : r.Stands c .free := .free key hc fun u => hs.not_inside (view_of_stage ht) hin u c
  have hm := hf.known key c hc
  refine hf.act rfl rfl hm hfree rfl (fun q hq => ?_) (fun k c' hk => ?_) (fun c' hcc k => ?_)
    (fun c' hcc u k => ?_) (fun c' hcc u rest' => ?_)
  · cases hq with
    | free k hk =>
      rw [held?_takeOut] at hk
      split at hk
      · simp at hk
      · exact absurd (hf.single key k c hc hk) ‹_›
    | used u k hu =>
      rw [hvin] at hu
      split at hu
      · simp [Stage.inside?] at hu
      · cases hf.stands_unique hm hfree (.used u k hu)
    | closing u rest' hu =>
      rw [hvcl] at hu
      split at hu
      · rw [‹t = u›]
      · cases hf.stands_unique hm hfree (.closing u rest' hu)
    | closed hk hu => exact absurd (view_of_stage (stage?_takeOut_self ..)) (hu t rest)
  · rw [held?_takeOut] at hk
    split at hk
    · simp at hk
    · exact hk
  · rw [held?_takeOut]
    split
    · subst ‹key = k›
      simp [hc, hcc]
    · rfl
  · exact view_iff_of_self (hvin u) (by simp [hin]) (by simp [Stage.inside?])
  · exact view_iff_of_self (hvcl u) (by simp [hcl]) (by simp [Stage.closing?, hcc])

theorem Followed.closed (hf : r.Followed h) (ht : r.stage? t = some (.closing c rest))
    (raised : Bool) : (r.dropTask t).Followed (h ++ [.closed t c raised]) := by
  have hin : r.view Stage.inside? t = none := view_of_stage ht
  have hcl : r.view Stage.closing? t = some (c, rest) := view_of_stage ht
  have hclosing : r.Stands c (.closing t) := .closing t rest hcl
  have hm := hf.known_closing t c rest hcl
  refine hf.act rfl rfl hm hclosing (if_pos rfl) (fun q hq => ?_) (fun _ _ hk => hk)
    (fun _ _ _ => Iff.rfl) (fun c' hcc u k => ?_) (fun c' hcc u rest' => ?_)
  · cases hq with
    | free k hk hu =>
      refine absurd (hf.stands_unique hm hclosing (.free k hk fun u e => hu u ?_)) (by simp)
      rw [view_dropTask, if_neg (fun e' => by simp [e', e] at hin), e]
    | used u k hu =>
      rw [view_dropTask] at hu
      split at hu
      · simp at hu
      · cases hf.stands_unique hm hclosing (.used u k hu)
    | closing u rest' hu =>
      rw [view_dropTask] at hu
      split at hu
      · simp at hu
      · cases hf.stands_unique hm hclosing (.closing u rest' hu)
        simp at *
    | closed => rfl
  · exact view_iff_of_self (view_dropTask ..) (by simp [hin]) (by simp)
  · exact view_iff_of_self (view_dropTask ..) (by simp [hcl, hcc]) (by simp)

/-- A connection that was not registered before is free. -/
theorem Followed.register (hf : r.Followed h) (hs : r.Sound []) (t : τ) (id : String)
    (hc : c ∉ registered h) : (r.register id c).Followed (h ++ [.started t (.replace id c)]) := by
  have hreg : registered (h ++ [.started t (.replace id c)]) = registered h ++ [c] := by
    simp [registered, Event.registered?]
  have hhist : ∀ c', historyOf c' (h ++ [.started t (.replace id c)]) = historyOf c' h := by
    simp [historyOf_concat, Event.connection?]
  have hheld := fun k => held?_register k id c hs.numbered
  have hnot : ∀ k, r.held? k ≠ some c := fun k hk => hc (hf.known k c hk)
  constructor
  case known =>
    intro k c' hk
    rw [hheld] at hk
    rw [hreg]
    split at hk
    · simp [Option.some.inj hk]
    · exact List.mem_append_left _ (hf.known k c' hk)
  case known_closing =>
    intro u c' rest hu
    rw [hreg]
    exact List.mem_append_left _ (hf.known_closing u c' rest hu)
  case single =>
    intro k k' c' hk hk'
    rw [hheld] at hk hk'
    split at hk <;> split at hk'
    · simp_all
    · exact absurd (hk'.trans hk.symm) (hnot k')
    · exact absurd (hk.trans hk'.symm) (hnot k)
    · exact hf.single k k' c' hk hk'
  case phase =>
    intro c' hm p hp
    have hphase : phase? c' (h ++ [.started t (.replace id c)]) = phase? c' h := by
      unfold phase?
      rw [hhist]
    rw [hphase]
    by_cases hcc : c = c'
    · subst hcc
      have hfree : phase? c h = some .free := by simp [phase?, hf.unknown c hc]
      rw [hfree]
      cases hp with
      | free => rfl
      | used u k hu => exact absurd (hs.served.inside u k c hu) (hnot k)
      | closing u rest hu => exact absurd (hf.known_closing u c rest hu) hc
      | closed hk => exact (hk (r.nextKey id) (by simp [hheld])).elim
    · have hm' : c' ∈ registered h := by simpa [hreg, Ne.symm hcc] using hm
      refine hf.phase c' hm' p (hp.congr (fun k => ?_) (fun _ _ => Iff.rfl) (fun _ _ => Iff.rfl))
      rw [hheld]
      split
      · simp [← ‹r.nextKey id = k›, hs.numbered.held?_nextKey, hcc]
      · rfl
  case unknown =>
    intro c' hm
    rw [hhist]
    exact hf.unknown c' fun e => hm (by simp [hreg, e])

theorem Followed.move (hf : r.Followed h) (hs : r.Sound (o.getD [])) (m : Move t r o es r' o')
    (hn : (registered (h ++ es)).Nodup) : r'.Followed (h ++ es) := by
  cases m with
  | refuse | unregister | unregisterAll | finish =>
    exact hf.congr (fun _ => rfl) (fun _ => rfl) (fun _ => rfl)
      (by simp [Event.connection?, Event.registered?])
  | ask ht hk =>
    exact hf.congr (by simp) (fun u => view_lineUp_of_absent ht Stage.inside?_grant rfl)
      (fun u => view_lineUp_of_absent ht Stage.closing?_grant rfl)
      (by simp [Event.connection?, Event.registered?])
  | await ht =>
    exact hf.congr (by simp) (fun u => view_lineUp_of_absent ht Stage.inside?_grant rfl)
      (fun u => view_lineUp_of_absent ht Stage.closing?_grant rfl) (by simp)
  | enter ht hc => exact hf.enter hs ht hc
  | @leave key c raised ht =>
    rw [show [.left t c raised, .finished t raised] =
      [Event.left t c raised] ++ [.finished t raised] from rfl, ← List.append_assoc]
    exact (hf.leave hs ht raised).congr (fun _ => rfl) (fun _ => rfl) (fun _ => rfl)
      (by simp [Event.connection?, Event.registered?])
  | register id c ht =>
    exact hf.register hs t id (not_mem_registered hn (by simp [registered, Event.registered?]))
  | close ht hc => exact hf.takeOut hs ht hc
  | closed raised ht => exact hf.closed ht raised

/-- **A run keeps histories and registry in agreement**, if it registers no connection again. -/
theorem Followed.run (hf : r.Followed h) (hs : r.Sound []) {inputs : List (Input τ κ)}
    (hi : ∀ t, .cancel t ∉ inputs) (hn : (registered (h ++ (r.run inputs).2)).Nodup) :
    (r.run inputs).1.Followed (h ++ (r.run inputs).2) := by
  refine hs.run_preserves (P := fun r h => (registered h).Nodup → r.Followed h) ?_ (fun _ => hf)
    hi hn
  intro r r' o o' h es t hs m hf hn
  exact (hf (nodup_registered h es hn)).move hs m hn

theorem followed_reached {inputs : List (Input τ κ)} (hi : ∀ t, .cancel t ∉ inputs)
    (hn : (registered (chronicle inputs)).Nodup) :
    (reached inputs).Followed (chronicle inputs) :=
  followed_empty.run sound_empty hi hn

/-- Once `close` is called on a connection, it is in no slot and nobody gets it any more. -/
theorem Followed.of_closing (hf : r.Followed (h ++ .closing t c :: es)) :
    (∀ key, r.held? key ≠ some c) ∧ toward (some c) (answers es) = [] := by
  have hm : c ∈ registered (h ++ .closing t c :: es) := by
    by_contra hm
    have hmem : .closing t c ∈ historyOf c (h ++ .closing t c :: es) :=
      List.mem_filter.mpr ⟨by simp, by simp [Event.connection?]⟩
    simp [hf.unknown c hm] at hmem
  obtain ⟨p, hp⟩ := exists_stands r c
  have hphase := hf.phase c hm p hp
  obtain ⟨rfl | rfl, hnone⟩ := phase_of_closing hphase
  · exact ⟨hf.not_held hm hphase (by simp) (by simp), hnone⟩
  · exact ⟨hf.not_held hm hphase (by simp) (by simp), hnone⟩

/-! ## Blocks -/

/-- **Every connection is used in blocks, one after another, and then closed at most once.** The
blocks and the call of `close` are whole, but for the last of them, in which the connection stands.
-/
theorem used_in_blocks {inputs : List (Input τ κ)} (hi : ∀ t, .cancel t ∉ inputs)
    (hn : (registered (chronicle inputs)).Nodup) (c : κ) :
    ∃ (blocks : List (Block τ)) (p : Phase τ),
      p.Fits c (blocks.flatMap (·.events c)) (historyOf c (chronicle inputs)) ∧
        (c ∈ registered (chronicle inputs) → (reached inputs).Stands c p) := by
  have hf := followed_reached hi hn
  by_cases hm : c ∈ registered (chronicle inputs)
  · obtain ⟨p, hp⟩ := exists_stands (reached inputs) c
    obtain ⟨blocks, hb⟩ := blocks_of_phase (hf.phase c hm p hp)
    exact ⟨blocks, p, hb, fun _ => hp⟩
  · refine ⟨[], .free, ?_, fun hm' => absurd hm' hm⟩
    rw [hf.unknown c hm]
    exact .free

theorem used_in_blocks_relay :
    (∀ t, .cancel t ∉ relay) ∧ (registered (chronicle relay)).Nodup ∧
      ∃ (blocks : List (Block Nat)) (p : Phase Nat),
        p.Fits 10 (blocks.flatMap (·.events 10)) (historyOf 10 (chronicle relay)) ∧
          (10 ∈ registered (chronicle relay) → (reached relay).Stands 10 p) :=
  ⟨by simp [relay], by decide, used_in_blocks (by simp [relay]) (by decide) 10⟩

end Registry

end Polystore
