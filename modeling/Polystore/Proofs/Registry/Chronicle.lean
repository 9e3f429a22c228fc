import Mathlib.Data.List.Induction
import Polystore.Registry

/-!
# Chronicles

A chronicle is the list of events of a registry. It says by itself which connection an identifier
had, what became of a connection, and who asked for one and who got it.

* `Chronicle.registered`, `Chronicle.roster`: the connections registered so far, and the map as the
  starts made it;
* `Chronicle.applications`, `Chronicle.answers`: the accesses that were started, each with the
  connection that its identifier had then, and the accesses that began or were refused;
* `Chronicle.historyOf`, `Chronicle.phase?`: the events of one connection, and where they leave it;
* **`Chronicle.blocks_of_phase`**: a connection whose history has a phase was used in blocks, one
  after another, and then closed at most once;
* **`Chronicle.toward_of_displaced`**: nobody asks for a connection that was taken off the map.
-/

set_option linter.unusedSectionVars false

namespace Polystore

variable {τ κ : Type}

/-! ## Events -/

namespace Event

/-- The connection that is used or closed. -/
def connection? : Event τ κ → Option κ
  | .entered _ _ c | .left _ c _ | .closing _ c | .closed _ c _ => some c
  | _ => none

/-- The connection that is registered. -/
def registered? : Event τ κ → Option κ
  | .started _ (.replace _ c) => some c
  | _ => none

/-- The answer to an access: the connection that it got, if any. -/
def answer? : Event τ κ → Option (τ × String × Option κ)
  | .entered t id c => some (t, id, some c)
  | .refused t id => some (t, id, none)
  | _ => none

/-- Whether an event is a call of `close`. -/
def isClosing : Event τ κ → Bool
  | .closing .. => true
  | _ => false

/-- The connection of a call of `close` that comes back to a task. -/
def closedBy? [DecidableEq τ] (t : τ) : Event τ κ → Option κ
  | .closed u c _ => if u = t then some c else none
  | _ => none

/-- Whether an event ends a task. -/
def ends (t : τ) : Event τ κ → Prop
  | .refused u _ | .finished u _ | .cancelled u => u = t
  | _ => False

/-- What an event changes in the map of identifiers. -/
def enlist (m : OrderedMap String κ) : Event τ κ → OrderedMap String κ
  | .started _ (.replace id c) => OrderedMap.insert m id c
  | .started _ (.remove id) => OrderedMap.erase m id
  | .started _ .closeAll => []
  | _ => m

/-- Whether an event leaves the map alone and neither starts nor answers an access. -/
def Silent : Event τ κ → Prop
  | .left .. | .closing .. | .closed .. | .finished .. => True
  | _ => False

/-- An access that is started, with the connection that its identifier has. -/
def application? (m : OrderedMap String κ) : Event τ κ → Option (τ × String × Option κ)
  | .started t (.access id) => some (t, id, OrderedMap.get? m id)
  | _ => none

end Event

namespace Chronicle

/-! ## The map -/

/-- The connections registered, in the order of registration. -/
def registered (h : List (Event τ κ)) : List κ := h.filterMap Event.registered?

/-- The map of identifiers as the tasks started so far have made it. -/
def roster (h : List (Event τ κ)) : OrderedMap String κ := h.foldl Event.enlist []

/-! ## Accesses -/

/-- The accesses started, each with the connection that its identifier had then. -/
def applicationsFrom (m : OrderedMap String κ) : List (Event τ κ) → List (τ × String × Option κ)
  | [] => []
  | e :: h => (e.application? m).toList ++ applicationsFrom (e.enlist m) h

/-- The accesses started, each with the connection that its identifier had then. -/
def applications (h : List (Event τ κ)) : List (τ × String × Option κ) := applicationsFrom [] h

/-- The accesses that began, each with its connection, and those that were refused. -/
def answers (h : List (Event τ κ)) : List (τ × String × Option κ) := h.filterMap Event.answer?

/-- The accesses to one connection, or to none. -/
def toward [DecidableEq κ] (o : Option κ) (l : List (τ × String × Option κ)) :
    List (τ × String × Option κ) := l.filter fun a => a.2.2 = o

/-- The accesses of one task. -/
def byTask [DecidableEq τ] (t : τ) (l : List (τ × String × Option κ)) :
    List (τ × String × Option κ) := l.filter fun a => a.1 = t

/-! ## The history of a connection -/

/-- The events in which a connection is used or closed. -/
def historyOf [DecidableEq κ] (c : κ) (h : List (Event τ κ)) : List (Event τ κ) :=
  h.filter fun e => e.connection? = some c

/-- How often `close` was called on a connection. -/
def closings [DecidableEq κ] (c : κ) (h : List (Event τ κ)) : Nat :=
  (historyOf c h).countP Event.isClosing

/-- The connections whose call of `close` came back to a task, in this order. -/
def closedBy [DecidableEq τ] (t : τ) (h : List (Event τ κ)) : List κ :=
  h.filterMap (Event.closedBy? t)

/-- Where a connection stands. -/
inductive Phase (τ : Type)
  | free
  | used (task : τ)
  | closing (task : τ)
  | closed
deriving DecidableEq, Repr

/-- The next event of a connection, if it is in order. -/
def Phase.next [DecidableEq τ] : Phase τ → Event τ κ → Option (Phase τ)
  | .free, .entered t _ _ => some (.used t)
  | .used t, .left u _ _ => if t = u then some .free else none
  | .free, .closing t _ => some (.closing t)
  | .closing t, .closed u _ _ => if t = u then some .closed else none
  | _, _ => none

/-- Where its history leaves a connection, if all of it is in order. -/
def phase? [DecidableEq τ] [DecidableEq κ] (c : κ) (h : List (Event τ κ)) : Option (Phase τ) :=
  (historyOf c h).foldlM Phase.next .free

/-- A block: a task uses a connection under an identifier, and leaves it by an exception or not. -/
structure Block (τ : Type) where
  task : τ
  id : String
  raised : Bool
deriving DecidableEq, Repr

/-- The events of a block. -/
def Block.events (b : Block τ) (c : κ) : List (Event τ κ) :=
  [.entered b.task b.id c, .left b.task c b.raised]

/-! ## More events -/

theorem registered_append (h es : List (Event τ κ)) :
    registered (h ++ es) = registered h ++ registered es := by
  simp [registered]

theorem nodup_registered (h es : List (Event τ κ)) (hn : (registered (h ++ es)).Nodup) :
    (registered h).Nodup := by
  rw [registered_append] at hn
  exact (List.nodup_append.mp hn).1

/-- Who is registered later was not registered before, if no connection is registered twice. -/
theorem not_mem_registered {h es : List (Event τ κ)} {c : κ}
    (hn : (registered (h ++ es)).Nodup) (hc : c ∈ registered es) : c ∉ registered h := by
  rw [registered_append, List.nodup_append] at hn
  exact fun hm => hn.2.2 c hm c hc rfl

theorem roster_append (h es : List (Event τ κ)) :
    roster (h ++ es) = es.foldl Event.enlist (roster h) := by
  simp [roster]

theorem answers_append (h es : List (Event τ κ)) : answers (h ++ es) = answers h ++ answers es := by
  simp [answers]

theorem applicationsFrom_append (m : OrderedMap String κ) (h es : List (Event τ κ)) :
    applicationsFrom m (h ++ es) =
      applicationsFrom m h ++ applicationsFrom (h.foldl Event.enlist m) es := by
  induction h generalizing m with
  | nil => rfl
  | cons e h ih => simp [applicationsFrom, ih]

theorem applications_append (h es : List (Event τ κ)) :
    applications (h ++ es) = applications h ++ applicationsFrom (roster h) es :=
  applicationsFrom_append [] h es

theorem of_silent {h es : List (Event τ κ)} (hes : ∀ e ∈ es, e.Silent) :
    roster (h ++ es) = roster h ∧ applications (h ++ es) = applications h ∧
      answers (h ++ es) = answers h := by
  have main : ∀ m : OrderedMap String κ, es.foldl Event.enlist m = m ∧ applicationsFrom m es = [] ∧
      answers es = [] := by
    intro m
    induction es generalizing m with
    | nil => exact ⟨rfl, rfl, rfl⟩
    | cons e es ih =>
      obtain ⟨h1, h2, h3⟩ := ih (fun e he => hes e (List.mem_cons_of_mem _ he)) m
      have he := hes e List.mem_cons_self
      cases e with
      | left | closing | closed | finished => exact ⟨h1, h2, h3⟩
      | _ => exact he.elim
  obtain ⟨h1, h2, h3⟩ := main (roster h)
  simp [roster_append, applications_append, answers_append, h1, h2, h3]

theorem applications_started {h : List (Event τ κ)} {t : τ} {op : Operation κ}
    (hop : ∀ id, op ≠ .access id) : applications (h ++ [.started t op]) = applications h := by
  cases op with
  | access id => exact absurd rfl (hop id)
  | _ => simp [applications_append, applicationsFrom, Event.application?]

theorem answers_started {h : List (Event τ κ)} {t : τ} {op : Operation κ} :
    answers (h ++ [.started t op]) = answers h := by
  simp [answers, Event.answer?]

theorem toward_append [DecidableEq κ] (o : Option κ) (l l' : List (τ × String × Option κ)) :
    toward o (l ++ l') = toward o l ++ toward o l' := by
  simp [toward]

theorem byTask_append [DecidableEq τ] (t : τ) (l l' : List (τ × String × Option κ)) :
    byTask t (l ++ l') = byTask t l ++ byTask t l' := by
  simp [byTask]

section Concat

variable [DecidableEq τ] [DecidableEq κ] (h : List (Event τ κ)) (e : Event τ κ) (c : κ)

theorem historyOf_concat :
    historyOf c (h ++ [e]) = historyOf c h ++ if e.connection? = some c then [e] else [] := by
  by_cases he : e.connection? = some c <;> simp [historyOf, he]

theorem phase?_concat : phase? c (h ++ [e]) =
    if e.connection? = some c then (phase? c h).bind (·.next e) else phase? c h := by
  unfold phase?
  rw [historyOf_concat]
  split
  · rw [List.foldlM_append]
    cases (historyOf c h).foldlM Phase.next Phase.free <;> simp
  · simp

end Concat

/-! ## Blocks -/

section Blocks

variable [DecidableEq τ] [DecidableEq κ]

/-- The events of a connection that stands somewhere. -/
inductive Phase.Fits (c : κ) (blocks : List (Event τ κ)) : Phase τ → List (Event τ κ) → Prop
  | free : Fits c blocks .free blocks
  | used (t : τ) (id : String) : Fits c blocks (.used t) (blocks ++ [.entered t id c])
  | closing (t : τ) : Fits c blocks (.closing t) (blocks ++ [.closing t c])
  | closed (t : τ) (raised : Bool) :
    Fits c blocks .closed (blocks ++ [.closing t c, .closed t c raised])

/-- **A connection is used in blocks and then closed at most once**, as far as its history has a
phase. -/
theorem blocks_of_phase {c : κ} {h : List (Event τ κ)} {p : Phase τ} (hp : phase? c h = some p) :
    ∃ blocks : List (Block τ), p.Fits c (blocks.flatMap (·.events c)) (historyOf c h) := by
  have main : ∀ l : List (Event τ κ), (∀ e ∈ l, e.connection? = some c) → ∀ p,
      l.foldlM Phase.next .free = some p →
        ∃ blocks : List (Block τ), p.Fits c (blocks.flatMap (·.events c)) l := by
    intro l
    induction l using List.reverseRecOn with
    | nil =>
      intro _ p hp
      obtain rfl : Phase.free = p := by simpa using hp
      exact ⟨[], .free⟩
    | append_singleton l e ih =>
      intro hl p hp
      rw [List.foldlM_append] at hp
      obtain ⟨q, hq, he⟩ := Option.bind_eq_some_iff.mp hp
      replace he : q.next e = some p := by simpa using he
      have hc := hl e (by simp)
      obtain ⟨blocks, hb⟩ := ih (fun e' he' => hl e' (by simp [he'])) q hq
      -- the next event decides how the history goes on
      cases hb with
      | free =>
        cases e <;> simp only [Phase.next, Option.some.injEq, reduceCtorEq] at he
        case entered t id c' =>
          obtain rfl : c' = c := by simpa [Event.connection?] using hc
          exact ⟨blocks, he ▸ .used t id⟩
        case closing t c' =>
          obtain rfl : c' = c := by simpa [Event.connection?] using hc
          exact ⟨blocks, he ▸ .closing t⟩
      | used t id =>
        cases e <;> simp only [Phase.next, reduceCtorEq] at he
        case left u c' raised =>
          obtain rfl : c' = c := by simpa [Event.connection?] using hc
          split at he <;> simp only [Option.some.injEq, reduceCtorEq] at he
          subst ‹t = u› he
          exact ⟨blocks ++ [⟨t, id, raised⟩], by simpa [Block.events] using Phase.Fits.free⟩
      | closing t =>
        cases e <;> simp only [Phase.next, reduceCtorEq] at he
        case closed u c' raised =>
          obtain rfl : c' = c := by simpa [Event.connection?] using hc
          split at he <;> simp only [Option.some.injEq, reduceCtorEq] at he
          subst ‹t = u› he
          exact ⟨blocks, by simpa using Phase.Fits.closed t raised⟩
      | closed t raised => cases e <;> simp [Phase.next] at he
  exact main _ (fun e he => by simpa using (List.mem_filter.mp he).2) p hp

/-- How often `close` was called on a connection that stands somewhere. -/
def Phase.closings : Phase τ → Nat
  | .free | .used _ => 0
  | .closing _ | .closed => 1

theorem closings_of_phase {c : κ} {h : List (Event τ κ)} {p : Phase τ}
    (hp : phase? c h = some p) : closings c h = p.closings := by
  obtain ⟨blocks, hb⟩ := blocks_of_phase hp
  have hblocks : (blocks.flatMap (·.events c)).countP Event.isClosing = 0 := by
    refine List.countP_eq_zero.mpr fun e he => ?_
    obtain ⟨b, -, he⟩ := List.mem_flatMap.mp he
    obtain rfl | rfl : e = .entered b.task b.id c ∨ e = .left b.task c b.raised := by
      simpa [Block.events] using he
    · simp [Event.isClosing]
    · simp [Event.isClosing]
  unfold closings
  generalize historyOf c h = l at hb
  cases hb with
  | free => exact hblocks
  | _ => rw [List.countP_append, hblocks]; rfl

theorem exists_closed {c : κ} {h : List (Event τ κ)} (hp : phase? c h = some .closed) :
    ∃ t raised, .closed t c raised ∈ h := by
  obtain ⟨blocks, hb⟩ := blocks_of_phase hp
  generalize hl : historyOf c h = l at hb
  cases hb with
  | closed t raised =>
    have hm : .closed t c raised ∈ historyOf c h := by simp [hl]
    exact ⟨t, raised, (List.mem_filter.mp hm).1⟩

/-- Once `close` is called, nobody gets the connection any more. -/
theorem phase_of_closing {c : κ} {t : τ} {h es : List (Event τ κ)} {p : Phase τ}
    (hp : phase? c (h ++ .closing t c :: es) = some p) :
    (p = .closing t ∨ p = .closed) ∧ toward (some c) (answers es) = [] := by
  have hist : historyOf c (h ++ .closing t c :: es) =
      historyOf c h ++ .closing t c :: historyOf c es := by
    simp [historyOf, Event.connection?]
  have hempty : (∀ u id, .entered u id c ∉ historyOf c es) → toward (some c) (answers es) = [] := by
    refine fun hnone => List.eq_nil_iff_forall_not_mem.mpr fun a ha => ?_
    obtain ⟨hm, hc⟩ := List.mem_filter.mp ha
    obtain ⟨e, he, hans⟩ := List.mem_filterMap.mp hm
    cases e <;> simp only [Event.answer?, Option.some.injEq, reduceCtorEq] at hans
    case refused u id => simp [← hans] at hc
    case entered u id c' =>
      obtain rfl : c' = c := by simpa [← hans] using hc
      exact hnone u id (List.mem_filter.mpr ⟨he, by simp [Event.connection?]⟩)
  rw [phase?, hist, List.foldlM_append] at hp
  obtain ⟨q, -, hp⟩ := Option.bind_eq_some_iff.mp hp
  rw [List.foldlM_cons] at hp
  obtain ⟨q', hq, hp⟩ := Option.bind_eq_some_iff.mp hp
  obtain rfl : q' = .closing t := by
    cases q <;> simp only [Phase.next, Option.some.injEq, reduceCtorEq] at hq
    exact hq.symm
  -- what follows is the end of the call, or nothing
  cases hes : historyOf c es with
  | nil =>
    rw [hes] at hp hempty
    exact ⟨.inl (by simpa using hp.symm), hempty (by simp)⟩
  | cons e l =>
    rw [hes, List.foldlM_cons] at hp
    obtain ⟨q', hq, hp⟩ := Option.bind_eq_some_iff.mp hp
    cases e <;> simp only [Phase.next, reduceCtorEq] at hq
    split at hq <;> simp only [Option.some.injEq, reduceCtorEq] at hq
    subst hq
    cases l with
    | nil =>
      rw [hes] at hempty
      exact ⟨.inr (by simpa using hp.symm), hempty (by simp)⟩
    | cons e l => simp [Phase.next] at hp

end Blocks

/-! ## Displaced connections -/

section Displaced

variable {c : κ} {id id' : String} {h es : List (Event τ κ)} {e : Event τ κ}
  {m : OrderedMap String κ}

/-- What is on the map after an event was there before, or is registered by the event. -/
theorem get?_enlist (hc : OrderedMap.get? (e.enlist m) id = some c) :
    OrderedMap.get? m id = some c ∨ ∃ t, e = .started t (.replace id c) := by
  cases e with
  | started t op =>
    cases op with
    | access i => exact .inl hc
    | replace i c' =>
      rw [Event.enlist, OrderedMap.get?_insert] at hc
      split at hc
      · exact .inr ⟨t, by rw [‹i = id›, Option.some.inj hc]⟩
      · exact .inl hc
    | remove i =>
      rw [Event.enlist, OrderedMap.get?_erase] at hc
      split at hc
      · simp at hc
      · exact .inl hc
    | closeAll => simp [Event.enlist] at hc
  | _ => exact .inl hc

theorem roster_concat (h : List (Event τ κ)) (e : Event τ κ) :
    roster (h ++ [e]) = e.enlist (roster h) := roster_append h [e]

theorem mem_registered_of_roster (hc : OrderedMap.get? (roster h) id = some c) :
    c ∈ registered h := by
  induction h using List.reverseRecOn with
  | nil => simp [roster] at hc
  | append_singleton h e ih =>
    rw [registered_append, List.mem_append]
    rw [roster_concat] at hc
    rcases get?_enlist hc with hc | ⟨t, rfl⟩
    · exact .inl (ih hc)
    · exact .inr (by simp [registered, Event.registered?])

/-- A connection that is registered once is on the map once. -/
theorem roster_injective (hn : (registered h).Nodup) (hc : OrderedMap.get? (roster h) id = some c)
    (hc' : OrderedMap.get? (roster h) id' = some c) : id = id' := by
  induction h using List.reverseRecOn with
  | nil => simp [roster] at hc
  | append_singleton h e ih =>
    rw [roster_concat] at hc hc'
    -- an event that registers a connection finds it on the map under no identifier
    have hnew : ∀ {t i j}, e = .started t (.replace i c) →
        OrderedMap.get? (roster h) j ≠ some c := fun he hj =>
      not_mem_registered hn (by simp [he, registered, Event.registered?])
        (mem_registered_of_roster hj)
    rcases get?_enlist hc with hc | ⟨t, he⟩ <;> rcases get?_enlist hc' with hc' | ⟨t', he'⟩
    · exact ih (nodup_registered h [e] hn) hc hc'
    · exact absurd hc (hnew he')
    · exact absurd hc' (hnew he)
    · simp only [he, Event.started.injEq, Operation.replace.injEq] at he'
      exact he'.2.1

/-- Who asks for an identifier asks for a connection that it has now or that is registered later. -/
theorem mem_of_mem_applicationsFrom {cs : List κ} {t : τ}
    (hm : ∀ c, OrderedMap.get? m id = some c → c ∈ cs)
    (ha : (t, id, some c) ∈ applicationsFrom m es) : c ∈ cs ++ registered es := by
  induction es generalizing m cs with
  | nil => simp [applicationsFrom] at ha
  | cons e es ih =>
    rw [← List.singleton_append, registered_append, ← List.append_assoc]
    rw [applicationsFrom, List.mem_append] at ha
    rcases ha with ha | ha
    · have happ : e.application? m = some (t, id, some c) := by simpa using ha
      cases e with
      | started u op =>
        cases op with
        | access i =>
          simp only [Event.application?, Option.some.injEq, Prod.mk.injEq] at happ
          obtain ⟨-, rfl, hc⟩ := happ
          exact List.mem_append_left _ (List.mem_append_left _ (hm c hc))
        | _ => simp [Event.application?] at happ
      | _ => simp [Event.application?] at happ
    · refine ih (fun c' hc' => ?_) ha
      rcases get?_enlist hc' with hc' | ⟨u, rfl⟩
      · exact List.mem_append_left _ (hm c' hc')
      · exact List.mem_append_right _ (by simp [registered, Event.registered?])

variable [DecidableEq κ]

/-- A connection that is not on the map and not registered again is not asked for. -/
theorem toward_applicationsFrom (hm : ∀ id, OrderedMap.get? m id ≠ some c)
    (hc : c ∉ registered es) : toward (some c) (applicationsFrom m es) = [] := by
  induction es generalizing m with
  | nil => rfl
  | cons e es ih =>
    rw [← List.singleton_append, registered_append, List.mem_append, not_or] at hc
    have hfirst : toward (some c) (e.application? m).toList = [] := by
      cases e with
      | started t op =>
        cases op with
        | access id => simp [Event.application?, toward, hm id]
        | _ => rfl
      | _ => rfl
    rw [applicationsFrom, toward_append, hfirst, List.nil_append]
    refine ih (fun id hid => ?_) hc.2
    rcases get?_enlist hid with hid | ⟨t, rfl⟩
    · exact hm id hid
    · exact hc.1 (by simp [registered, Event.registered?])

/-- Nobody asks for a connection after it was displaced. -/
theorem toward_of_displaced (hn : (registered (h ++ e :: es)).Nodup)
    (hc : OrderedMap.get? (roster h) id = some c)
    (hd : OrderedMap.get? (roster (h ++ [e])) id ≠ some c) :
    toward (some c) (applications (h ++ e :: es)) = toward (some c) (applications h) := by
  have hm := mem_registered_of_roster hc
  rw [← List.singleton_append, ← List.append_assoc] at hn
  have hfirst := nodup_registered _ _ hn
  have hnone : e.application? (roster h) = none := by
    rw [roster_concat] at hd
    cases e with
    | started t op =>
      cases op with
      | access => exact absurd hc hd
      | _ => rfl
    | _ => rfl
  have hgone : ∀ i, OrderedMap.get? (roster (h ++ [e])) i ≠ some c := by
    intro i hi
    have hi' := hi
    rw [roster_concat] at hi'
    rcases get?_enlist hi' with hi' | ⟨t, rfl⟩
    · exact hd (roster_injective (nodup_registered h _ hfirst) hc hi' ▸ hi)
    · exact not_mem_registered hfirst (by simp [registered, Event.registered?]) hm
  rw [applications_append, toward_append, applicationsFrom, hnone, ← roster_concat,
    Option.toList_none, List.nil_append, toward_applicationsFrom hgone, List.append_nil]
  refine fun hm' => not_mem_registered hn hm' ?_
  rw [registered_append]
  exact List.mem_append_left _ hm

end Displaced

end Chronicle

end Polystore
