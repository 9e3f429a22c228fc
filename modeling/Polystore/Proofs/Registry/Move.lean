import Polystore.Proofs.Registry.Sound

/-!
# Moves

A step of a sound registry is made of a few moves of one task. What holds of every move holds of
every step and of every run.

* `Move`: what a task can do next, with what is owed before and after;
* `Course`: moves of one task, one after another;
* `Input.task`, `Event.task`: the tasks that inputs and events are for;
* **`Sound.course_step`**: every step is a course of the task that the input is for;
* `eq_start_of_started`: a task is started by an input only;
* **`Sound.step`**, **`Sound.run`**: steps and runs keep a registry sound;
* `Sound.run_preserves`: what every move preserves holds after a run;
* `Keeps`, **`Keeps.run`**: the same, if one task is followed and may be in the middle of a step;
* `reached`, `chronicle`: where a run leads to, and what is seen on the way; `sound_reached`;
  `reached_start`, `chronicle_start`: from the start of a task on;
* `relay`: a run in which two tasks use a connection that is displaced meanwhile.
-/

set_option linter.unusedSectionVars false

namespace Polystore

/-- The task that an input is for. -/
def Input.task {τ κ : Type} : Input τ κ → τ
  | .start t _ | .leave t _ | .closed t _ | .resume t | .cancel t => t

/-- The task that an event is of. -/
def Event.task {τ κ : Type} : Event τ κ → τ
  | .started t _ | .refused t _ | .entered t _ _ | .left t _ _ | .closing t _ | .closed t _ _
  | .finished t _ | .cancelled t => t

/-- The operation that a task is started for. -/
def Event.operation? {τ κ : Type} : Event τ κ → Option (Operation κ)
  | .started _ op => some op
  | _ => none

namespace Registry

variable {τ κ : Type} [DecidableEq τ] {r r' : Registry τ κ} {t : τ}
  {o o' : Option (List SlotKey)} {owed : List SlotKey} {es : List (Event τ κ)} {key : SlotKey}
  {rest : List SlotKey} {id : String} {c : κ}

/-! ## Moves of a task -/

/-- What a task does next: the registry before, the slots owed if the task runs, what is seen, and
the same after. -/
inductive Move (t : τ) : Registry τ κ → Option (List SlotKey) → List (Event τ κ) →
    Registry τ κ → Option (List SlotKey) → Prop
  /-- An access finds nothing. -/
  | refuse {r : Registry τ κ} {id : String} :
    r.stage? t = none → r.liveKey? id = none →
      Move t r none [.started t (.access id), .refused t id] r none
  /-- An access lines up for the slot that it finds. -/
  | ask {r : Registry τ κ} {id : String} {key : SlotKey} :
    r.stage? t = none → r.liveKey? id = some key →
      Move t r none [.started t (.access id)] (r.lineUp t (.use key id)) none
  /-- With its slot in hand, an access begins its block. -/
  | enter {r : Registry τ κ} {id : String} {key : SlotKey} {c : κ} :
    r.stage? t = some (.granted (.use key id)) → r.held? key = some c →
      Move t r none [.entered t id c] (r.setStage t (.inside key c)) none
  /-- A block ends, and with it its task. -/
  | leave {r : Registry τ κ} {key : SlotKey} {c : κ} (raised : Bool) :
    r.stage? t = some (.inside key c) →
      Move t r none [.left t c raised, .finished t raised] (r.quit t (.slot key)) none
  | register {r : Registry τ κ} (id : String) (c : κ) :
    r.stage? t = none →
      Move t r none [.started t (.replace id c)] (r.register id c) (some (r.liveKey? id).toList)
  | unregister {r : Registry τ κ} (id : String) :
    r.stage? t = none →
      Move t r none [.started t (.remove id)] (r.unregister id) (some (r.liveKey? id).toList)
  | unregisterAll {r : Registry τ κ} :
    r.stage? t = none → Move t r none [.started t .closeAll] r.unregisterAll (some r.liveKeys)
  /-- The first slot owed is lined up for, with the others behind it. -/
  | await {r : Registry τ κ} {key : SlotKey} {rest : List SlotKey} :
    r.stage? t = none → Move t r (some (key :: rest)) [] (r.lineUp t (.retire key rest)) none
  /-- With the slot in hand, it is given up and emptied, and `close` is called. -/
  | close {r : Registry τ κ} {key : SlotKey} {rest : List SlotKey} {c : κ} :
    r.stage? t = some (.granted (.retire key rest)) → r.held? key = some c →
      Move t r none [.closing t c] (r.takeOut t key c rest) none
  /-- A call of `close` comes back. -/
  | closed {r : Registry τ κ} {rest : List SlotKey} {c : κ} (raised : Bool) :
    r.stage? t = some (.closing c rest) →
      Move t r none [.closed t c raised] (r.dropTask t) (some rest)
  /-- Nothing is owed any more. -/
  | finish {r : Registry τ κ} : r.stage? t = none → Move t r (some []) [.finished t false] r none

/-- Moves of one task, one after another. -/
inductive Course (t : τ) : Registry τ κ → Option (List SlotKey) → List (Event τ κ) →
    Registry τ κ → Option (List SlotKey) → Prop
  | done {r : Registry τ κ} {o : Option (List SlotKey)} : Course t r o [] r o
  | next {r r' r'' : Registry τ κ} {o o' o'' : Option (List SlotKey)} {es es' : List (Event τ κ)} :
    Move t r o es r' o' → Course t r' o' es' r'' o'' → Course t r o (es ++ es') r'' o''

theorem Move.course (m : Move t r o es r' o') : Course t r o es r' o' := by
  simpa using Course.next m .done

theorem Move.task (m : Move t r o es r' o') : ∀ e ∈ es, e.task = t := by
  cases m <;> simp [Event.task]

/-- All that is seen of moves is of their task. -/
theorem Course.task (m : Course t r o es r' o') : ∀ e ∈ es, e.task = t := by
  induction m with
  | done => simp
  | next m _ ih =>
    intro e he
    exact (List.mem_append.mp he).elim (m.task e) (ih e)

/-- **A move keeps a registry sound.** -/
theorem Sound.move (h : r.Sound (o.getD [])) (m : Move t r o es r' o') : r'.Sound (o'.getD []) := by
  cases m with
  | refuse => exact h
  | ask ht hk => exact h.lineUp_use ht hk
  | enter ht hc => exact h.enter ht hc
  | leave raised ht =>
    have := h.quit (view_of_stage ht : r.view Stage.lock? t = some _)
    rwa [duties_of_stage ht] at this
  | register id c => exact h.register id c
  | unregister id => exact h.unregister id
  | unregisterAll => exact h.unregisterAll
  | await ht => exact h.lineUp_retire ht
  | close ht => exact h.takeOut ht _
  | closed raised ht => exact h.dropTask ht
  | finish => exact h

theorem Sound.course (h : r.Sound (o.getD [])) (m : Course t r o es r' o') :
    r'.Sound (o'.getD []) := by
  induction m with
  | done => exact h
  | next m _ ih => exact ih (h.move m)

/-! ## Steps are courses -/

theorem stage?_lineUp_of_free {e : Errand κ} (h : r.isTaken e.place = false) :
    (r.lineUp t e).stage? t = some (.granted e) := by
  simp [stage?_lineUp, h]

theorem enter_of_held (hc : r.held? key = some c) :
    r.enter t key id = (r.setStage t (.inside key c), some (.entered t id c)) := by
  simp [enter, hc]

theorem use_of_free (h : r.isTaken (.slot key) = false) :
    r.use t key id = (r.lineUp t (.use key id)).enter t key id := by
  simp [use, h]

theorem retireHeld_of_held (hc : r.held? key = some c) :
    r.retireHeld t key rest = (r.takeOut t key c rest, some (.closing t c)) := by
  simp [retireHeld, vacate, hc, close, quit_drain, takeOut]

theorem retire_of_free (h : r.isTaken (.slot key) = false) :
    r.retire t (key :: rest) = (r.lineUp t (.retire key rest)).retireHeld t key rest := by
  simp [retire, retireHeld, h]

/-- Who was handed a slot to use it finds its connection. -/
theorem Sound.held_of_use (h : r.Sound []) (ht : r.stage? t = some (.granted (.use key id))) :
    ∃ c, r.held? key = some c :=
  Option.isSome_iff_exists.mp (h.served.use t key id (view_of_stage ht)).2

/-- Who was handed a slot to retire it finds its connection. -/
theorem Sound.held_of_retire (h : r.Sound [])
    (ht : r.stage? t = some (.granted (.retire key rest))) : ∃ c, r.held? key = some c := by
  have hduty : key ∈ r.duties t := by simp [duties_of_stage ht, Stage.duties]
  exact Option.isSome_iff_exists.mp ((h.kept.held_iff key).mpr (.inr (.inr ⟨t, hduty⟩)))

/-- A slot that was handed over for retiring is full, so `close` is called. -/
theorem Sound.course_retireHeld (h : r.Sound [])
    (ht : r.stage? t = some (.granted (.retire key rest))) :
    Course t r none (r.retireHeld t key rest).2.toList (r.retireHeld t key rest).1 none := by
  obtain ⟨c, hc⟩ := h.held_of_retire ht
  rw [retireHeld_of_held hc]
  exact (Move.close ht hc).course

theorem Sound.course_retire (h : r.Sound owed) (ht : r.stage? t = none) :
    Course t r (some owed) (r.retire t owed).2.toList (r.retire t owed).1 none := by
  cases owed with
  | nil => exact (Move.finish ht).course
  | cons key rest =>
    have hline : Move t r (some (key :: rest)) [] (r.lineUp t (.retire key rest)) none := .await ht
    cases htk : r.isTaken (.slot key) with
    | true => simpa [retire, htk] using hline.course
    | false =>
      rw [retire_of_free htk]
      exact .next hline ((h.move hline).course_retireHeld (stage?_lineUp_of_free htk))

theorem Sound.course_enter (h : r.Sound []) (ht : r.stage? t = some (.granted (.use key id))) :
    Course t r none (r.enter t key id).2.toList (r.enter t key id).1 none := by
  obtain ⟨c, hc⟩ := h.held_of_use ht
  rw [enter_of_held hc]
  exact (Move.enter ht hc).course

theorem Sound.course_use (h : r.Sound []) (ht : r.stage? t = none)
    (hk : r.liveKey? id = some key) : Course t r none
      (.started t (.access id) :: (r.use t key id).2.toList) (r.use t key id).1 none := by
  have hline : Move t r none [.started t (.access id)] (r.lineUp t (.use key id)) none :=
    .ask ht hk
  cases htk : r.isTaken (.slot key) with
  | true => simpa [use, htk] using hline.course
  | false =>
    rw [use_of_free htk]
    exact .next hline ((h.move hline).course_enter (stage?_lineUp_of_free htk))

theorem Sound.course_start (h : r.Sound []) (ht : r.stage? t = none) (op : Operation κ) :
    Course t r none (.started t op :: (r.start t op).2.toList) (r.start t op).1 none := by
  have hq := h.queue_eq_nil
  cases op with
  | access id =>
    cases hk : r.liveKey? id with
    | none =>
      rw [start_access_none hq ht hk]
      exact (Move.refuse ht hk).course
    | some key =>
      rw [start_access_some hq ht hk]
      exact h.course_use ht hk
  | replace id c =>
    rw [start_replace hq ht]
    exact .next (.register id c ht) ((h.register id c).course_retire ht)
  | remove id =>
    rw [start_remove hq ht]
    exact .next (.unregister id ht) ((h.unregister id).course_retire ht)
  | closeAll =>
    rw [start_closeAll hq ht]
    exact .next (.unregisterAll ht) (h.unregisterAll.course_retire ht)

/-- **A step is made of moves of the task that the input is for.** -/
theorem Sound.course_step (h : r.Sound []) {input : Input τ κ} (hi : ∀ t, input ≠ .cancel t) :
    Course input.task r none (r.step input).2 (r.step input).1 none := by
  cases input with
  | start t op =>
    change Course t r none _ _ none
    cases ht : r.stage? t with
    | none => simpa [step, answer, notice, ht] using h.course_start ht op
    | some s => simpa [step, answer, notice, Registry.start, ht] using Course.done
  | leave t raised =>
    change Course t r none _ _ none
    cases ht : r.stage? t with
    | none => simpa [step, answer, notice, Registry.leave, ht] using Course.done
    | some s =>
      cases s with
      | inside key c =>
        simpa [step, answer, notice, Registry.leave, ht, Registry.finish] using
          (Move.leave raised ht).course
      | _ => simpa [step, answer, notice, Registry.leave, ht] using Course.done
  | closed t raised =>
    change Course t r none _ _ none
    cases ht : r.stage? t with
    | none => simpa [step, answer, notice, Registry.closed, ht] using Course.done
    | some s =>
      cases s with
      | closing c rest =>
        simpa [step, answer, notice, Registry.closed, ht] using
          Course.next (.closed raised ht) ((h.dropTask ht).course_retire (by simp))
      | _ => simpa [step, answer, notice, Registry.closed, ht] using Course.done
  | resume t =>
    change Course t r none _ _ none
    cases ht : r.stage? t with
    | none => simpa [step, answer, notice, Registry.resume, ht] using Course.done
    | some s =>
      have hsm := h.smooth t s ht
      cases s with
      | granted e =>
        cases e with
        | operate op => exact hsm.elim
        | use key id => simpa [step, answer, notice, Registry.resume, ht] using h.course_enter ht
        | retire key rest =>
          simpa [step, answer, notice, Registry.resume, ht] using h.course_retireHeld ht
      | retrying id => exact hsm.elim
      | _ => simpa [step, answer, notice, Registry.resume, ht] using Course.done
  | cancel t => exact absurd rfl (hi t)

/-! ## Tasks are started by inputs only -/

theorem operation?_enter (r : Registry τ κ) (t : τ) (key : SlotKey) (id : String) :
    (r.enter t key id).2.bind Event.operation? = none := by
  unfold enter
  split <;> rfl

theorem operation?_use (r : Registry τ κ) (t : τ) (key : SlotKey) (id : String) :
    (r.use t key id).2.bind Event.operation? = none := by
  cases htk : r.isTaken (.slot key) with
  | true => simp [use, htk]
  | false => exact use_of_free htk ▸ operation?_enter ..

theorem operation?_retire (r : Registry τ κ) (t : τ) (owed : List SlotKey) :
    (r.retire t owed).2.bind Event.operation? = none := by
  induction owed generalizing r with
  | nil => rfl
  | cons key rest ih =>
    simp only [retire]
    split
    · rfl
    · split
      · rfl
      · exact ih _

theorem operation?_retireHeld (r : Registry τ κ) (t : τ) (key : SlotKey) (rest : List SlotKey) :
    (r.retireHeld t key rest).2.bind Event.operation? = none := by
  unfold retireHeld
  split
  · rfl
  · exact operation?_retire ..

theorem operation?_operate (r : Registry τ κ) (t : τ) (op : Operation κ) :
    (r.operate t op).2.bind Event.operation? = none := by
  cases op with
  | access id =>
    simp only [operate]
    split
    · exact operation?_use ..
    · rfl
  | replace id c => exact operation?_retire ..
  | remove id => exact operation?_retire ..
  | closeAll => exact operation?_retire ..

theorem operation?_seek (r : Registry τ κ) (t : τ) (op : Operation κ) :
    (r.seek t op).2.bind Event.operation? = none := by
  unfold seek
  dsimp only
  split
  · rfl
  · exact operation?_operate ..

theorem operation?_answer (r : Registry τ κ) (input : Input τ κ) :
    (r.answer input).2.bind Event.operation? = none := by
  cases input with
  | start t op =>
    simp only [answer, start]
    split
    · exact operation?_seek ..
    · rfl
  | leave t raised =>
    simp only [answer, leave]
    split <;> rfl
  | closed t raised =>
    simp only [answer, closed]
    split
    · exact operation?_retire ..
    · rfl
  | resume t =>
    simp only [answer, resume]
    split
    · exact operation?_operate ..
    · exact operation?_enter ..
    · exact operation?_retireHeld ..
    · exact operation?_seek ..
    · rfl
  | cancel t =>
    simp only [answer, cancel]
    split <;> rfl

theorem step_start (ht : r.stage? t = none) (op : Operation κ) :
    r.step (.start t op) = ((r.start t op).1, .started t op :: (r.start t op).2.toList) := by
  simp [step, answer, notice, ht]

/-- A task is seen to be started for what it is started for. -/
theorem eq_start_of_started {input : Input τ κ} {op : Operation κ}
    (h : .started t op ∈ (r.step input).2) : input = .start t op := by
  rw [step, List.mem_append, Option.mem_toList, Option.mem_toList] at h
  rcases h with h | h
  · cases input with
    | start u op' =>
      simp only [notice] at h
      split at h <;> simp_all
    | leave | closed =>
      simp only [notice] at h
      split at h <;> simp at h
    | resume | cancel => simp [notice] at h
  · have hnone := operation?_answer r input
    rw [h] at hnone
    cases hnone

/-! ## Runs -/

theorem Sound.step (h : r.Sound []) {input : Input τ κ} (hi : ∀ t, input ≠ .cancel t) :
    (r.step input).1.Sound [] := by
  exact h.course (h.course_step hi)

/-- **A run keeps a registry sound.** -/
theorem Sound.run (h : r.Sound []) {inputs : List (Input τ κ)} (hi : ∀ t, .cancel t ∉ inputs) :
    (r.run inputs).1.Sound [] := by
  induction inputs generalizing r with
  | nil => exact h
  | cons input inputs ih =>
    refine ih (h.step fun t e => hi t (e ▸ List.mem_cons_self)) fun t ht => ?_
    exact hi t (List.mem_cons_of_mem _ ht)

/-- What every move of a sound registry preserves holds after a run, if it holds before. -/
theorem Sound.run_preserves {P : Registry τ κ → List (Event τ κ) → Prop}
    (hP : ∀ {r r' : Registry τ κ} {o o' : Option (List SlotKey)} {h es : List (Event τ κ)} {t : τ},
      r.Sound (o.getD []) → Move t r o es r' o' → P r h → P r' (h ++ es))
    (hs : r.Sound []) {h : List (Event τ κ)} (hr : P r h) {inputs : List (Input τ κ)}
    (hi : ∀ t, .cancel t ∉ inputs) : P (r.run inputs).1 (h ++ (r.run inputs).2) := by
  have course : ∀ {r r' : Registry τ κ} {o o' : Option (List SlotKey)} {es : List (Event τ κ)}
      {t : τ}, Course t r o es r' o' → r.Sound (o.getD []) → ∀ {h : List (Event τ κ)},
        P r h → P r' (h ++ es) := by
    intro r r' o o' es t m
    induction m with
    | done => intro _ h hr; simpa using hr
    | next m _ ih =>
      intro hs h hr
      rw [← List.append_assoc]
      exact ih (hs.move m) (hP hs m hr)
  induction inputs generalizing r h with
  | nil => simpa [Registry.run] using hr
  | cons input inputs ih =>
    have hne : ∀ t, input ≠ .cancel t := fun t e => hi t (e ▸ List.mem_cons_self)
    rw [Registry.run, ← List.append_assoc]
    exact ih (hs.step hne) (course (hs.course_step hne) hs hr) fun u hu =>
      hi u (List.mem_cons_of_mem _ hu)

theorem run_append (r : Registry τ κ) (is js : List (Input τ κ)) :
    r.run (is ++ js) = (((r.run is).1.run js).1, (r.run is).2 ++ ((r.run is).1.run js).2) := by
  induction is generalizing r with
  | nil => rfl
  | cons input is ih => simp [Registry.run, ih]

/-! ## One task among others -/

/-- What one task leaves true with its own moves, even in the middle of a step, where it owes
something, and what the moves of other tasks leave true. -/
structure Keeps (t : τ) (Q : Registry τ κ → Option (List SlotKey) → List (Event τ κ) → Prop) :
    Prop where
  own {r r' : Registry τ κ} {o o' : Option (List SlotKey)} {h es : List (Event τ κ)} :
    r.Sound (o.getD []) → Move t r o es r' o' → Q r o h → Q r' o' (h ++ es)
  other {r r' : Registry τ κ} {o o' : Option (List SlotKey)} {h es : List (Event τ κ)} {u : τ} :
    u ≠ t → r.Sound (o.getD []) → Move u r o es r' o' → Q r none h → Q r' none (h ++ es)

section Keeps

variable {Q : Registry τ κ → Option (List SlotKey) → List (Event τ κ) → Prop}
  {h : List (Event τ κ)} {u : τ}

theorem Keeps.course (k : Keeps t Q) (hs : r.Sound (o.getD [])) (m : Course t r o es r' o')
    (hq : Q r o h) : Q r' o' (h ++ es) := by
  induction m generalizing h with
  | done => simpa using hq
  | next m _ ih =>
    rw [← List.append_assoc]
    exact ih (hs.move m) (k.own hs m hq)

theorem Keeps.course_other (k : Keeps t Q) (hu : u ≠ t) (hs : r.Sound (o.getD []))
    (m : Course u r o es r' o') (hq : Q r none h) : Q r' none (h ++ es) := by
  induction m generalizing h with
  | done => simpa using hq
  | next m _ ih =>
    rw [← List.append_assoc]
    exact ih (hs.move m) (k.other hu hs m hq)

theorem Keeps.step (k : Keeps t Q) (hs : r.Sound []) {input : Input τ κ}
    (hi : ∀ t, input ≠ .cancel t) (hq : Q r none h) :
    Q (r.step input).1 none (h ++ (r.step input).2) := by
  by_cases hu : input.task = t
  · subst hu
    exact k.course hs (hs.course_step hi) hq
  · exact k.course_other hu hs (hs.course_step hi) hq

/-- **What is kept by the moves of a task and of the others holds after a run.** -/
theorem Keeps.run (k : Keeps t Q) (hs : r.Sound []) {inputs : List (Input τ κ)}
    (hi : ∀ t, .cancel t ∉ inputs) (hq : Q r none h) :
    Q (r.run inputs).1 none (h ++ (r.run inputs).2) := by
  induction inputs generalizing r h with
  | nil => simpa [Registry.run] using hq
  | cons input inputs ih =>
    have hne : ∀ t, input ≠ .cancel t := fun t e => hi t (e ▸ List.mem_cons_self)
    rw [Registry.run, ← List.append_assoc]
    exact ih (hs.step hne) (fun u hu => hi u (List.mem_cons_of_mem _ hu)) (k.step hs hne hq)

end Keeps

/-! ## What is reached -/

/-- The registry that inputs lead to, if there are no connections before. -/
def reached (inputs : List (Input τ κ)) : Registry τ κ := (empty.run inputs).1

/-- What is seen on the way. -/
def chronicle (inputs : List (Input τ κ)) : List (Event τ κ) := (empty.run inputs).2

theorem sound_reached {inputs : List (Input τ κ)} (hi : ∀ t, .cancel t ∉ inputs) :
    (reached inputs).Sound [] := sound_empty.run hi

/-- What is seen of a run from the start of a task on. -/
theorem chronicle_start {inputs : List (Input τ κ)} (ht : (reached inputs).stage? t = none)
    (op : Operation κ) (after : List (Input τ κ)) :
    chronicle (inputs ++ .start t op :: after) = chronicle inputs ++ .started t op ::
      (((reached inputs).start t op).2.toList ++ (((reached inputs).start t op).1.run after).2) := by
  rw [reached] at ht
  rw [chronicle, run_append, Registry.run, step_start ht]
  rfl

theorem reached_start {inputs : List (Input τ κ)} (ht : (reached inputs).stage? t = none)
    (op : Operation κ) (after : List (Input τ κ)) :
    reached (inputs ++ .start t op :: after) = (((reached inputs).start t op).1.run after).1 := by
  rw [reached] at ht
  rw [reached, run_append, Registry.run, step_start ht]
  rfl

/-- Two tasks use a connection one after the other, the second one after it was displaced. Then it
is closed. -/
def relay : List (Input Nat Nat) :=
  [.start 0 (.replace "a" 10), .start 1 (.access "a"), .start 2 (.access "a"),
    .start 3 (.replace "a" 11), .leave 1 false, .resume 2, .leave 2 true, .resume 3, .closed 3 true]

end Registry

end Polystore
