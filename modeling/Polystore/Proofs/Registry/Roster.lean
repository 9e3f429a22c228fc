import Polystore.Proofs.Registry.Answered
import Polystore.Proofs.Registry.Mirror

/-!
# The map of identifiers

The map of a registry is the one that the starts of tasks made, in the same order. Nothing that a
task does later changes it.

* `Event.displaces`, `Chronicle.get?_roster_of_registered`: what is registered stays on the map
  until a start takes it off;
* `Registry.roster_chronicle`: what is seen of a run makes the same map as its starts;
* **`Registry.ids_reached`**: the identifiers in the order that the starts gave them.
-/

set_option linter.unusedSectionVars false

namespace Polystore

variable {τ κ : Type}

/-! ## Chronicles -/

/-- Whether an event takes the connection of an identifier off the map. -/
def Event.displaces (id : String) : Event τ κ → Prop
  | .started _ (.replace i _) => i = id
  | .started _ (.remove i) => i = id
  | .started _ .closeAll => True
  | _ => False

namespace Chronicle

variable {h es : List (Event τ κ)} {e : Event τ κ} {m : OrderedMap String κ} {id : String} {c : κ}

theorem get?_enlist_of_not_displaces (he : ¬e.displaces id) :
    OrderedMap.get? (e.enlist m) id = OrderedMap.get? m id := by
  cases e with
  | started t op =>
    cases op with
    | access => rfl
    | replace i c =>
      rw [Event.enlist, OrderedMap.get?_insert]
      exact if_neg he
    | remove i =>
      rw [Event.enlist, OrderedMap.get?_erase]
      exact if_neg he
    | closeAll => exact absurd trivial he
  | _ => rfl

theorem get?_foldl_enlist (hes : ∀ e ∈ es, ¬e.displaces id) :
    OrderedMap.get? (es.foldl Event.enlist m) id = OrderedMap.get? m id := by
  induction es generalizing m with
  | nil => rfl
  | cons e es ih =>
    rw [List.foldl_cons, ih fun e' he' => hes e' (List.mem_cons_of_mem _ he'),
      get?_enlist_of_not_displaces (hes e List.mem_cons_self)]

/-- What is registered stays on the map until a start takes it off. -/
theorem get?_roster_of_registered {t : τ} (hes : ∀ e ∈ es, ¬e.displaces id) :
    OrderedMap.get? (roster (h ++ .started t (.replace id c) :: es)) id = some c := by
  rw [roster_append, List.foldl_cons, get?_foldl_enlist hes, Event.enlist, OrderedMap.get?_insert,
    if_pos rfl]

/-- The map starts anew when all is taken off it. -/
theorem roster_of_closeAll {t : τ} : roster (h ++ .started t .closeAll :: es) = roster es := by
  rw [roster_append, List.foldl_cons]
  rfl

end Chronicle

namespace Registry

open Chronicle

variable [DecidableEq τ] {inputs : List (Input τ κ)}

/-! ## Registries -/

theorem enlist_of_operation? {e : Event τ κ} (he : e.operation? = none)
    (m : OrderedMap String κ) : e.enlist m = m := by
  cases e with
  | started t op => cases he
  | _ => rfl

/-- What is seen of a step changes the map as the task does that is started, if there is one. -/
theorem foldl_enlist_step (r : Registry τ κ) (input : Input τ κ) (m : OrderedMap String κ) :
    (r.step input).2.foldl Event.enlist m = (r.launch? input).toList.foldl Operation.change m := by
  have hanswer : ∀ m, (r.answer input).2.toList.foldl Event.enlist m = m := by
    intro m
    have hnone := operation?_answer r input
    cases he : (r.answer input).2 with
    | none => rfl
    | some e =>
      rw [he] at hnone
      exact enlist_of_operation? hnone m
  rw [step, List.foldl_append, hanswer]
  cases input with
  | start t op =>
    cases ht : r.stage? t with
    | none =>
      simp only [notice, launch?, ht]
      cases op <;> rfl
    | some s => simp [notice, launch?, ht]
  | leave t raised | closed t raised =>
    simp only [notice, launch?]
    split <;> rfl
  | resume t | cancel t => rfl

/-- The map of the chronicle is the one that the starts make. -/
theorem roster_chronicle (inputs : List (Input τ κ)) :
    roster (chronicle inputs) = (empty.launched inputs).foldl Operation.change [] := by
  have main : ∀ (r : Registry τ κ) (m : OrderedMap String κ),
      (r.run inputs).2.foldl Event.enlist m = (r.launched inputs).foldl Operation.change m := by
    induction inputs with
    | nil => exact fun _ _ => rfl
    | cons input inputs ih =>
      intro r m
      rw [run, launched, List.foldl_append, List.foldl_append, foldl_enlist_step, ih]
  exact main empty []

/-- **The identifiers are those that the starts made, in their order.** -/
theorem ids_reached (inputs : List (Input τ κ)) :
    (reached inputs).ids = OrderedMap.keys (roster (chronicle inputs)) := by
  rw [roster_chronicle]
  exact (mirrors_reached inputs).ids

end Registry

end Polystore
