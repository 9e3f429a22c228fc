import Polystore.Hub
import Polystore.Proofs.Native.Ensures

/-!
# Runs of the hub

A run of the hub is a list of actions, one after another, against a responder. Each step of a run
remembers the hub before and after, the result and what happened.

* `Action`, `Hub.act`;
* `Step`, `Hub.run`;
* **`Hub.run_rule`**: what every action preserves holds along a run.
-/

namespace Polystore

/-- What can be asked of the hub. -/
inductive Action
  | connect (d : Descriptor)
  | disconnect (id : String)
  | closeAll
  | query (id text : String)
  | schema (id : String)
  | define (id text : String)
  | readKey (id key : String)
  | listKeys (id : String) (pattern : Option String)

def Action.Answer : Action → Type
  | .query .. => QueryResult
  | .schema _ => List SchemaEntry
  | .readKey .. => Table
  | .listKeys .. => List KeyInfo
  | _ => Unit

/-- One action of a run. -/
structure Step where
  before : Hub
  action : Action
  result : Except Failure action.Answer
  trace : List Happening
  after : Hub

namespace Hub

def act : (a : Action) → HubCommand a.Answer
  | .connect d => connect d
  | .disconnect id => disconnect id
  | .closeAll => closeAll
  | .query id text => query id text
  | .schema id => schema id
  | .define id text => define id text
  | .readKey id key => readKey id key
  | .listKeys id pattern => listKeys id pattern

variable {σ : Type}

/-- A hub starts with an empty history of the size in its settings, unless this is too large. -/
theorem start_none_eq_ok_iff {settings : Settings} {h : Hub} : start settings none = .ok h ↔
    settings.historySize ≤ History.maxCapacity ∧
      h = ⟨settings, .empty, .empty settings.historySize, 0⟩ := by
  by_cases hsize : (settings.historySize : Int) ≤ History.maxCapacity
  · have hof : History.ofSize settings.historySize = .ok (.empty settings.historySize) := by
      unfold History.maxCapacity at hsize
      rw [History.ofSize, History.maxCapacity, if_neg (by omega), if_neg (by omega)]
      rfl
    simp only [start, hof, hsize, true_and]
    exact ⟨fun h => (Except.ok.inj h).symm, fun h => h ▸ rfl⟩
  · have hof : History.ofSize settings.historySize = .error .huge :=
      if_pos (.inl (Int.not_le.mp hsize))
    simp only [start, hof, hsize, false_and, iff_false]
    exact nofun

/-- The steps of actions, one after another. -/
def run (responder : Responder σ) (state : σ) (h : Hub) : List Action → List Step
  | [] => []
  | a :: rest =>
    let r := (act a h).run responder state
    ⟨h, a, r.result.1, r.trace, r.result.2⟩ :: run responder r.state r.result.2 rest

/-- **What every action preserves holds along a run**: `P` speaks of the steps so far and of the hub
behind them, and `Q` of one step and the steps before it. -/
theorem run_rule {responder : Responder σ} {P : List Step → Hub → Prop}
    {Q : List Step → Step → Prop}
    (hact : ∀ past h a, P past h → (act a h).Ensures fun trace r =>
      Q past ⟨h, a, r.1, trace, r.2⟩ ∧ P (past ++ [⟨h, a, r.1, trace, r.2⟩]) r.2)
    {state : σ} {h : Hub} {actions : List Action} {made past rest : List Step} {s : Step}
    (hP : P made h) (hrun : run responder state h actions = past ++ s :: rest) :
    Q (made ++ past) s := by
  induction actions generalizing state h made past with
  | nil => simp [run] at hrun
  | cons a actions ih =>
    obtain ⟨hQ, hnext⟩ := (hact made h a hP).run responder state
    cases past with
    | nil =>
      obtain ⟨rfl, -⟩ := List.cons.inj hrun
      rwa [List.append_nil]
    | cons first past =>
      obtain ⟨rfl, hrest⟩ := List.cons.inj hrun
      have := ih hnext hrest
      rwa [List.append_assoc] at this

end Hub

end Polystore
