import Mathlib.Data.List.DropRight
import Polystore.Proofs.Cli.Program
import Polystore.Proofs.Engine.Content
import Polystore.Proofs.Export.Ending
import Polystore.Proofs.Export.Insert
import Polystore.Proofs.Export.Json

/-!
# The output of the program

The program takes the line feeds off the end of a text and adds one. It does so with the export of a
table too, and no character of the last record is lost.

* `Csv.exists_cellText`, `Table.exists_mapM`: what can be done with writable cells;
* `Cli.printed_of_unfed`, `Cli.printed_line`: texts without a line feed at the end, and with one;
* `Cli.wholeOutput`, `Cli.printed_of_ends`: what is shown of an export;
* `Cli.exists_shown`: tables of writable cells are shown in every format;
* `Cli.Obtains`: the tables that the program comes by;
* **`Cli.output_whole`**: the output for a table.
-/

namespace Polystore

/-! ## Writable cells -/

theorem Csv.exists_cellText {v : Value} (h : v.IsWritable) : ∃ cs, cellText v = .ok cs := by
  cases h with
  | null | bool | float | text => exact ⟨_, rfl⟩
  | int n h =>
    have htext : Number.integerText? n = some (Number.integerText n) := if_pos h
    refine ⟨(Number.integerText n).toList, ?_⟩
    unfold cellText
    dsimp only
    rw [htext]
  | list items h =>
    obtain ⟨cs, hcs, -⟩ := (Value.IsWritable.list items h).isSpelled cellLayout 0
    exact ⟨cs, congrArg (Except.mapError Fault.json) hcs⟩
  | map fields hdistinct h =>
    obtain ⟨cs, hcs, -⟩ := (Value.IsWritable.map fields hdistinct h).isSpelled cellLayout 0
    exact ⟨cs, congrArg (Except.mapError Fault.json) hcs⟩

/-- What can be done with each writable cell can be done with all cells of a table. -/
theorem Table.exists_mapM {α : Type} {t : Table} {f : Value → Except Fault α}
    (h : t.IsWritable) (hf : ∀ v : Value, v.IsWritable → ∃ x, f v = .ok x) :
    ∃ results, t.rows.mapM (·.mapM f) = .ok results := by
  have hrows : ∀ row ∈ t.rows, ∃ xs, row.mapM f = .ok xs := by
    intro row hrow
    obtain ⟨xs, hxs⟩ := List.exists_forall₂ fun v hv => hf v (h row hrow v hv)
    exact ⟨xs, Except.mapM_eq_ok_iff.mpr hxs⟩
  obtain ⟨results, hall⟩ := List.exists_forall₂ hrows
  exact ⟨results, Except.mapM_eq_ok_iff.mpr hall⟩

namespace Cli

open Text

/-! ## Texts as they are shown -/

section

variable {cs : List Char}

theorem printed_of_ne_nil (hne : cs ≠ []) :
    printed (String.ofList cs) = String.ofList (cs.rdropWhile (· == '\n') ++ ['\n']) := by
  rw [printed, if_neg (by simpa using hne), String.toList_ofList, List.rdropWhile]

theorem rdropWhile_of_unfed (h : Unfed cs) : cs.rdropWhile (· == '\n') = cs := by
  refine List.rdropWhile_eq_self_iff.mpr fun hne hlast => h ?_
  rw [List.getLast?_eq_some_getLast hne, beq_iff_eq.mp hlast]

/-- A text without a line feed at the end gets one. -/
theorem printed_of_unfed (hne : cs ≠ []) (h : Unfed cs) :
    printed (String.ofList cs) = String.ofList cs ++ "\n" := by
  rw [printed_of_ne_nil hne, rdropWhile_of_unfed h, String.ofList_append]

/-- A text with a single line feed at the end keeps it. -/
theorem printed_line (h : Unfed cs) :
    printed (String.ofList (cs ++ ['\n'])) = String.ofList (cs ++ ['\n']) := by
  rw [printed_of_ne_nil (by simp), List.rdropWhile_concat_pos _ _ _ rfl, rdropWhile_of_unfed h]

/-- What is shown of an export: the text itself, or the text and a line feed. -/
def wholeOutput : ExportFormat → String → String
  | .csv, text => text
  | .json, text => text ++ "\n"
  | .sql, text => if text = "" then "" else text ++ "\n"

theorem printed_of_ends {f : ExportFormat} (h : f.Ends cs) :
    printed (String.ofList cs) = wholeOutput f (String.ofList cs) := by
  cases f with
  | csv =>
    rcases h with rfl | ⟨front, rfl, hfront⟩
    · rfl
    · exact printed_line hfront
  | json => exact printed_of_unfed h.1 h.2
  | sql =>
    by_cases hnone : cs = []
    · subst hnone
      rfl
    · rw [wholeOutput, if_neg (by simpa using hnone), printed_of_unfed hnone h]

end

/-! ## Tables as they are shown -/

variable {a : Arguments} {t : Table} {text : String}

theorem shown_eq_ok_iff : a.shown t = .ok text ↔
    ∃ cs, t.exportAs a.exportOptions a.output = .ok cs ∧ String.ofList cs = text := by
  have hname : ExportFormat.ofName? a.output.name = some a.output := by
    cases a.output <;> rfl
  rw [Arguments.shown, Table.exported, hname]
  dsimp only
  rw [Except.mapError_eq_ok_iff]
  cases t.exportAs a.exportOptions a.output <;> simp [Except.map]

theorem printed_of_shown (hwide : t.columns ≠ [] ∨ t.rows = []) (h : a.shown t = .ok text) :
    printed text = wholeOutput a.output text := by
  obtain ⟨cs, hcs, rfl⟩ := shown_eq_ok_iff.mp h
  have hfeed : a.exportOptions.delimiter ≠ "\n" := (by decide : "," ≠ "\n")
  exact printed_of_ends (Table.ends_exportAs hfeed hwide hcs)

/-- Tables of writable cells are shown in every format. -/
theorem exists_shown (a : Arguments) (h : t.IsWritable) : ∃ text, a.shown t = .ok text := by
  rw [Arguments.shown]
  cases a.output with
  | csv =>
    obtain ⟨texts, htexts⟩ := Table.exists_mapM h fun v => Csv.exists_cellText
    have hcsv : t.toCsv a.headers ',' = .ok _ := Except.bind_eq_ok_iff.mpr ⟨texts, htexts, rfl⟩
    have hexport : t.exportAs a.exportOptions .csv = t.toCsv a.headers ',' := by
      simp [Table.exportAs, Arguments.exportOptions, ExportOptions.default]
    exact ⟨_, congrArg (fun out => (out.map String.ofList).mapError Failure.fault)
      (hexport.trans hcsv)⟩
  | json =>
    obtain ⟨out, hout, -⟩ := Table.recounts_exported h a.exportOptions
    exact ⟨out, hout⟩
  | sql =>
    have hregular := Sql.regular_of a.dialect
    obtain ⟨literals, hliterals⟩ := Table.exists_mapM h fun v hv => by
      obtain ⟨p, hp⟩ := Sql.exists_tells hregular hv
      exact ⟨p.1, hp.made⟩
    have hpath : Sql.readTable (.of a.dialect) "exported_data" = .ok _ :=
      Sql.readTable_word hregular (by decide) (by decide)
    exact ⟨_, Table.exported_sql a.dialect hliterals hpath a.headers ","⟩

/-! ## Runs -/

section

variable {σ α : Type} {responder : Responder σ} {state : σ} {hub : Hub}

/-- Connect and run a command; nothing is closed. -/
def reach (a : Arguments) (command : HubCommand α) (hub : Hub) : Dialogue (Except Failure α) := do
  match ← hub.connect a.descriptor with
  | (.error f, _) => return .error f
  | (.ok (), hub) => return (← command hub).1

/-- The tables that the program comes by: of the answer to a command, and of what a key holds. -/
inductive Obtains (responder : Responder σ) (state : σ) (a : Arguments) (hub : Hub) : Table → Prop
  | command {result : QueryResult} : a.mode = .ask .command →
      ((reach a (Hub.query connectionId a.command) hub).run responder state).result = .ok result →
      Obtains responder state a hub result.table
  | value {key : String} {t : Table} : a.mode = .ask (.value key) →
      ((reach a (Hub.readKey connectionId key) hub).run responder state).result = .ok t →
      Obtains responder state a hub t

theorem result_reach_showing {command : HubCommand α} {f : α → Except Failure String} :
    ((reach a (showing command f) hub).run responder state).result =
      ((reach a command hub).run responder state).result.bind f := by
  simp only [reach, Dialogue.run_bind]
  generalize (Hub.connect a.descriptor hub).run responder state = connecting
  obtain ⟨⟨result, connected⟩, state', trace⟩ := connecting
  cases result with
  | error f => rfl
  | ok x =>
    simp only [Dialogue.run_bind, showing]
    rfl

/-- A table that the program comes by is shown. -/
theorem Obtains.result_attempt (h : Obtains responder state a hub t) :
    ∃ q, a.mode = .ask q ∧ ((attempt a q hub).run responder state).result = a.shown t := by
  cases h with
  | @command result hmode hresult =>
    refine ⟨.command, hmode, ?_⟩
    have hanswer : attempt a .command hub = reach a (showing (Hub.query connectionId a.command)
        fun result => a.shown result.table) hub := rfl
    rw [hanswer, result_reach_showing, hresult]
    rfl
  | @value key t hmode hresult =>
    refine ⟨.value key, hmode, ?_⟩
    have hanswer : attempt a (.value key) hub =
        reach a (showing (Hub.readKey connectionId key) a.shown) hub := rfl
    rw [hanswer, result_reach_showing, hresult]
    rfl

end

/-- **The program shows the export of a table whole**, whatever its cells hold. Only rows without
cells, whose records are blank lines, are not covered. -/
theorem output_whole (hwide : t.columns ≠ [] ∨ t.rows = []) :
    (∀ text, a.shown t = .ok text → printed text = wholeOutput a.output text) ∧
    (t.IsWritable → ∃ text, a.shown t = .ok text) ∧
    ∀ {σ : Type} (responder : Responder σ) (state : σ) (source : SettingsSource)
      (given : List String) (least : Nat) (hub : Hub) (text : String),
      Arguments.read given = .ok a → prepared source = .ok (least, hub) →
      Obtains responder state a hub t → a.shown t = .ok text →
      ∃ notes, (run responder state source given).result =
        .ok ⟨0, wholeOutput a.output text, notes⟩ := by
  refine ⟨fun text => printed_of_shown hwide, exists_shown a, ?_⟩
  intro σ responder state source given least hub text hread hprepared hobtains hshown
  obtain ⟨q, hmode, hresult⟩ := hobtains.result_attempt
  refine ⟨shownNotes least ((askEngine a q hub).run responder state).trace, ?_⟩
  rw [run_of_prepared hread hmode responder state hprepared, ← printed_of_shown hwide hshown]
  simp only [result_askEngine, hresult, hshown]
  rfl

/-- A store with a set whose only member is empty. -/
def blankMember : Responder Unit where
  reply state c :=
    match c with
    | ⟨_, .redis (.client _)⟩ => (.ok (), state)
    | ⟨_, .redis .ping⟩ => (.ok (.bool true), state)
    | ⟨_, .redis (.typeOf _)⟩ => (.ok (.text "set"), state)
    | ⟨_, .redis (.read .set _)⟩ => (.ok (.list [.text ""]), state)
    | ⟨_, .redis .close⟩ => (.ok (), state)
    | _ => (.error ⟨.system, "boom"⟩, state)

/-- The question for it, without the names of columns. -/
def blankQuestion : Arguments :=
  ⟨"redis", "localhost", none, "", "", none, false, .csv, false, .ask (.value "k"), ""⟩

/-- Between quotes the empty member leaves no blank line behind. -/
theorem output_whole_blank :
    let given := ["--type", "redis", "--get", "k", "--no-headers"]
    let t : Table := ⟨[⟨"member", "String"⟩], [[.text ""]], by decide⟩
    (t.columns ≠ [] ∨ t.rows = []) ∧ t.IsWritable ∧ Arguments.read given = .ok blankQuestion ∧
      prepared .missing = .ok (30, ⟨.default, .empty, .empty 500, 0⟩) ∧
      Obtains blankMember () blankQuestion ⟨.default, .empty, .empty 500, 0⟩ t ∧
      blankQuestion.shown t = .ok "\"\"\n" ∧
      ∃ notes, (run blankMember () .missing given).result = .ok ⟨0, "\"\"\n", notes⟩ := by
  intro given t
  have hwide : t.columns ≠ [] ∨ t.rows = [] := .inl (by simp [t])
  have hwritable : t.IsWritable := by simp [t, Table.IsWritable, Value.IsWritable.text]
  have hread : Arguments.read given = .ok blankQuestion := rfl
  have hprepared : prepared .missing = .ok (30, ⟨.default, .empty, .empty 500, 0⟩) := rfl
  have hreply : ((reach blankQuestion (Hub.readKey connectionId "k")
      ⟨.default, .empty, .empty 500, 0⟩).run blankMember ()).result =
        .ok ⟨[⟨"member", "String"⟩], [[Redis.storedText (.text "")]], by simp⟩ := rfl
  simp only [Redis.storedText_text] at hreply
  have hobtains : Obtains blankMember () blankQuestion ⟨.default, .empty, .empty 500, 0⟩ t :=
    .value rfl hreply
  have hshown : blankQuestion.shown t = .ok "\"\"\n" := by decide +kernel
  exact ⟨hwide, hwritable, hread, hprepared, hobtains, hshown,
    (output_whole hwide).2.2 blankMember () .missing given 30 _ _ hread hprepared hobtains hshown⟩

end Cli

end Polystore
