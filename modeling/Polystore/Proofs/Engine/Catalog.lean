import Mathlib.Data.List.Basic
import Polystore.Engine.Catalog
import Polystore.Proofs.Success

/-!
# What catalog rows tell

A row of a catalog is read cell by cell. What it tells is said of the cells; a row that tells
nothing is a fault.

* `CatalogRow`: name and type of a table or view;
* `PragmaRow`, `InformationRow`: a column, in the catalog of an embedded engine and in an
  information schema;
* **`catalogEntry_eq_ok_iff`**, **`pragmaColumn_eq_ok_iff`**, **`informationColumn_eq_ok_iff`**: the
  readers tell what the rows tell;
* `holds_eq_true_iff`, `entryKind_eq_view_iff`: words in a text.
-/

namespace Polystore

open Except

/-! ## Words in a text -/

theorem Text.holds_eq_true_iff {word cs : List Char} :
    Text.holds word cs = true ↔ word <:+: cs := by
  induction cs with
  | nil => simp [Text.holds]
  | cons c cs ih =>
    rw [Text.holds, Bool.or_eq_true, List.isPrefixOf_iff_prefix, ih, List.infix_cons_iff]

theorem entryKind_eq_view_iff {type : String} :
    entryKind type = "view" ↔ type = "view" ∨ "VIEW".toList <:+: type.toList := by
  rw [← Text.holds_eq_true_iff, entryKind]
  split <;> simp_all

theorem entryKind_eq (type : String) : entryKind type = "view" ∨ entryKind type = "table" := by
  unfold entryKind
  split
  · exact .inl rfl
  · exact .inr rfl

/-! ## Cells -/

/-- A cell has a text. -/
def Spelled (v : Value) (text : String) : Prop := v.plain? = some text

/-- A cell is null, or has a text. -/
inductive SpelledOrNull : Value → Option String → Prop
  | null : SpelledOrNull .null none
  | text {v : Value} {text : String} : v ≠ .null → Spelled v text → SpelledOrNull v (some text)

/-- A cell that stands for no has the empty text. -/
def SpelledIfTrue (v : Value) (text : String) : Prop :=
  if v.isTrue then Spelled v text else text = ""

/-- A cell has a rank; what stands for no has the rank zero. -/
def Ranked (v : Value) (rank : Int) : Prop :=
  if v.isTrue then v.toInteger = .ok rank else rank = 0

/-- There is a cell in a place, and something holds of it. -/
def CellAt (row : List Value) (i : Nat) (P : Value → Prop) : Prop := ∃ v, row[i]? = some v ∧ P v

variable {v : Value} {row : List Value} {i : Nat} {text : String} {P : Value → Prop}

theorem cell_eq_ok_iff : cell row i = .ok v ↔ row[i]? = some v := by
  unfold cell
  split <;> simp_all

theorem replyText_eq_ok_iff : replyText v = .ok text ↔ Spelled v text := by
  unfold replyText Spelled
  split <;> simp_all

theorem cellText_eq_ok_iff : cellText row i = .ok text ↔ CellAt row i (Spelled · text) := by
  simp only [cellText, bind_eq_ok_iff, cell_eq_ok_iff, replyText_eq_ok_iff, CellAt]

theorem typeText_eq_ok_iff : typeText v = .ok text ↔ SpelledIfTrue v text := by
  unfold typeText SpelledIfTrue
  split
  · exact replyText_eq_ok_iff
  · rw [Except.ok.injEq, eq_comm]

theorem keyRank_eq_ok_iff {rank : Int} : keyRank v = .ok rank ↔ Ranked v rank := by
  unfold keyRank Ranked
  split
  · exact mapError_eq_ok_iff
  · rw [Except.ok.injEq, eq_comm]

theorem spelledOrNull_null {text : Option String} : SpelledOrNull .null text ↔ text = none := by
  constructor
  · rintro (_ | ⟨h, -⟩)
    · rfl
    · exact absurd rfl h
  · rintro rfl
    exact .null

theorem spelledOrNull_of_ne_null (h : v ≠ .null) {text : Option String} :
    SpelledOrNull v text ↔ ∃ s, text = some s ∧ Spelled v s := by
  constructor
  · rintro (_ | ⟨-, hs⟩)
    · exact absurd rfl h
    · exact ⟨_, rfl, hs⟩
  · rintro ⟨s, rfl, hs⟩
    exact .text h hs

theorem nullableText_eq_ok_iff {text : Option String} :
    nullableText v = .ok text ↔ SpelledOrNull v text := by
  unfold nullableText
  split
  · rw [spelledOrNull_null, Except.ok.injEq, eq_comm]
  · rename_i hnull
    rw [spelledOrNull_of_ne_null hnull]
    cases htext : replyText v with
    | ok s => simp [Except.map, ← replyText_eq_ok_iff, htext, eq_comm]
    | error f => simp [Except.map, ← replyText_eq_ok_iff, htext]

theorem namesPrimaryKey_eq_ok_iff {b : Bool} : namesPrimaryKey v = .ok b ↔
    ∃ words, SpelledOrNull v words ∧
      (b = true ↔ ∃ text ∈ words, "PRIMARY KEY".toList <:+: text.toList) := by
  unfold namesPrimaryKey
  split
  · simp [spelledOrNull_null, eq_comm]
  · rename_i hnull
    simp only [spelledOrNull_of_ne_null hnull, bind_eq_ok_iff, replyText_eq_ok_iff]
    constructor
    · rintro ⟨s, hs, ⟨⟩⟩
      exact ⟨some s, ⟨s, rfl, hs⟩, by simp [Text.holds_eq_true_iff]⟩
    · rintro ⟨_, ⟨s, rfl, hs⟩, hb⟩
      refine ⟨s, hs, congrArg Except.ok (Bool.eq_iff_iff.mpr ?_)⟩
      rw [hb, Text.holds_eq_true_iff]
      simp

theorem matches_yes_iff : (v matches .text "YES") = true ↔ v = .text "YES" := by
  split <;> simp_all

/-! ## Rows -/

/-- Name and type of a table or view. -/
structure CatalogRow (row : List Value) (pair : String × String) : Prop where
  name : CellAt row 0 (Spelled · pair.1)
  type : CellAt row 1 (Spelled · pair.2)

/-- A column of an embedded engine. -/
structure PragmaRow (row : List Value) (info : ColumnInfo) : Prop where
  name : CellAt row 1 (Spelled · info.name)
  type : CellAt row 2 (SpelledIfTrue · info.type)
  nullable : CellAt row 3 fun v => info.nullable = !v.isTrue
  default : CellAt row 4 (SpelledOrNull · info.default)
  isPrimaryKey : CellAt row 5 fun v => ∃ rank, Ranked v rank ∧ (info.isPrimaryKey = true ↔ 0 < rank)
  reference : info.reference = none

/-- A column of an information schema. -/
structure InformationRow (row : List Value) (info : ColumnInfo) : Prop where
  name : CellAt row 0 (Spelled · info.name)
  type : CellAt row 1 (Spelled · info.type)
  nullable : CellAt row 2 fun v => info.nullable = true ↔ v = .text "YES"
  default : CellAt row 3 (SpelledOrNull · info.default)
  isPrimaryKey : CellAt row 4 fun v => ∃ words, SpelledOrNull v words ∧
    (info.isPrimaryKey = true ↔ ∃ text ∈ words, "PRIMARY KEY".toList <:+: text.toList)
  reference : info.reference = none

theorem catalogEntry_eq_ok_iff {pair : String × String} :
    catalogEntry row = .ok pair ↔ CatalogRow row pair := by
  simp only [catalogEntry, bind_eq_ok_iff, cellText_eq_ok_iff]
  constructor
  · rintro ⟨name, hname, type, htype, ⟨⟩⟩
    exact ⟨hname, htype⟩
  · rintro ⟨hname, htype⟩
    exact ⟨_, hname, _, htype, rfl⟩

theorem pragmaColumn_eq_ok_iff {info : ColumnInfo} :
    pragmaColumn row = .ok info ↔ PragmaRow row info := by
  simp only [pragmaColumn, bind_eq_ok_iff, cellText_eq_ok_iff, cell_eq_ok_iff, typeText_eq_ok_iff,
    nullableText_eq_ok_iff, keyRank_eq_ok_iff]
  constructor
  · rintro ⟨name, hname, type, htype, text, htext, forbidden, hforbidden, default, hdefault, shown,
      hshown, rank, hrank, n, hn, ⟨⟩⟩
    exact ⟨hname, ⟨type, htype, htext⟩, ⟨forbidden, hforbidden, rfl⟩, ⟨default, hdefault, hshown⟩,
      ⟨rank, hrank, n, hn, by simp⟩, rfl⟩
  · obtain ⟨name, type, nullable, default, isPrimaryKey, reference⟩ := info
    rintro ⟨hname, ⟨type, htype, htext⟩, ⟨forbidden, hforbidden, rfl⟩, ⟨default, hdefault, hshown⟩,
      ⟨rank, hrank, n, hn, hkey⟩, rfl⟩
    refine ⟨_, hname, type, htype, _, htext, forbidden, hforbidden, default, hdefault, _, hshown,
      rank, hrank, n, hn, ?_⟩
    obtain rfl : decide (0 < n) = isPrimaryKey := by
      rw [Bool.eq_iff_iff, decide_eq_true_iff]
      exact hkey.symm
    rfl

theorem informationColumn_eq_ok_iff {info : ColumnInfo} :
    informationColumn row = .ok info ↔ InformationRow row info := by
  simp only [informationColumn, bind_eq_ok_iff, cellText_eq_ok_iff, cell_eq_ok_iff,
    nullableText_eq_ok_iff, namesPrimaryKey_eq_ok_iff]
  constructor
  · rintro ⟨words, hwords, name, hname, type, htype, nullable, hnullable, default, hdefault, shown,
      hshown, b, hb, ⟨⟩⟩
    refine ⟨hname, htype, ⟨nullable, hnullable, ?_⟩, ⟨default, hdefault, hshown⟩,
      ⟨words, hwords, hb⟩, rfl⟩
    exact matches_yes_iff
  · obtain ⟨name, type, nullable, default, isPrimaryKey, reference⟩ := info
    rintro ⟨hname, htype, ⟨answer, hanswer, hnullable⟩, ⟨default, hdefault, hshown⟩,
      ⟨words, hwords, hkey⟩, rfl⟩
    refine ⟨words, hwords, _, hname, _, htype, answer, hanswer, default, hdefault, _, hshown,
      isPrimaryKey, hkey, ?_⟩
    obtain rfl := Bool.eq_iff_iff.mpr (matches_yes_iff.trans hnullable.symm)
    rfl

end Polystore
