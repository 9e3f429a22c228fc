import Polystore.Proofs.Value.Fixed

/-!
# Labels of document fields

The label of a field is read off its normal form, and yet it tells what the field was: the kinds
that keep their shape have labels of their own, and so have integers of 64 bits and finite floats.
All other values became texts.

* `documentLabel_of_asInt?`, `documentLabel_float`: the two kinds whose label depends on the value;
* **`documentLabel_tells`**: which values have which label.
-/

namespace Polystore

namespace Value

/-- An integer is labelled as one if it has 64 bits. -/
theorem documentLabel_of_asInt? {v : Value} {n : Int} (h : v.asInt? = some n) :
    (normalizeDocumentValue v).documentLabel = if isInt64 n then "Int64" else "String" := by
  have hown : v.isNested = false ∧ v.ownForm? = if isInt64 n then some (.int n) else none := by
    cases v <;> cases h <;> exact ⟨rfl, rfl⟩
  split_ifs at hown ⊢ with hn
  · rw [normalizeDocumentValue_of_ownForm? hown.2]
    rfl
  · obtain ⟨s, hs⟩ := exists_text_of_ownForm? hown.1 hown.2
    rw [hs]
    rfl

/-- A float is labelled as one if it is finite. -/
theorem documentLabel_float (x : Number.Binary64) :
    (normalizeDocumentValue (.float x)).documentLabel =
      if x.isFinite then "Double" else "String" := by
  have hown : (Value.float x).ownForm? = if x.isFinite then some (.float x) else none := rfl
  split_ifs at hown ⊢ with hx
  · rw [normalizeDocumentValue_of_ownForm? hown]
    rfl
  · obtain ⟨s, hs⟩ := exists_text_of_ownForm? rfl hown
    rw [hs]
    rfl

/-- A value with a label of its own: null, a truth value, an integer of 64 bits, a finite float, or
a value with parts. -/
def HasOwnLabel (v : Value) : Prop :=
  v = .null ∨ (∃ b, v = .bool b) ∨ (∃ n, v.asInt? = some n ∧ minInt64 ≤ n ∧ n ≤ maxInt64) ∨
    (∃ x, v = .float x ∧ x.isFinite = true) ∨ (∃ items, v = .list items ∨ v = .tuple items) ∨
    ∃ entries, v = .map entries

end Value

open Value in
/-- **The label of a field tells what the field was.** -/
theorem documentLabel_tells (v : Value) :
    ((normalizeDocumentValue v).documentLabel = "Null" ↔ v = .null) ∧
    ((normalizeDocumentValue v).documentLabel = "Boolean" ↔ ∃ b, v = .bool b) ∧
    ((normalizeDocumentValue v).documentLabel = "Int64" ↔
      ∃ n, v.asInt? = some n ∧ minInt64 ≤ n ∧ n ≤ maxInt64) ∧
    ((normalizeDocumentValue v).documentLabel = "Double" ↔
      ∃ x, v = .float x ∧ x.isFinite = true) ∧
    ((normalizeDocumentValue v).documentLabel = "Array" ↔
      ∃ items, v = .list items ∨ v = .tuple items) ∧
    ((normalizeDocumentValue v).documentLabel = "Document" ↔ ∃ entries, v = .map entries) ∧
    ((normalizeDocumentValue v).documentLabel = "String" ↔ ¬v.HasOwnLabel) := by
  unfold HasOwnLabel
  cases v with
  | int n | int64 n =>
    rw [documentLabel_of_asInt? rfl]
    split_ifs with hn <;> simpa [asInt?, isInt64] using hn
  | float x =>
    rw [documentLabel_float]
    split_ifs with hx <;> simp [asInt?, hx]
  | _ => simp [normalizeDocumentValue, documentLabel, ofFields, asInt?]

end Polystore
