import Mathlib.Tactic.SplitIfs
import Polystore.ExtendedJson
import Polystore.Proofs.Json.Made

/-!
# The objects of extended JSON

An object that is read stands for a value of another kind, or for itself. In the latter case its
fields are named by texts.

* `ExtendedJson.Named`: values that are no maps, and maps with texts as keys;
* `ExtendedJson.named_of_ofMark?`: what an object with a mark stands for, kind by kind;
* **`ExtendedJson.named_of_read`**.
-/

namespace Polystore.ExtendedJson

open Text

variable {fields : Fields} {v w : Value}

/-- If a value is a map, its keys are texts. -/
def Named (v : Value) : Prop := ∀ entries, v = .map entries → ∃ own : Fields, v = .ofFields own

theorem named_ofFields (fields : Fields) : Named (.ofFields fields) := fun _ _ => ⟨fields, rfl⟩

/-- A value of another kind is no map. -/
theorem named_of_ne (h : ∀ entries, v ≠ .map entries) : Named v :=
  fun entries hv => absurd hv (h entries)

/-- What is made by a constructor of another kind is no map. -/
theorem named_of_map {α : Type} {x? : Option α} {make : α → Value}
    (hmake : ∀ a entries, make a ≠ .map entries) (h : x?.map make = some v) : Named v := by
  obtain ⟨a, -, rfl⟩ := Option.map_eq_some_iff.mp h
  exact named_of_ne (hmake a)

/-! ## The kinds of values -/

theorem named_of_objectId? (h : objectId? w = some v) : Named v := by
  unfold objectId? at h
  split at h
  · cases h
    exact named_of_ne (by simp)
  · obtain ⟨b, -, h⟩ := Option.bind_eq_some_iff.mp h
    split_ifs at h
    cases h
    exact named_of_ne (by simp)

theorem named_of_date? (h : date? w = some v) : Named v := by
  unfold date? at h
  split at h
  · exact named_of_map (by simp) h
  · exact named_of_map (by simp) h

theorem named_of_regex? (h : regex? fields = some v) : Named v := by
  unfold regex? at h
  split at h
  · cases h
    exact named_ofFields fields
  · exact named_of_map (by simp) h

theorem named_of_regularExpression? (h : regularExpression? w = some v) : Named v := by
  unfold regularExpression? at h
  split at h
  · obtain ⟨pattern, -, h⟩ := Option.bind_eq_some_iff.mp h
    obtain ⟨options, -, h⟩ := Option.bind_eq_some_iff.mp h
    split_ifs at h
    exact named_of_regex? h
  · cases h

theorem named_of_bytes? {b : Bytes} {subtype : Int} (h : bytes? b subtype = some v) : Named v := by
  unfold bytes? at h
  split_ifs at h
  all_goals
    cases h
    exact named_of_ne (by simp)

theorem named_of_binary? (h : binary? fields = some v) : Named v := by
  obtain ⟨marked, -, h⟩ := Option.bind_eq_some_iff.mp h
  split at h
  · obtain ⟨subtype, -, h⟩ := Option.bind_eq_some_iff.mp h
    obtain ⟨text, -, h⟩ := Option.bind_eq_some_iff.mp h
    obtain ⟨b, -, h⟩ := Option.bind_eq_some_iff.mp h
    exact named_of_bytes? h
  · split at h
    · obtain ⟨base, -, h⟩ := Option.bind_eq_some_iff.mp h
      obtain ⟨text, -, h⟩ := Option.bind_eq_some_iff.mp h
      obtain ⟨kind, -, h⟩ := Option.bind_eq_some_iff.mp h
      obtain ⟨digits, -, h⟩ := Option.bind_eq_some_iff.mp h
      split_ifs at h
      obtain ⟨b, -, h⟩ := Option.bind_eq_some_iff.mp h
      obtain ⟨subtype, -, h⟩ := Option.bind_eq_some_iff.mp h
      exact named_of_bytes? h
    · cases h

theorem named_of_code? (h : code? fields = some v) : Named v := by
  obtain ⟨marked, -, h⟩ := Option.bind_eq_some_iff.mp h
  obtain ⟨s, -, h⟩ := Option.bind_eq_some_iff.mp h
  dsimp only at h
  split_ifs at h
  split at h
  case h_5 => cases h
  all_goals
    cases h
    exact named_of_ne (by simp)

theorem named_of_uuid? (h : uuid? w = some v) : Named v := by
  unfold uuid? at h
  split at h
  · obtain ⟨n, -, h⟩ := Option.bind_eq_some_iff.mp h
    split_ifs at h
    exact named_of_map (by simp) h
  · cases h

theorem named_of_timestamp? (h : timestamp? w = some v) : Named v := by
  unfold timestamp? at h
  split at h
  · obtain ⟨t, -, h⟩ := Option.bind_eq_some_iff.mp h
    obtain ⟨seconds, -, h⟩ := Option.bind_eq_some_iff.mp h
    obtain ⟨i, -, h⟩ := Option.bind_eq_some_iff.mp h
    obtain ⟨increment, -, h⟩ := Option.bind_eq_some_iff.mp h
    cases h
    exact named_of_ne (by simp)
  · cases h

theorem named_of_reference? (h : reference? fields = some v) : Named v := by
  unfold reference? at h
  dsimp only at h
  split at h
  case h_4 =>
    cases h
    exact named_ofFields fields
  all_goals
    split_ifs at h
    cases h
    exact named_of_ne (by simp)

theorem named_of_pointer? (h : pointer? w = some v) : Named v := by
  unfold pointer? at h
  split at h
  · cases h
    exact named_of_ne (by simp)
  · cases h

/-! ## Objects -/

/-- Whatever a marked object stands for, it is named. -/
theorem named_of_ofMark? {mark : Mark} (h : ofMark? fields w mark = some v) : Named v := by
  unfold ofMark? at h
  split at h
  · exact named_of_reference? h
  · exact named_of_regex? h
  · exact named_of_binary? h
  · exact named_of_code? h
  · cases h
    exact named_of_ne (by simp)
  · split at h
    · cases h
    cases mark with
    | oid => exact named_of_objectId? h
    | date => exact named_of_date? h
    | uuid => exact named_of_uuid? h
    | timestamp => exact named_of_timestamp? h
    | dbPointer => exact named_of_pointer? h
    | regularExpression => exact named_of_regularExpression? h
    | numberLong | symbol => exact named_of_map (by simp) h
    | numberInt | numberDouble =>
      obtain ⟨s, -, h⟩ := Option.bind_eq_some_iff.mp h
      exact named_of_map (by simp) h
    | numberDecimal =>
      obtain ⟨s, -, h⟩ := Option.bind_eq_some_iff.mp h
      obtain ⟨d, -, h⟩ := Option.bind_eq_some_iff.mp h
      exact named_of_map (by simp) h
    | minKey | maxKey =>
      dsimp only at h
      split_ifs at h
      cases h
      exact named_of_ne (by simp)
    | ref | regex | binary | code | undefined => cases h

theorem named_of_number? {isFloat : Bool} {lexeme : List Char}
    (h : number? isFloat lexeme = some v) : Named v := by
  unfold number? at h
  split at h
  · exact named_of_map (by simp) h
  · exact named_of_map (by simp) h

theorem named_of_convert? (h : convert? fields = some v) : Named v := by
  unfold convert? at h
  split at h
  · exact named_of_ofMark? h
  · cases h
    exact named_ofFields fields

/-- No text at all is no JSON. -/
theorem read_nil : read [] = .error (.misplaced ⟨.value, 0⟩) := rfl

/-- **A map that is read has texts as keys.** -/
theorem named_of_read {source : List Char} (h : read source = .ok v) : Named v := by
  cases Json.makes_of_read h with
  | null | bool | text | list => exact named_of_ne (by simp [builder])
  | @number isFloat lexeme _ h =>
    cases hn : number? isFloat lexeme with
    | none => simp [builder, hn] at h
    | some n =>
      have hv : v = n := by simpa [builder, hn] using h.symm
      exact named_of_number? (hv ▸ hn)
  | @object members _ h =>
    cases hc : convert? (OrderedMap.ofList members) with
    | none => simp [builder, hc] at h
    | some x =>
      have hv : v = x := by simpa [builder, hc] using h.symm
      exact named_of_convert? (hv ▸ hc)

end Polystore.ExtendedJson
