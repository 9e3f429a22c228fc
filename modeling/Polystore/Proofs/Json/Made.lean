import Polystore.Json.Reader
import Polystore.Proofs.Success

/-!
# What a builder makes of a text

The value of a text is made by the builder, from a scalar or from the complete parts of a list or an
object. What holds of everything that the builder makes holds of whatever is read.

* `Json.Builder.Makes`;
* **`Json.makes_of_read`**.
-/

namespace Polystore.Json

open Text

variable {ε α : Type} {b : Builder ε α} {v : α}

/-- The values that a builder makes. -/
inductive Builder.Makes (b : Builder ε α) : α → Prop
  | null : Makes b b.null
  | bool (x : Bool) : Makes b (b.bool x)
  | number {isFloat : Bool} {lexeme : List Char} {v : α} (h : b.number isFloat lexeme = .ok v) :
      Makes b v
  | text (s : String) : Makes b (b.text s)
  | list (items : List α) : Makes b (b.list items)
  | object {members : List (String × α)} {v : α} (h : b.object members = .ok v) : Makes b v

theorem makes_of_readScalar {c c' : Cursor} (h : readScalar b c = .ok (v, c')) : b.Makes v := by
  unfold readScalar at h
  split at h
  · cases h
    exact .null
  · cases h
    exact .bool true
  · cases h
    exact .bool false
  · split at h
    · obtain ⟨w, hw, hv⟩ := Except.bind_eq_ok_iff.mp h
      cases hv
      exact .number (Except.mapError_eq_ok_iff.mp hw)
    · split at h
      · obtain ⟨w, hw, hv⟩ := Except.bind_eq_ok_iff.mp h
        cases hv
        exact .number (Except.mapError_eq_ok_iff.mp hw)
      · cases h

theorem makes_of_readValue {fuel : Nat} {c c' : Cursor}
    (h : readValue b fuel c = .ok (v, c')) : b.Makes v := by
  cases fuel with
  | zero => simp [readValue] at h
  | succ fuel =>
    unfold readValue at h
    split at h
    · obtain ⟨⟨s, c⟩, -, hv⟩ := Except.bind_eq_ok_iff.mp h
      cases hv
      exact .text s
    · dsimp only at h
      split at h
      · cases h
        exact .list []
      · obtain ⟨⟨items, c⟩, -, hv⟩ := Except.bind_eq_ok_iff.mp h
        cases hv
        exact .list items
    · dsimp only at h
      split at h
      all_goals
        obtain ⟨⟨members, c⟩, -, hv⟩ := Except.bind_eq_ok_iff.mp h
        obtain ⟨w, hw, hv⟩ := Except.bind_eq_ok_iff.mp hv
        cases hv
        exact .object (Except.mapError_eq_ok_iff.mp hw)
    · exact makes_of_readScalar h

/-- **What is read is made by the builder.** -/
theorem makes_of_read {source : List Char} (h : read b source = .ok v) : b.Makes v := by
  unfold read at h
  split at h
  · cases h
  · obtain ⟨⟨w, c⟩, hw, hv⟩ := Except.bind_eq_ok_iff.mp h
    dsimp only at hv
    split at hv
    · cases hv
      exact makes_of_readValue hw
    · cases hv

end Polystore.Json
