import Polystore.Proofs.Text.Utf8
import Polystore.Proofs.Value.Normal

/-!
# Bytes become texts

Bytes have no kind of their own among normal values. They become the text that they spell, or, if
they spell none, their digits. Either text tells what the bytes were.

* `mem_hexBytes`: digits are lower-case;
* `Value.TellsBytes`: texts that tell which bytes they stand for;
* `normalizeAs_of_asBytes?`: no label keeps bytes;
* **`bytes_told`**: what becomes of bytes in cells and in documents.
-/

namespace Polystore

open Text

/-! ## Digits -/

namespace Text

/-- The digits of base sixteen. -/
def hexDigits : List Char := "0123456789abcdef".toList

theorem hexDigit_mem {n : Nat} (h : n < 16) : hexDigit n ∈ hexDigits := by
  have : ∀ m : Fin 16, hexDigit m.val ∈ hexDigits := by decide
  exact this ⟨n, h⟩

theorem mem_hexBytes {b : Bytes} {c : Char} (h : c ∈ hexBytes b) : c ∈ hexDigits := by
  obtain ⟨byte, -, hc⟩ := List.mem_flatMap.mp h
  have hlt : byte.toNat < 256 := byte.toNat_lt
  simp only [hexByte, List.mem_cons, List.not_mem_nil, or_false] at hc
  rcases hc with rfl | rfl
  · exact hexDigit_mem (by omega)
  · exact hexDigit_mem (by omega)

end Text

namespace Value

variable {v : Value} {b : Bytes} {label : String}

/-! ## Texts of bytes -/

/-- The text that bytes spell; or, if they spell none, two lower-case digits for each byte. -/
inductive TellsBytes (b : Bytes) : Value → Prop
  | text (s : String) : SpellsText b s.toList → TellsBytes b (.text s)
  | digits (s : String) : (∀ cs, ¬SpellsText b cs) → s.toList.length = 2 * b.length →
    (∀ c ∈ s.toList, c ∈ hexDigits) → readHexBytes? s.toList = some b → TellsBytes b (.text s)

theorem tellsBytes_bytesText (b : Bytes) : (Value.text (bytesText b)).TellsBytes b := by
  unfold bytesText
  cases h : decodeUtf8? b with
  | some s => exact .text s (decodeUtf8?_eq_some_iff_spellsText.mp h)
  | none =>
    refine .digits _ (decodeUtf8?_eq_none_iff.mp h) ?_ ?_ ?_ <;>
      rw [Option.getD_none, String.toList_ofList]
    · exact length_hexBytes b
    · exact fun c => mem_hexBytes
    · exact readHexBytes?_hexBytes b

theorem describe_of_asBytes? (h : v.asBytes? = some b) : v.describe label = bytesText b := by
  cases v with
  | bytes | binary => exact congrArg bytesText (Option.some.inj h)
  | _ => cases h

/-- No label keeps bytes. -/
theorem not_kept_of_asBytes? (h : v.asBytes? = some b) (w : Value) : ¬v.Kept label w := by
  intro hkept
  cases v with
  | bytes | binary =>
    cases hkept with
    | bool h => simp [AsBool, asInt?] at h
    | int h => simp [AsInt, asInt?] at h
    | float h => simp [AsFloat, toFloat?] at h
    | text _ hs => cases hs
  | _ => cases h

theorem normalizeAs_of_asBytes? (h : v.asBytes? = some b) :
    v.normalizeAs label = .text (bytesText b) := by
  rcases normalizeAs_cases label v with rfl | hkept | ⟨-, -, htext⟩
  · cases h
  · exact absurd hkept (not_kept_of_asBytes? h _)
  · rw [htext, describe_of_asBytes? h]

theorem normalizeDocumentValue_of_asBytes? (h : v.asBytes? = some b) :
    normalizeDocumentValue v = .text (bytesText b) := by
  cases v with
  | bytes | binary => exact congrArg Value.text (describe_of_asBytes? h)
  | _ => cases h

end Value

/-- **Bytes become texts that tell them**, whatever holds them: in a cell under any label, and in a
document. -/
theorem bytes_told (b : Bytes) (declared : Option String) :
    (∀ kind, (normalize (.bytes kind b) declared).TellsBytes b ∧
      (normalizeDocumentValue (.bytes kind b)).TellsBytes b) ∧
    ∀ subtype, (normalize (.binary b subtype) declared).TellsBytes b ∧
      (normalizeDocumentValue (.binary b subtype)).TellsBytes b := by
  have htold : ∀ v : Value, v.asBytes? = some b → (normalize v declared).TellsBytes b ∧
      (normalizeDocumentValue v).TellsBytes b := by
    intro v hv
    rw [normalize, Value.normalizeAs_of_asBytes? hv, Value.normalizeDocumentValue_of_asBytes? hv]
    exact ⟨Value.tellsBytes_bytesText b, Value.tellsBytes_bytesText b⟩
  exact ⟨fun kind => htold _ rfl, fun subtype => htold _ rfl⟩

end Polystore
