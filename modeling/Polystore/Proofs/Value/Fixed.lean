import Polystore.Proofs.Table.Maps
import Polystore.Proofs.Value.Normal

/-!
# Normal forms are fixed

Whatever is normalized becomes a normal value, and normal values are left alone. So normalizing a
second time changes nothing. For a cell that holds under its label: the label keeps again what it
kept, and it keeps the texts that it gave to all other values.

* `isNormal_normalize`, `isNormal_normalizeDocumentValue`: the results are normal;
* `Value.Kept.again`, `normalizeAs_text`: what a label does to its own results;
* **`normalizeDocumentValue_eq_self_iff`**: the document values that are left alone are the normal
  ones;
* **`normalized_once`**: a second normalization changes nothing.
-/

namespace Polystore

/-! ## Results are normal -/

theorem Value.Kept.isNormal {label : String} {v w : Value} (h : v.Kept label w) : w.IsNormal := by
  cases h with
  | bool => exact .bool _
  | int h => exact .int _ (by simpa [isInt64] using h.2.2)
  | float h => exact .float _ h.2.2
  | text => exact .text _

theorem isNormal_normalize (v : Value) (declared : Option String) :
    (normalize v declared).IsNormal := by
  unfold normalize
  rcases Value.normalizeAs_cases (canonicalLabel declared) v with rfl | hkept | ⟨-, -, htext⟩
  · exact .null
  · exact hkept.isNormal
  · rw [htext]
    exact .text _

mutual

theorem isNormal_normalizeDocumentValue (v : Value) : (normalizeDocumentValue v).IsNormal := by
  match v with
  | .null => exact .null
  | .bool b => exact .bool b
  | .int n => exact isNormal_normalize _ _
  | .int64 n => exact isNormal_normalize _ _
  | .float x => exact isNormal_normalize _ _
  | .list items => exact .list _ (isNormal_normalizeItems items)
  | .tuple items => exact .list _ (isNormal_normalizeItems items)
  | .map entries =>
    exact .map _ (OrderedMap.nodup_keys_ofList _) fun entry he =>
      isNormal_normalizeEntries entries entry (OrderedMap.mem_of_mem_ofList he)
  | .text _ | .decimal _ | .bytes .. | .date _ | .time _ | .dateTime _ | .duration _ | .uuid _
  | .address _ | .unprintable _ | .decimal128 _ | .objectId _ | .binary .. | .milliseconds _
  | .regex .. | .timestamp .. | .code .. | .dbRef .. | .minKey | .maxKey => exact .text _
termination_by structural v

theorem isNormal_normalizeItems (items : List Value) : ∀ w ∈ normalizeItems items, w.IsNormal := by
  match items with
  | [] => exact fun _ hw => absurd hw List.not_mem_nil
  | v :: rest =>
    exact List.forall_mem_cons.mpr ⟨isNormal_normalizeDocumentValue v, isNormal_normalizeItems rest⟩
termination_by structural items

theorem isNormal_normalizeEntries (entries : List (Value × Value)) :
    ∀ entry ∈ normalizeEntries entries, entry.2.IsNormal := by
  match entries with
  | [] => exact fun _ he => absurd he List.not_mem_nil
  | (k, v) :: rest =>
    exact List.forall_mem_cons.mpr
      ⟨isNormal_normalizeDocumentValue v, isNormal_normalizeEntries rest⟩
termination_by structural entries

end

/-! ## Cells -/

namespace Value

variable {v w : Value} {label : String}

/-- What a label keeps of a value it keeps again. -/
theorem Kept.again (h : v.Kept label w) : w.Kept label w := by
  cases h with
  | bool h => exact .bool ⟨h.1, .inl rfl⟩
  | int h => exact .int ⟨h.1, rfl, h.2.2⟩
  | float h => exact .float ⟨h.1, rfl, h.2.2⟩
  | text hl => exact .text hl rfl

/-- Texts are left alone under every label. -/
theorem normalizeAs_text (label s : String) : (Value.text s).normalizeAs label = .text s := by
  rcases normalizeAs_cases label (.text s) with hnull | hkept | ⟨-, -, htext⟩
  · cases hnull
  · generalize (Value.text s).normalizeAs label = w at hkept ⊢
    cases hkept with
    | bool h => simp [AsBool, asInt?] at h
    | int h => simp [AsInt, asInt?] at h
    | float h => simp [AsFloat, toFloat?] at h
    | text _ hs => exact congrArg Value.text (Option.some.inj hs).symm
  · exact htext

theorem normalizeAs_normalizeAs (label : String) (v : Value) :
    (v.normalizeAs label).normalizeAs label = v.normalizeAs label := by
  rcases normalizeAs_cases label v with rfl | hkept | ⟨-, -, htext⟩
  · rfl
  · exact hkept.again.normalizeAs
  · rw [htext, normalizeAs_text]

end Value

/-! ## Document values -/

variable {v w : Value}

/-- A value without parts has the normal form that it stands for. -/
theorem normalizeDocumentValue_of_ownForm? (h : v.ownForm? = some w) :
    normalizeDocumentValue v = w := by
  have hleaf : v.isNested = false := by
    cases v <;> first | rfl | cases h
  have hmirrors := Value.mirrors_leaf hleaf
  generalize normalizeDocumentValue v = u at hmirrors
  cases hmirrors with
  | own hu => exact Option.some.inj (hu.symm.trans h)
  | text _ hnone => exact absurd (hnone.symm.trans h) (by simp)
  | list | tuple | map => cases hleaf

/-- A value without parts that stands for no normal value becomes a text. -/
theorem exists_text_of_ownForm? (hleaf : v.isNested = false) (h : v.ownForm? = none) :
    ∃ s, normalizeDocumentValue v = .text s := by
  have hmirrors := Value.mirrors_leaf hleaf
  generalize normalizeDocumentValue v = u at hmirrors
  cases hmirrors with
  | own hu => exact absurd (h.symm.trans hu) (by simp)
  | text => exact ⟨_, rfl⟩
  | list | tuple | map => cases hleaf

/-- Normal values are left alone. -/
theorem normalizeDocumentValue_of_isNormal (h : v.IsNormal) : normalizeDocumentValue v = v := by
  induction h with
  | null | bool | text => rfl
  | int n h => exact normalizeDocumentValue_of_ownForm? (if_pos h)
  | float x h => exact normalizeDocumentValue_of_ownForm? (if_pos h)
  | list items _ ih =>
    rw [normalizeDocumentValue, normalizeItems_eq_map, List.map_congr_left ih, List.map_id']
  | map fields distinct _ ih =>
    have hfields : normalFields fields = fields :=
      (List.map_congr_left fun entry he => by rw [ih entry he]).trans (List.map_id' _)
    rw [normalizeDocumentValue_ofFields distinct, hfields]

/-- **The document values that are left alone are the normal ones.** -/
theorem normalizeDocumentValue_eq_self_iff : normalizeDocumentValue v = v ↔ v.IsNormal :=
  ⟨fun h => h ▸ isNormal_normalizeDocumentValue v, normalizeDocumentValue_of_isNormal⟩

/-- **Normalizing twice is normalizing once**, for cells under any label and for document values. -/
theorem normalized_once :
    (∀ (v : Value) (declared : Option String),
      normalize (normalize v declared) declared = normalize v declared) ∧
    ∀ v : Value, normalizeDocumentValue (normalizeDocumentValue v) = normalizeDocumentValue v :=
  ⟨fun v declared => Value.normalizeAs_normalizeAs (canonicalLabel declared) v,
    fun v => normalizeDocumentValue_of_isNormal (isNormal_normalizeDocumentValue v)⟩

end Polystore
