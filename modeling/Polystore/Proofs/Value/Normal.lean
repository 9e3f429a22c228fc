import Mathlib.Data.List.Forall2
import Polystore.Value.Normal

/-!
# What normal forms look like

The normal form of a cell keeps its kind if the family of its label holds the value, and is a text
if not. The normal form of a document value is a tree of normal values in the same shape.

* `Value.AsBool`, `Value.AsInt`, `Value.AsFloat`: what a label keeps, and as which value;
* `keep?_eq_some_iff`: a family keeps just that;
* `Value.TextKeyed`: values whose maps have texts as keys;
* `Value.Mirrors`: a tree of normal values in the shape of another tree;
* `mirrors_normalizeDocumentValue`: the normal form of a document value is such a tree;
* **`normalize_spec`**: all that for cells and for document values.
-/

namespace Polystore

open Number

namespace Value

/-! ## What a label keeps -/

/-- A value is a truth value for a label of truth values: it is one, or it is zero or one. -/
def AsBool (label : String) (v : Value) (b : Bool) : Prop :=
  label ∈ TypeFamily.booleanLabels ∧ (v = .bool b ∨ v.asInt? = some (if b then 1 else 0))

/-- A value is an integer of 64 bits for a label of integers. -/
def AsInt (label : String) (v : Value) (n : Int) : Prop :=
  label ∈ TypeFamily.integerLabels ∧ v.asInt? = some n ∧ minInt64 ≤ n ∧ n ≤ maxInt64

/-- The float that a number is converted to, if the conversion succeeds. -/
def toFloat? : Value → Option Binary64
  | .int n => Binary64.ofInt? n
  | .int64 n => Binary64.ofInt? n
  | .float x => some x
  | .decimal d => d.toFloat?
  | _ => none

/-- A value is a finite float for a label of floats. -/
def AsFloat (label : String) (v : Value) (x : Binary64) : Prop :=
  label ∈ TypeFamily.floatLabels ∧ v.toFloat? = some x ∧ x.isFinite = true

variable {v w : Value} {label : String}

theorem toFiniteFloat?_eq_some_iff {x : Binary64} :
    v.toFiniteFloat? = some x ↔ v.toFloat? = some x ∧ x.isFinite = true := by
  cases v with
  | int n | int64 n =>
    simp only [toFiniteFloat?, toFloat?]
    exact ⟨fun h => ⟨h, Binary64.isFinite_of_ofInt? h⟩, And.left⟩
  | float y =>
    simp only [toFiniteFloat?, toFloat?, Option.ite_none_right_eq_some, Option.some.injEq]
    constructor
    · rintro ⟨hy, rfl⟩
      exact ⟨rfl, hy⟩
    · rintro ⟨rfl, hy⟩
      exact ⟨hy, rfl⟩
  | decimal d => simp [toFiniteFloat?, toFloat?, Option.filter_eq_some_iff]
  | _ => simp [toFiniteFloat?, toFloat?]

end Value

namespace TypeFamily

variable {label : String}

theorem ofLabel_eq_boolean_iff : ofLabel label = .boolean ↔ label ∈ booleanLabels := by
  unfold ofLabel
  split_ifs with hb
  · exact iff_of_true rfl hb
  all_goals exact iff_of_false (by simp) hb

theorem ofLabel_eq_integer_iff : ofLabel label = .integer ↔ label ∈ integerLabels := by
  have hdisjoint : ∀ l ∈ integerLabels, l ∉ booleanLabels := by decide
  unfold ofLabel
  split_ifs with hb hi
  · exact iff_of_false (by simp) fun hi => hdisjoint label hi hb
  · exact iff_of_true rfl hi
  all_goals exact iff_of_false (by simp) hi

theorem ofLabel_eq_float_iff : ofLabel label = .float ↔ label ∈ floatLabels := by
  have hdisjoint : ∀ l ∈ floatLabels, l ∉ booleanLabels ∧ l ∉ integerLabels := by decide
  unfold ofLabel
  split_ifs with hb hi hf
  · exact iff_of_false (by simp) fun hf => (hdisjoint label hf).1 hb
  · exact iff_of_false (by simp) fun hf => (hdisjoint label hf).2 hi
  · exact iff_of_true rfl hf
  all_goals exact iff_of_false (by simp) hf

theorem ofLabel_eq_text_iff : ofLabel label = .text ↔ label ∈ textLabels := by
  have hdisjoint : ∀ l ∈ textLabels, l ∉ booleanLabels ∧ l ∉ integerLabels ∧ l ∉ floatLabels := by
    decide
  unfold ofLabel
  split_ifs with hb hi hf ht
  · exact iff_of_false (by simp) fun ht => (hdisjoint label ht).1 hb
  · exact iff_of_false (by simp) fun ht => (hdisjoint label ht).2.1 hi
  · exact iff_of_false (by simp) fun ht => (hdisjoint label ht).2.2 hf
  · exact iff_of_true rfl ht
  · exact iff_of_false (by simp) ht

end TypeFamily

namespace Value

variable {v w : Value} {label : String}

/-! ## Cells -/

/-- What a label keeps of a value. -/
inductive Kept (label : String) (v : Value) : Value → Prop
  | bool {b : Bool} : v.AsBool label b → Kept label v (.bool b)
  | int {n : Int} : v.AsInt label n → Kept label v (.int n)
  | float {x : Binary64} : v.AsFloat label x → Kept label v (.float x)
  | text {s : String} : label ∈ TypeFamily.textLabels → v.asText? = some s → Kept label v (.text s)

theorem Kept.keep? (h : v.Kept label w) : keep? (.ofLabel label) v = some w := by
  cases h with
  | @bool b h =>
    rw [TypeFamily.ofLabel_eq_boolean_iff.mpr h.1]
    rcases h.2 with rfl | hn
    · rfl
    · cases v <;> cases b <;> simp_all [Value.keep?, asInt?]
  | int h =>
    rw [TypeFamily.ofLabel_eq_integer_iff.mpr h.1]
    simp [Value.keep?, isInt64, h.2.1, h.2.2]
  | float h =>
    rw [TypeFamily.ofLabel_eq_float_iff.mpr h.1]
    simp [Value.keep?, toFiniteFloat?_eq_some_iff.mpr h.2]
  | text hl hs =>
    rw [TypeFamily.ofLabel_eq_text_iff.mpr hl]
    simp [Value.keep?, hs]

theorem kept_of_keep? (h : keep? (.ofLabel label) v = some w) : v.Kept label w := by
  cases hf : TypeFamily.ofLabel label with
  | boolean =>
    rw [hf] at h
    have hl := TypeFamily.ofLabel_eq_boolean_iff.mp hf
    by_cases hv : ∃ b, v = .bool b
    · obtain ⟨b, rfl⟩ := hv
      obtain rfl := Option.some.inj h
      exact .bool ⟨hl, .inl rfl⟩
    · rw [keep?.eq_2 v fun b hb => hv ⟨b, hb⟩] at h
      split at h
      · rename_i hn
        obtain rfl := Option.some.inj h
        exact .bool ⟨hl, .inr hn⟩
      · rename_i hn
        obtain rfl := Option.some.inj h
        exact .bool ⟨hl, .inr hn⟩
      · simp at h
  | integer =>
    rw [hf] at h
    have hl := TypeFamily.ofLabel_eq_integer_iff.mp hf
    simp only [Value.keep?] at h
    split at h
    · rename_i n hn
      obtain ⟨hint, hw⟩ := Option.ite_none_right_eq_some.mp h
      obtain rfl := Option.some.inj hw
      exact .int ⟨hl, hn, by simpa [isInt64] using hint⟩
    · simp at h
  | float =>
    rw [hf] at h
    obtain ⟨x, hx, rfl⟩ := Option.map_eq_some_iff.mp h
    exact .float ⟨TypeFamily.ofLabel_eq_float_iff.mp hf, toFiniteFloat?_eq_some_iff.mp hx⟩
  | text =>
    rw [hf] at h
    obtain ⟨s, hs, rfl⟩ := Option.map_eq_some_iff.mp h
    exact .text (TypeFamily.ofLabel_eq_text_iff.mp hf) hs
  | other =>
    rw [hf] at h
    simp [Value.keep?] at h

/-- **A label keeps just what its family holds.** -/
theorem keep?_eq_some_iff : keep? (.ofLabel label) v = some w ↔ v.Kept label w :=
  ⟨kept_of_keep?, Kept.keep?⟩

@[simp] theorem normalizeAs_null : normalizeAs label .null = .null := rfl

theorem normalizeAs_of_ne (h : v ≠ .null) :
    v.normalizeAs label = (keep? (.ofLabel label) v).getD (.text (v.describe label)) := by
  cases v <;> first | rfl | exact absurd rfl h

theorem Kept.ne_null (h : v.Kept label w) : v ≠ .null := by
  rintro rfl
  cases h with
  | bool h => simpa [asInt?] using h.2
  | int h => simpa [asInt?] using h.2
  | float h => simpa [toFloat?] using h.2
  | text _ hs => simp [asText?] at hs

theorem Kept.normalizeAs (h : v.Kept label w) : v.normalizeAs label = w := by
  rw [normalizeAs_of_ne h.ne_null, keep?_eq_some_iff.mpr h, Option.getD_some]

/-- A cell is null, what its label keeps of it, or a text. -/
theorem normalizeAs_cases (label : String) (v : Value) :
    v = .null ∨ v.Kept label (v.normalizeAs label) ∨
      (v ≠ .null ∧ (∀ w, ¬ v.Kept label w) ∧ v.normalizeAs label = .text (v.describe label)) := by
  by_cases hnull : v = .null
  · exact .inl hnull
  · cases hkeep : keep? (.ofLabel label) v with
    | some w =>
      have hkept := keep?_eq_some_iff.mp hkeep
      exact .inr (.inl (hkept.normalizeAs.symm ▸ hkept))
    | none =>
      refine .inr (.inr ⟨hnull, fun w hw => ?_, ?_⟩)
      · rw [keep?_eq_some_iff.mpr hw] at hkeep
        cases hkeep
      · rw [normalizeAs_of_ne hnull, hkeep, Option.getD_none]

theorem normalizeAs_eq_null_iff : v.normalizeAs label = .null ↔ v = .null := by
  refine ⟨fun h => ?_, fun h => by rw [h, normalizeAs_null]⟩
  rcases normalizeAs_cases label v with hv | hv | ⟨-, -, hv⟩
  · exact hv
  · rw [h] at hv
    cases hv
  · rw [h] at hv
    cases hv

/-- A cell that is neither null nor a text was kept. -/
theorem normalizeAs_eq_iff_kept (hnull : w ≠ .null) (htext : ∀ s, w ≠ .text s) :
    v.normalizeAs label = w ↔ v.Kept label w := by
  refine ⟨fun h => ?_, Kept.normalizeAs⟩
  rcases normalizeAs_cases label v with rfl | hv | ⟨-, -, hv⟩
  · exact absurd (h.symm.trans normalizeAs_null) hnull
  · exact h ▸ hv
  · exact absurd (h.symm.trans hv) (htext _)

theorem normalizeAs_eq_bool_iff {b : Bool} :
    v.normalizeAs label = .bool b ↔ v.AsBool label b :=
  (normalizeAs_eq_iff_kept (by simp) (by simp)).trans ⟨fun | .bool h => h, .bool⟩

theorem normalizeAs_eq_int_iff {n : Int} : v.normalizeAs label = .int n ↔ v.AsInt label n :=
  (normalizeAs_eq_iff_kept (by simp) (by simp)).trans ⟨fun | .int h => h, .int⟩

theorem normalizeAs_eq_float_iff {x : Binary64} :
    v.normalizeAs label = .float x ↔ v.AsFloat label x :=
  (normalizeAs_eq_iff_kept (by simp) (by simp)).trans ⟨fun | .float h => h, .float⟩

theorem describe_of_asText? {s : String} (h : v.asText? = some s) : v.describe label = s := by
  cases v with
  | text | code => exact Option.some.inj h
  | _ => cases h

/-- A cell becomes a text just if it can become nothing else. -/
theorem normalizeAs_eq_text_iff {s : String} : v.normalizeAs label = .text s ↔
    s = v.describe label ∧ v ≠ .null ∧ (¬ ∃ b, v.AsBool label b) ∧ (¬ ∃ n, v.AsInt label n) ∧
      ¬ ∃ x, v.AsFloat label x := by
  rw [ne_eq, ← @normalizeAs_eq_null_iff v label]
  simp only [← normalizeAs_eq_bool_iff, ← normalizeAs_eq_int_iff, ← normalizeAs_eq_float_iff]
  constructor
  · intro hs
    refine ⟨?_, by simp [hs]⟩
    rcases normalizeAs_cases label v with rfl | hv | ⟨-, -, hv⟩
    · cases hs
    · rw [hs] at hv
      cases hv with | text _ ht => exact (describe_of_asText? ht).symm
    · exact Value.text.inj (hs.symm.trans hv)
  · rintro ⟨rfl, hnull, hbool, hint, hfloat⟩
    rcases normalizeAs_cases label v with rfl | hv | ⟨-, -, hv⟩
    · exact absurd normalizeAs_null hnull
    · generalize v.normalizeAs label = w at hv hbool hint hfloat
      cases hv with
      | bool => exact absurd ⟨_, rfl⟩ hbool
      | int => exact absurd ⟨_, rfl⟩ hint
      | float => exact absurd ⟨_, rfl⟩ hfloat
      | text _ ht => rw [describe_of_asText? ht]
    · exact hv

/-! ## Document values -/

/-- Values with parts. -/
def isNested : Value → Bool
  | .list _ => true
  | .tuple _ => true
  | .map _ => true
  | _ => false

/-- Values all of whose maps have texts as keys, each key once. -/
inductive TextKeyed : Value → Prop
  | leaf {v : Value} (h : v.isNested = false) : TextKeyed v
  | list {items : List Value} (h : ∀ v ∈ items, TextKeyed v) : TextKeyed (.list items)
  | tuple {items : List Value} (h : ∀ v ∈ items, TextKeyed v) : TextKeyed (.tuple items)
  | map {fields : OrderedMap String Value} (distinct : (OrderedMap.keys fields).Nodup)
      (h : ∀ entry ∈ fields, TextKeyed entry.2) : TextKeyed (.ofFields fields)

/-- The normal value that a value without parts stands for, if it has one besides its text. -/
def ownForm? : Value → Option Value
  | .null => some .null
  | .bool b => some (.bool b)
  | .int n => if isInt64 n then some (.int n) else none
  | .int64 n => if isInt64 n then some (.int n) else none
  | .float x => if x.isFinite then some (.float x) else none
  | .text s => some (.text s)
  | _ => none

/-- A tree of normal values has the shape of another tree: lists have as many items, maps the same
keys in the same order, what has a normal form of its own has it, and other leaves have texts. -/
inductive Mirrors : Value → Value → Prop
  | own {v w : Value} (h : v.ownForm? = some w) : Mirrors v w
  | text {v : Value} {label : String} (leaf : v.isNested = false) (h : v.ownForm? = none) :
      Mirrors v (.text (v.describe label))
  | list {items outs : List Value} (hlength : items.length = outs.length)
      (h : ∀ pair ∈ items.zip outs, Mirrors pair.1 pair.2) : Mirrors (.list items) (.list outs)
  | tuple {items outs : List Value} (hlength : items.length = outs.length)
      (h : ∀ pair ∈ items.zip outs, Mirrors pair.1 pair.2) : Mirrors (.tuple items) (.list outs)
  | map {fields outs : OrderedMap String Value} (distinct : (OrderedMap.keys fields).Nodup)
      (hkeys : OrderedMap.keys fields = OrderedMap.keys outs)
      (h : ∀ pair ∈ fields.zip outs, Mirrors pair.1.2 pair.2.2) :
      Mirrors (.ofFields fields) (.ofFields outs)

theorem isNormal_of_ownForm? (h : v.ownForm? = some w) : w.IsNormal := by
  cases v <;> simp only [ownForm?, Option.ite_none_right_eq_some, Option.some.injEq,
    reduceCtorEq] at h
  case null => exact h ▸ .null
  case bool b => exact h ▸ .bool b
  case int n => exact h.2 ▸ .int n h.1
  case int64 n => exact h.2 ▸ .int n h.1
  case float x => exact h.2 ▸ .float x h.1
  case text s => exact h ▸ .text s

/-- What stands in the second of two lists of one length stands next to something. -/
theorem exists_mem_zip {α β : Type} {l : List α} {m : List β} (h : l.length = m.length) {b : β}
    (hb : b ∈ m) : ∃ a, (a, b) ∈ l.zip m := by
  have hsnd : (l.zip m).map Prod.snd = m := List.map_snd_zip (Nat.le_of_eq h.symm)
  rw [← hsnd] at hb
  obtain ⟨⟨a, b⟩, hm, rfl⟩ := List.mem_map.mp hb
  exact ⟨a, hm⟩

theorem mem_zip_map {α β : Type} {l : List α} {f : α → β} {pair : α × β}
    (h : pair ∈ l.zip (l.map f)) : pair.1 ∈ l ∧ pair.2 = f pair.1 := by
  have hzip : l.zip (l.map f) = l.map fun a => (a, f a) := by
    simpa using List.zip_map' (f := id) (g := f) (l := l)
  rw [hzip] at h
  obtain ⟨a, ha, rfl⟩ := List.mem_map.mp h
  exact ⟨ha, rfl⟩

theorem Mirrors.isNormal (h : Mirrors v w) : w.IsNormal := by
  induction h with
  | own h => exact isNormal_of_ownForm? h
  | text => exact .text _
  | list hlength _ ih =>
    refine .list _ fun w hw => ?_
    obtain ⟨v, hpair⟩ := exists_mem_zip hlength hw
    exact ih _ hpair
  | tuple hlength _ ih =>
    refine .list _ fun w hw => ?_
    obtain ⟨v, hpair⟩ := exists_mem_zip hlength hw
    exact ih _ hpair
  | @map fields outs distinct hkeys _ ih =>
    refine .map _ (hkeys ▸ distinct) fun entry he => ?_
    have hlength : fields.length = outs.length := by
      simpa [OrderedMap.keys] using congrArg List.length hkeys
    obtain ⟨field, hpair⟩ := exists_mem_zip hlength he
    exact ih _ hpair

end Value

/-- The fields of a document with their values in normal form. -/
def normalFields (fields : List (String × Value)) : List (String × Value) :=
  fields.map fun entry => (entry.1, normalizeDocumentValue entry.2)

theorem keys_normalFields (fields : List (String × Value)) :
    OrderedMap.keys (normalFields fields) = OrderedMap.keys fields := by
  simp [OrderedMap.keys, normalFields, Function.comp_def]

theorem normalizeItems_eq_map (items : List Value) :
    normalizeItems items = items.map normalizeDocumentValue := by
  induction items with
  | nil => rfl
  | cons v rest ih => rw [normalizeItems, ih, List.map_cons]

theorem normalizeEntries_text (fields : List (String × Value)) :
    normalizeEntries (fields.map fun entry => (.text entry.1, entry.2)) = normalFields fields := by
  induction fields with
  | nil => rfl
  | cons entry rest ih =>
    rw [List.map_cons, normalizeEntries, ih]
    rfl

/-- The fields of a document keep their order. -/
theorem normalizeDocument_text {fields : OrderedMap String Value}
    (h : (OrderedMap.keys fields).Nodup) :
    normalizeDocument (fields.map fun entry => (.text entry.1, entry.2)) = normalFields fields := by
  rw [normalizeDocument, normalizeEntries_text]
  exact OrderedMap.ofList_eq_self (keys_normalFields fields ▸ h)

/-- A map with texts as keys keeps them in their order. -/
theorem normalizeDocumentValue_ofFields {fields : OrderedMap String Value}
    (h : (OrderedMap.keys fields).Nodup) :
    normalizeDocumentValue (.ofFields fields) = .ofFields (normalFields fields) := by
  rw [Value.ofFields, normalizeDocumentValue, ← normalizeDocument, normalizeDocument_text h]

theorem canonicalLabel_bigint : canonicalLabel (some "BIGINT") = "BIGINT" := by decide +kernel

theorem canonicalLabel_double : canonicalLabel (some "DOUBLE") = "DOUBLE" := by decide +kernel

namespace Value

variable {v : Value}

/-- An integer of a document keeps its value as far as it has 64 bits. -/
theorem mirrors_integer {n : Int} (hleaf : v.isNested = false) (hn : v.asInt? = some n)
    (hown : v.ownForm? = if isInt64 n then some (.int n) else none) :
    v.Mirrors (normalize v (some "BIGINT")) := by
  have hkeep : keep? (.ofLabel "BIGINT") v = v.ownForm? := by
    have : TypeFamily.ofLabel "BIGINT" = .integer := by decide
    rw [this, hown, keep?, hn]
  have hnull : v ≠ .null := by
    rintro rfl
    cases hn
  rw [normalize, canonicalLabel_bigint, normalizeAs_of_ne hnull, hkeep]
  cases h : v.ownForm? with
  | some w => exact .own h
  | none => exact .text hleaf h

theorem mirrors_float (x : Binary64) :
    (Value.float x).Mirrors (normalize (.float x) (some "DOUBLE")) := by
  have hkeep : keep? (.ofLabel "DOUBLE") (.float x) = (Value.float x).ownForm? := by
    have : TypeFamily.ofLabel "DOUBLE" = .float := by decide
    rw [this, keep?, toFiniteFloat?, ownForm?]
    split <;> rfl
  rw [normalize, canonicalLabel_double, normalizeAs_of_ne (by simp), hkeep]
  cases h : (Value.float x).ownForm? with
  | some w => exact .own h
  | none => exact .text rfl h

theorem mirrors_leaf (h : v.isNested = false) : v.Mirrors (normalizeDocumentValue v) := by
  cases v with
  | int n => exact mirrors_integer rfl rfl rfl
  | int64 n => exact mirrors_integer rfl rfl rfl
  | float x => exact mirrors_float x
  | null => exact .own rfl
  | bool b => exact .own rfl
  | text s => exact .own rfl
  | list | tuple | map => cases h
  | _ => exact .text rfl rfl

/-- **Document values keep their shape.** -/
theorem mirrors_normalizeDocumentValue (h : v.TextKeyed) :
    v.Mirrors (normalizeDocumentValue v) := by
  induction h with
  | leaf h => exact mirrors_leaf h
  | list _ ih =>
    rw [normalizeDocumentValue, normalizeItems_eq_map]
    refine .list (by simp) fun pair hpair => ?_
    obtain ⟨hmem, hsnd⟩ := mem_zip_map hpair
    exact hsnd ▸ ih _ hmem
  | tuple _ ih =>
    rw [normalizeDocumentValue, normalizeItems_eq_map]
    refine .tuple (by simp) fun pair hpair => ?_
    obtain ⟨hmem, hsnd⟩ := mem_zip_map hpair
    exact hsnd ▸ ih _ hmem
  | @map fields distinct _ ih =>
    rw [normalizeDocumentValue_ofFields distinct]
    refine .map distinct (keys_normalFields fields).symm fun pair hpair => ?_
    obtain ⟨hmem, hsnd⟩ := mem_zip_map hpair
    exact hsnd ▸ ih _ hmem

end Value

/-- **What normal forms look like.** A cell is null just if it was, and keeps its kind just if its
label holds the value; otherwise it is a text. A document value whose maps have texts as keys is
normal at every depth, in the shape that it had. -/
theorem normalize_spec :
    (∀ (v : Value) (declared : Option String),
      (normalize v declared = .null ↔ v = .null) ∧
      (∀ b, normalize v declared = .bool b ↔ v.AsBool (canonicalLabel declared) b) ∧
      (∀ n, normalize v declared = .int n ↔ v.AsInt (canonicalLabel declared) n) ∧
      (∀ x, normalize v declared = .float x ↔ v.AsFloat (canonicalLabel declared) x) ∧
      (∀ s, normalize v declared = .text s ↔
        s = v.describe (canonicalLabel declared) ∧ v ≠ .null ∧
        (¬ ∃ b, v.AsBool (canonicalLabel declared) b) ∧
        (¬ ∃ n, v.AsInt (canonicalLabel declared) n) ∧
        ¬ ∃ x, v.AsFloat (canonicalLabel declared) x)) ∧
    ∀ v : Value, v.TextKeyed →
      (normalizeDocumentValue v).IsNormal ∧ v.Mirrors (normalizeDocumentValue v) := by
  refine ⟨fun v declared => ⟨Value.normalizeAs_eq_null_iff, fun _ => Value.normalizeAs_eq_bool_iff,
    fun _ => Value.normalizeAs_eq_int_iff, fun _ => Value.normalizeAs_eq_float_iff,
    fun _ => Value.normalizeAs_eq_text_iff⟩, fun v hv => ?_⟩
  have hmirrors := Value.mirrors_normalizeDocumentValue hv
  exact ⟨hmirrors.isNormal, hmirrors⟩

/-- A truth value given as an integer; and a document with an integer of more than 64 bits and a
value without a text inside. -/
theorem normalize_spec_document :
    normalize (.int 1) (some "bool") = .bool true ∧
    (normalizeDocumentValue (.ofFields [("a", .list [.int 1, .int 9223372036854775808]),
      ("b", .ofFields [("c", .tuple [.unprintable "Foreign"])])])).IsNormal := by
  refine ⟨((normalize_spec.1 _ _).2.1 true).mpr ⟨by decide +kernel, .inr rfl⟩,
    (normalize_spec.2 _ (.map (by decide) fun entry he => ?_)).1⟩
  simp only [List.mem_cons, List.not_mem_nil, or_false] at he
  rcases he with rfl | rfl
  · refine .list fun v hv => .leaf ?_
    simp only [List.mem_cons, List.not_mem_nil, or_false] at hv
    rcases hv with rfl | rfl <;> rfl
  · refine .map (by decide) fun entry he => ?_
    obtain rfl := List.mem_singleton.mp he
    refine .tuple fun v hv => .leaf ?_
    obtain rfl := List.mem_singleton.mp hv
    rfl

end Polystore
