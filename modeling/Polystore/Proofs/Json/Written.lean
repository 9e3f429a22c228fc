import Polystore.Proofs.Json.NumberText
import Polystore.Proofs.Success
import Polystore.Proofs.Value.Normal

/-!
# What is written is JSON

Every value that JSON has a text for is written, and its text belongs to the grammar: it spells the
tree of the value. This holds for all layouts, so for texts on one line or on many, with characters
outside the ASCII range as they are or escaped.

* `Text.readHex?_hexPadded`: four digits of a code unit read back;
* `Json.spellsString_stringText`: strings;
* `Json.spells_enclose_items`, `Json.spells_enclose_members`: brackets with parts between them;
* `Value.tree`, `Value.IsWritable`: what JSON says of a value, and which values have a text;
* **`Value.IsWritable.isSpelled`**.
-/

namespace Polystore

open Number Text Json

/-! ## Strings -/

namespace Text

variable {n : Nat}

/-- One digit of base sixteen behind a number. -/
def readHexStep (acc : Option Nat) (c : Char) : Option Nat := do
  return 16 * (← acc) + (← hexDigit? c)

theorem readHex?_of_ne_nil {cs : List Char} (h : cs ≠ []) :
    readHex? cs = cs.foldl readHexStep (some 0) := by
  cases cs with
  | nil => exact absurd rfl h
  | cons c cs => rfl

theorem hexDigit?_digitChar (h : n < 16) : hexDigit? n.digitChar = some n := by
  have : ∀ m : Fin 16, hexDigit? m.val.digitChar = some m.val := by decide
  exact this ⟨n, h⟩

theorem foldl_readHexStep_toDigits (n : Nat) :
    (Nat.toDigits 16 n).foldl readHexStep (some 0) = some n := by
  induction n using Nat.strongRecOn with
  | ind n ih =>
    rw [Nat.toDigits_eq_if (by decide)]
    split_ifs with hlt
    · simp [readHexStep, hexDigit?_digitChar hlt]
    · rw [List.foldl_append, ih (n / 16) (by omega)]
      have hlast : hexDigit? (n % 16).digitChar = some (n % 16) := hexDigit?_digitChar (by omega)
      simp only [List.foldl_cons, List.foldl_nil, readHexStep, hlast, Option.bind_eq_bind,
        Option.bind_some, Option.pure_def, Option.some.injEq]
      omega

theorem foldl_readHexStep_zeros (count : Nat) :
    (List.replicate count '0').foldl readHexStep (some 0) = some 0 := by
  induction count with
  | zero => rfl
  | succ count ih => rw [List.replicate_succ, List.foldl_cons]; exact ih

/-- A code unit is written with four digits, which read back. -/
theorem isUnit_hexPadded (h : n < 0x10000) : IsUnit n (hexPadded 4 n) := by
  have hlength : (Nat.toDigits 16 n).length ≤ 4 :=
    (Nat.length_toDigits_le_iff (by decide) (by decide)).mpr h
  refine ⟨?_, ?_⟩
  · rw [hexPadded, List.length_append, List.length_replicate]
    omega
  · rw [hexPadded, readHex?_of_ne_nil (List.append_ne_nil_of_right_ne_nil _ Nat.toDigits_ne_nil),
      List.foldl_append, foldl_readHexStep_zeros, foldl_readHexStep_toDigits]

end Text

namespace Json

variable {c : Char}

theorem eq_of_toNat {c : Char} {n : Nat} (h : c.toNat = n) : c = Char.ofNat n := by
  rw [← h, Char.ofNat_toNat]

/-- Two escapes of the halves of a surrogate pair. -/
theorem spellsChar_pair {high low : Nat} (hhigh : 0xD800 ≤ high ∧ high < 0xDC00)
    (hlow : 0xDC00 ≤ low ∧ low < 0xE000)
    (hc : c.toNat = 0x10000 + (high - 0xD800) * 0x400 + (low - 0xDC00)) :
    SpellsChar c (unitEscape high ++ unitEscape low) :=
  .pair hhigh hlow hc (isUnit_hexPadded (by omega)) (isUnit_hexPadded (by omega))

theorem spellsChar_escapeChar (ascii : Bool) (c : Char) : SpellsChar c (escapeChar ascii c) := by
  have hshort : ∀ p ∈ shortEscapes, c = p.2 → SpellsChar c ['\\', p.1] := by
    rintro p hp rfl
    exact .short hp
  unfold escapeChar
  dsimp only
  split_ifs with hmark hfeed hreturn htab hback hform hcontrol hascii hunit
  · simp only [Bool.or_eq_true, beq_iff_eq] at hmark
    rcases hmark with rfl | rfl
    · exact .short (by decide)
    · exact .short (by decide)
  · exact hshort ('n', '\n') (by decide) (by simpa using hfeed)
  · exact hshort ('r', '\r') (by decide) (by simpa using hreturn)
  · exact hshort ('t', '\t') (by decide) (by simpa using htab)
  · exact hshort ('b', '\x08') (by decide) (eq_of_toNat (by simpa using hback))
  · exact hshort ('f', '\x0c') (by decide) (eq_of_toNat (by simpa using hform))
  · exact .unit (isUnit_hexPadded (by omega))
  · exact .unit (isUnit_hexPadded hunit)
  · have hcases := toNat_cases c
    exact spellsChar_pair (by omega) (by omega) (by omega)
  · simp only [Bool.or_eq_true, beq_iff_eq, not_or] at hmark
    exact .plain (by omega) hmark.1 hmark.2

theorem spellsString_stringText (ascii : Bool) (s : String) :
    SpellsString s (stringText ascii s) := by
  have hchars : ∀ cs : List Char, SpellsChars cs (cs.flatMap (escapeChar ascii)) := by
    intro cs
    induction cs with
    | nil => exact .nil
    | cons c cs ih => exact .cons (spellsChar_escapeChar ascii c) ih
  exact .mk (hchars s.toList)

/-! ## Integers -/

theorem intText_of_lt {n : Int} (h : n.natAbs < tenPow maxDigits) :
    intText n = .ok (integerText n).toList := by
  have htext : integerText? n = some (integerText n) := by rw [integerText?, if_pos h]
  unfold intText
  rw [htext]

theorem intText_of_le {n : Int} (h : tenPow maxDigits ≤ n.natAbs) :
    intText n = .error .number := by
  have htext : integerText? n = none := by rw [integerText?, if_neg (Nat.not_lt.mpr h)]
  unfold intText
  rw [htext]

/-! ## Brackets -/

section Brackets

variable {layout : Layout} {depth : Nat} {gap comma : List Char}

theorem isGap_lineBreak (layout : Layout) (depth : Nat) : IsGap (lineBreak layout depth) := by
  unfold lineBreak
  split_ifs
  · refine List.forall_mem_cons.mpr ⟨by decide, fun c hc => ?_⟩
    rw [List.eq_of_mem_replicate hc]
    decide
  · exact fun _ hc => absurd hc List.not_mem_nil

/-- What stands between two parts. -/
def IsComma (comma : List Char) : Prop := ∃ gap, IsGap gap ∧ comma = ',' :: gap

theorem spellsItems_intercalate {t : Tree} {items : List Tree} {part : List Char}
    {parts : List (List Char)} (hcomma : IsComma comma) (hgap : IsGap gap) (h : Spells t part)
    (hparts : List.Forall₂ Spells items parts) :
    SpellsItems (t :: items) (comma.intercalate (part :: parts) ++ gap) := by
  obtain ⟨gap', hgap', rfl⟩ := hcomma
  induction hparts generalizing t part with
  | nil => simpa using SpellsItems.last h hgap
  | cons hnext _ ih =>
    simpa [List.intercalate_cons_cons] using SpellsItems.more h isGap_nil hgap' (ih hnext)

/-- A member with a blank behind its colon. -/
def SpellsMember (member : String × Tree) (part : List Char) : Prop :=
  ∃ quoted cs, SpellsString member.1 quoted ∧ Spells member.2 cs ∧ part = quoted ++ ':' :: ' ' :: cs

theorem spellsMembers_intercalate {member : String × Tree} {members : List (String × Tree)}
    {part : List Char} {parts : List (List Char)} (hcomma : IsComma comma) (hgap : IsGap gap)
    (h : SpellsMember member part) (hparts : List.Forall₂ SpellsMember members parts) :
    SpellsMembers (member :: members) (comma.intercalate (part :: parts) ++ gap) := by
  obtain ⟨gap', hgap', rfl⟩ := hcomma
  have hblank : IsGap [' '] := by simp [IsGap, isGap]
  induction hparts generalizing member part with
  | nil =>
    obtain ⟨quoted, cs, hname, hvalue, rfl⟩ := h
    simpa using SpellsMembers.last hname isGap_nil hblank hvalue hgap
  | cons hnext _ ih =>
    obtain ⟨quoted, cs, hname, hvalue, rfl⟩ := h
    simpa [List.intercalate_cons_cons] using
      SpellsMembers.more hname isGap_nil hblank hvalue isGap_nil hgap' (ih hnext)

theorem exists_enclose (layout : Layout) (depth : Nat) (opening closing : Char) :
    ∃ comma gap gap', IsComma comma ∧ IsGap gap ∧ IsGap gap' ∧ ∀ part parts,
      enclose layout depth opening closing (part :: parts) =
        opening :: (gap ++ (List.intercalate comma (part :: parts) ++ gap') ++ [closing]) := by
  refine ⟨if layout.spread then ',' :: lineBreak layout (depth + 1) else [',', ' '],
    lineBreak layout (depth + 1), lineBreak layout depth, ?_, isGap_lineBreak _ _,
    isGap_lineBreak _ _, fun part parts => ?_⟩
  · split_ifs
    · exact ⟨_, isGap_lineBreak _ _, rfl⟩
    · exact ⟨[' '], by simp [IsGap, isGap], rfl⟩
  · simp [enclose]

/-- Items between brackets spell the list. -/
theorem spells_enclose_items {items : List Tree} {parts : List (List Char)}
    (h : List.Forall₂ Spells items parts) (layout : Layout) (depth : Nat) :
    Spells (.list items) (enclose layout depth '[' ']' parts) := by
  cases h with
  | nil => exact .noItems isGap_nil
  | cons hpart hparts =>
    obtain ⟨comma, gap, gap', hcomma, hgap, hgap', henclose⟩ := exists_enclose layout depth '[' ']'
    rw [henclose]
    exact .list hgap (spellsItems_intercalate hcomma hgap' hpart hparts)

/-- Members between braces spell the object. -/
theorem spells_enclose_members {members : List (String × Tree)} {parts : List (List Char)}
    (h : List.Forall₂ SpellsMember members parts) (layout : Layout) (depth : Nat) :
    Spells (.object (OrderedMap.ofList members)) (enclose layout depth '\x7b' '\x7d' parts) := by
  cases h with
  | nil => exact .noMembers isGap_nil
  | cons hpart hparts =>
    obtain ⟨comma, gap, gap', hcomma, hgap, hgap', henclose⟩ :=
      exists_enclose layout depth '\x7b' '\x7d'
    rw [henclose]
    exact .object hgap (spellsMembers_intercalate hcomma hgap' hpart hparts)

end Brackets

end Json

/-! ## Values -/

namespace Value

mutual

/-- What JSON says of a writable value. -/
def tree : Value → Tree
  | .null => .null
  | .bool b => .bool b
  | .int n => .int n
  | .float x => .float x.text
  | .text s => .text s
  | .list items => .list (itemTrees items)
  | .map entries => .object (memberTrees entries)
  | _ => .null

def itemTrees : List Value → List Tree
  | [] => []
  | v :: rest => tree v :: itemTrees rest

def memberTrees : List (Value × Value) → List (String × Tree)
  | [] => []
  | (.text name, v) :: rest => (name, tree v) :: memberTrees rest
  | (_, _) :: rest => memberTrees rest

end

@[simp] theorem itemTrees_eq_map (items : List Value) : itemTrees items = items.map tree := by
  induction items with
  | nil => rfl
  | cons v items ih => rw [itemTrees, ih, List.map_cons]

/-- A list has the trees of its items. -/
@[simp] theorem tree_list (items : List Value) : tree (.list items) = .list (items.map tree) := by
  rw [tree, itemTrees_eq_map]

/-- A map has the trees of its values under its keys, in its order. -/
@[simp] theorem tree_ofFields (fields : OrderedMap String Value) :
    tree (.ofFields fields) = .object (fields.map fun entry => (entry.1, entry.2.tree)) := by
  have hmembers : memberTrees (fields.map fun entry => (.text entry.1, entry.2)) =
      fields.map fun entry => (entry.1, entry.2.tree) := by
    induction fields with
    | nil => rfl
    | cons entry fields ih => rw [List.map_cons, memberTrees, ih, List.map_cons]
  rw [ofFields, tree, hmembers]

/-- Values that have a JSON text of their own: as normal ones, but an integer may have as many
digits as are ever written. -/
inductive IsWritable : Value → Prop
  | null : IsWritable .null
  | bool (b : Bool) : IsWritable (.bool b)
  | int (n : Int) (h : n.natAbs < tenPow maxDigits) : IsWritable (.int n)
  | float (x : Binary64) (h : x.isFinite = true) : IsWritable (.float x)
  | text (s : String) : IsWritable (.text s)
  | list (items : List Value) (h : ∀ v ∈ items, IsWritable v) : IsWritable (.list items)
  | map (fields : OrderedMap String Value) (distinct : fields.keys.Nodup)
      (h : ∀ entry ∈ fields, IsWritable entry.2) : IsWritable (.ofFields fields)

theorem tenPow_le_tenPow {m n : Nat} (h : m ≤ n) : tenPow m ≤ tenPow n :=
  Nat.pow_le_pow_right (by decide) h

theorem natAbs_lt_of_isInt64 {n : Int} (h : isInt64 n = true) : n.natAbs < tenPow maxDigits := by
  have hsmall : n.natAbs < tenPow 19 := by
    have hbounds : minInt64 ≤ n ∧ n ≤ maxInt64 := by simpa [isInt64] using h
    have hmin : minInt64 = -9223372036854775808 := rfl
    have hmax : maxInt64 = 9223372036854775807 := rfl
    have hpow : tenPow 19 = 10000000000000000000 := rfl
    omega
  exact Nat.lt_of_lt_of_le hsmall (tenPow_le_tenPow (by decide))

theorem IsNormal.isWritable {v : Value} (h : v.IsNormal) : v.IsWritable := by
  induction h with
  | null => exact .null
  | bool b => exact .bool b
  | int n h => exact .int n (natAbs_lt_of_isInt64 h)
  | float x h => exact .float x h
  | text s => exact .text s
  | list items _ ih => exact .list items ih
  | map fields distinct _ ih => exact .map fields distinct ih

variable {layout : Layout} {depth : Nat}

/-- The value is written, with a text of the grammar. -/
def IsSpelled (layout : Layout) (depth : Nat) (v : Value) : Prop :=
  ∃ cs, v.jsonAt layout depth = .ok cs ∧ Spells v.tree cs

theorem isSpelled_int {n : Int} (h : n.natAbs < tenPow maxDigits) :
    (Value.int n).IsSpelled layout depth := by
  have hspells := Spells.number (isNumber_integerText n)
  rw [Tree.ofLexeme, lexemeInt_integerText] at hspells
  exact ⟨(integerText n).toList, by rw [jsonAt, intText_of_lt h], hspells⟩

theorem isSpelled_float {x : Binary64} (h : x.isFinite = true) :
    (Value.float x).IsSpelled layout depth := by
  have hspells := Spells.number (Binary64.isNumber_text h)
  rw [Tree.ofLexeme, if_pos rfl, String.ofList_toList] at hspells
  cases x with
  | finite => exact ⟨_, rfl, hspells⟩
  | nan | infinite => cases h

theorem jsonItems_of_isSpelled {items : List Value} (h : ∀ v ∈ items, v.IsSpelled layout depth) :
    ∃ parts, jsonItems layout depth items = .ok parts ∧
      List.Forall₂ Spells (items.map tree) parts := by
  induction items with
  | nil => exact ⟨[], rfl, .nil⟩
  | cons v items ih =>
    obtain ⟨⟨cs, hcs, hspells⟩, hitems⟩ := List.forall_mem_cons.mp h
    obtain ⟨parts, hparts, hall⟩ := ih hitems
    refine ⟨cs :: parts, ?_, .cons hspells hall⟩
    rw [jsonItems, hcs, hparts]
    rfl

theorem jsonMembers_of_isSpelled {fields : List (String × Value)}
    (h : ∀ entry ∈ fields, entry.2.IsSpelled layout depth) :
    ∃ parts, jsonMembers layout depth (fields.map fun entry => (.text entry.1, entry.2)) =
        .ok parts ∧
      List.Forall₂ SpellsMember (fields.map fun entry => (entry.1, entry.2.tree)) parts := by
  induction fields with
  | nil => exact ⟨[], rfl, .nil⟩
  | cons entry fields ih =>
    obtain ⟨⟨cs, hcs, hspells⟩, hfields⟩ := List.forall_mem_cons.mp h
    obtain ⟨parts, hparts, hall⟩ := ih hfields
    refine ⟨(stringText layout.ascii entry.1 ++ ':' :: ' ' :: cs) :: parts, ?_,
      .cons ⟨_, cs, spellsString_stringText _ _, hspells, rfl⟩ hall⟩
    rw [List.map_cons, jsonMembers, hcs, hparts]
    rfl

/-- **Whatever has a JSON text is written, and the text belongs to the grammar.** -/
theorem IsWritable.isSpelled {v : Value} (h : v.IsWritable) (layout : Layout) (depth : Nat) :
    v.IsSpelled layout depth := by
  induction h generalizing depth with
  | null => exact ⟨_, rfl, .null⟩
  | bool b =>
    cases b with
    | false => exact ⟨_, rfl, .false⟩
    | true => exact ⟨_, rfl, .true⟩
  | int n h => exact isSpelled_int h
  | float x h => exact isSpelled_float h
  | text s => exact ⟨_, rfl, .text (spellsString_stringText _ s)⟩
  | list items _ ih =>
    obtain ⟨parts, hparts, hall⟩ := jsonItems_of_isSpelled fun v hv => ih v hv (depth + 1)
    refine ⟨enclose layout depth '[' ']' parts, ?_, ?_⟩
    · rw [jsonAt, hparts]
      rfl
    · rw [tree_list]
      exact spells_enclose_items hall layout depth
  | map fields distinct _ ih =>
    obtain ⟨parts, hparts, hall⟩ := jsonMembers_of_isSpelled fun e he => ih e he (depth + 1)
    have hdistinct : (OrderedMap.keys (fields.map fun entry => (entry.1, entry.2.tree))).Nodup := by
      simpa [OrderedMap.keys, Function.comp_def] using distinct
    refine ⟨enclose layout depth '\x7b' '\x7d' parts, ?_, ?_⟩
    · rw [ofFields, jsonAt, hparts]
      rfl
    · have hspells := spells_enclose_members hall layout depth
      rw [OrderedMap.ofList_eq_self hdistinct] at hspells
      rw [tree_ofFields]
      exact hspells

end Value

end Polystore
