import Polystore.Proofs.Number.Range
import Polystore.Proofs.Success
import Polystore.Settings

/-!
# Settings field by field

Each setting is what the item under its own key stands for, and its default if there is no such
item or the item stands for nothing. What the items of a section stand for passes the checks of
fields, so a document never has a flaw.

* `Settings.given?`: the item that a document gives for a key;
* `Seconds`, `Size`, `Word`: what an item stands for; `Takes`: or else the default;
* `Settings.Follows`: settings that take all fields from a document;
* `Settings.ofDocument_of_inRange`, `Settings.ofDocument_of_not_inRange`: a document has the
  settings that follow it, unless its timeout is an integer beyond the floats;
* **`Settings.load_follows`**: so it is with files.
-/

namespace Polystore

open Number Number.Binary64 Text

/-! ## What items stand for -/

/-- The seconds that an item stands for: a number above zero, as a float. -/
inductive Seconds : Toml → Binary64 → Prop
  | int {n : Int} : 0 < n → Seconds (.scalar (.int n)) (.ofInt n)
  | float {x : Binary64} : x.isPositive = true → Seconds (.scalar (.float x)) x

/-- The size that an item stands for: an integer that is not negative. -/
inductive Size : Toml → Nat → Prop
  | int (n : Nat) : Size (.scalar (.int n)) n

/-- The word that an item stands for: a text that is not empty. -/
inductive Word : Toml → String → Prop
  | text {s : String} : s ≠ "" → Word (.scalar (.text s)) s

variable {α : Type} {Reads : Toml → α → Prop} {fallback x y : α} {item : Option Toml}

/-- What the item stands for, or something else if it stands for nothing. -/
inductive Takes (Reads : Toml → α → Prop) (fallback : α) (item : Option Toml) : α → Prop
  | given {t : Toml} {x : α} : item = some t → Reads t x → Takes Reads fallback item x
  | fallback : (∀ t ∈ item, ∀ x, ¬Reads t x) → Takes Reads fallback item fallback

theorem Takes.unique (hreads : ∀ t x y, Reads t x → Reads t y → x = y)
    (hx : Takes Reads fallback item x) (hy : Takes Reads fallback item y) : x = y := by
  cases hx with
  | given ht hx =>
    cases hy with
    | given ht' hy => exact hreads _ _ _ hx (Option.some.inj (ht.symm.trans ht') ▸ hy)
    | fallback hnone => exact absurd hx (hnone _ ht _)
  | fallback hnone =>
    cases hy with
    | given ht hy => exact absurd hy (hnone _ ht _)
    | fallback => rfl

theorem Seconds.unique (t : Toml) (x y : Binary64) (hx : Seconds t x) (hy : Seconds t y) :
    x = y := by
  cases hx <;> cases hy <;> rfl

theorem Size.unique (t : Toml) (m n : Nat) (hm : Size t m) (hn : Size t n) : m = n := by
  cases hm; cases hn; rfl

theorem Word.unique (t : Toml) (s s' : String) (hs : Word t s) (hs' : Word t s') : s = s' := by
  cases hs; cases hs'; rfl

theorem Seconds.isPositive {t : Toml} {x : Binary64} (h : Seconds t x) : x.isPositive = true := by
  cases h with
  | int h => exact Binary64.isPositive_ofInt h
  | float h => exact h

/-! ## Fields that are looked up -/

theorem optional_eq_ok {fields : OrderedMap String Value} {name : String}
    {read : Value → Except FieldFlaw α}
    (h : (OrderedMap.get? fields name).elim (.ok fallback) read = .ok x) :
    Field.optional fields name fallback read = .ok x := by
  unfold Field.optional
  cases hv : OrderedMap.get? fields name with
  | none => rw [hv] at h; cases h; rfl
  | some v => rw [hv] at h; simp [show read v = .ok x from h, Except.mapError]

namespace Settings

variable {document table : Toml.Fields} {key : String} {s : Settings}

/-! ## From the items to the settings -/

/-- Settings that take each field from the item that its key is given. -/
structure Follows (given : String → Option Toml) (s : Settings) : Prop where
  connectTimeout : Takes Seconds default.connectTimeout (given "connect_timeout") s.connectTimeout
  historySize : Takes Size default.historySize (given "history_size") s.historySize
  keyPattern : Takes Word default.keyPattern (given "default_key_pattern") s.keyPattern
  logLevel : Takes Word default.logLevel (given "log_level") s.logLevel

/-- An integer that is given as a timeout does not lie above the floats. -/
def TimeoutInRange (given : String → Option Toml) : Prop :=
  ∀ n : Int, given "connect_timeout" = some (.scalar (.int n)) → 0 < n → InRange n

theorem takes_seconds (hrange : TimeoutInRange (OrderedMap.get? table)) :
    ∃ v x, timeoutValue? (scalar? table "connect_timeout") = .ok v ∧
      v.elim (.ok default.connectTimeout) Field.readFloat = .ok x ∧
      Takes Seconds default.connectTimeout (OrderedMap.get? table "connect_timeout") x := by
  unfold scalar?
  unfold TimeoutInRange at hrange
  generalize OrderedMap.get? table "connect_timeout" = item at hrange
  rcases item with _ | (_ | _ | _)
  case some.scalar w =>
    cases w with
    | int n =>
      by_cases hn : 0 < n
      · have hfloat := ofInt?_of_inRange (hrange n rfl hn)
        exact ⟨_, _, by simp only [timeoutValue?, hn, hfloat, if_true]; rfl, rfl,
          .given rfl (.int hn)⟩
      · exact ⟨none, _, by simp only [timeoutValue?, hn, if_false], rfl,
          .fallback (by rintro t ⟨⟩ x ⟨h⟩; exact hn h)⟩
    | float y =>
      by_cases hy : y.isPositive = true
      · exact ⟨_, _, by simp only [timeoutValue?, hy, if_true]; rfl, rfl, .given rfl (.float hy)⟩
      · exact ⟨none, _, by simp [timeoutValue?, hy], rfl,
          .fallback (by rintro t ⟨⟩ x ⟨⟩; exact hy ‹_›)⟩
    | _ => exact ⟨_, _, rfl, rfl, .fallback (by rintro t ⟨⟩ x ⟨⟩)⟩
  all_goals exact ⟨_, _, rfl, rfl, .fallback (by rintro t ⟨⟩ x ⟨⟩)⟩

theorem timeoutValue?_of_not_inRange (h : ¬TimeoutInRange (OrderedMap.get? table)) :
    timeoutValue? (scalar? table "connect_timeout") = .error .hugeInteger := by
  simp only [TimeoutInRange, not_forall] at h
  obtain ⟨n, hgiven, hpos, hrange⟩ := h
  simp only [scalar?, hgiven, timeoutValue?, hpos, if_true, ofInt?_of_not_inRange hrange]

theorem takes_size (table : Toml.Fields) : ∃ n,
    (sizeValue? (scalar? table "history_size")).elim (.ok default.historySize) readSize = .ok n ∧
      Takes Size default.historySize (OrderedMap.get? table "history_size") n := by
  unfold scalar?
  generalize OrderedMap.get? table "history_size" = item
  rcases item with _ | (_ | _ | _)
  case some.scalar w =>
    cases w with
    | int n =>
      cases n with
      | ofNat n => exact ⟨_, rfl, .given rfl (.int n)⟩
      | negSucc n => exact ⟨_, rfl, .fallback (by rintro t ⟨⟩ x ⟨⟩)⟩
    | _ => exact ⟨_, rfl, .fallback (by rintro t ⟨⟩ x ⟨⟩)⟩
  all_goals exact ⟨_, rfl, .fallback (by rintro t ⟨⟩ x ⟨⟩)⟩

theorem takes_word (table : Toml.Fields) (key fallback : String) : ∃ word,
    (textValue? (scalar? table key)).elim (.ok fallback) Field.readText = .ok word ∧
      Takes Word fallback (OrderedMap.get? table key) word := by
  unfold scalar?
  generalize OrderedMap.get? table key = item
  rcases item with _ | (_ | _ | _)
  case some.scalar w =>
    cases w with
    | text word =>
      by_cases hword : word = ""
      · subst hword
        exact ⟨_, rfl, .fallback (by rintro t ⟨⟩ x ⟨h⟩; exact h rfl)⟩
      · have hempty : word.isEmpty = false := by simpa using hword
        exact ⟨word, by simp [textValue?, hempty]; rfl, .given rfl (.text hword)⟩
    | _ => exact ⟨_, rfl, .fallback (by rintro t ⟨⟩ x ⟨⟩)⟩
  all_goals exact ⟨_, rfl, .fallback (by rintro t ⟨⟩ x ⟨⟩)⟩

theorem usableFields_eq_ok {v : Option Value}
    (h : timeoutValue? (scalar? table "connect_timeout") = .ok v) :
    usableFields table = .ok (OrderedMap.present [("connect_timeout", v),
      ("history_size", sizeValue? (scalar? table "history_size")),
      ("default_key_pattern", textValue? (scalar? table "default_key_pattern")),
      ("log_level", textValue? (scalar? table "log_level"))]) := by
  rw [usableFields, h]
  rfl

theorem ofFields_eq_ok {fields : OrderedMap String Value}
    (htimeout : Field.optional fields "connect_timeout" default.connectTimeout Field.readFloat =
      .ok s.connectTimeout)
    (hsize : Field.optional fields "history_size" default.historySize readSize = .ok s.historySize)
    (hpattern : Field.optional fields "default_key_pattern" default.keyPattern Field.readText =
      .ok s.keyPattern)
    (hlevel : Field.optional fields "log_level" default.logLevel Field.readText = .ok s.logLevel) :
    ofFields fields = .ok s := by
  simp only [ofFields, htimeout, hsize, hpattern, hlevel]

/-- What makes sense in a table has no flaw as named values. -/
theorem ofFields_usableFields (hrange : TimeoutInRange (OrderedMap.get? table)) :
    ∃ fields s, usableFields table = .ok fields ∧ ofFields fields = .ok s ∧
      Follows (OrderedMap.get? table) s := by
  obtain ⟨v, timeout, hv, htimeout, hseconds⟩ := takes_seconds hrange
  obtain ⟨size, hsize, hsize'⟩ := takes_size table
  obtain ⟨pattern, hpattern, hpattern'⟩ := takes_word table "default_key_pattern" default.keyPattern
  obtain ⟨level, hlevel, hlevel'⟩ := takes_word table "log_level" default.logLevel
  have hfields := usableFields_eq_ok hv
  refine ⟨_, ⟨timeout, size, pattern, level⟩, hfields, ofFields_eq_ok ?_ ?_ ?_ ?_,
    ⟨hseconds, hsize', hpattern', hlevel'⟩⟩
  all_goals
    refine optional_eq_ok ?_
    rw [OrderedMap.get?_present (by simp [OrderedMap.keys])]
    assumption

/-! ## Documents -/

/-- The item that a document gives for a key: the one in the table named `core`, if there is such a
key, otherwise the one in the document. -/
def given? (document : Toml.Fields) (key : String) : Option Toml :=
  match OrderedMap.get? document "core" with
  | some (.table fields) => OrderedMap.get? fields key
  | some _ => none
  | none => OrderedMap.get? document key

theorem given?_of_section? (h : section? document = some table) :
    given? document = OrderedMap.get? table := by
  funext key
  unfold section? at h
  unfold given?
  split at h <;> simp_all

theorem given?_of_section?_eq_none (h : section? document = none) :
    given? document = fun _ => none := by
  funext key
  unfold section? at h
  unfold given?
  split at h <;> simp_all

theorem ofFields_nil : ofFields [] = .ok default := ofFields_eq_ok rfl rfl rfl rfl

theorem follows_default : Follows (fun _ => none) default :=
  ⟨.fallback (by simp), .fallback (by simp), .fallback (by simp), .fallback (by simp)⟩

/-- A document has the settings that follow it; there are no flaws of fields. -/
theorem ofDocument_of_inRange (hrange : TimeoutInRange (given? document)) :
    ∃ s, ofDocument document = .ok s ∧ Follows (given? document) s := by
  unfold ofDocument
  cases hsection : section? document with
  | none =>
    rw [given?_of_section?_eq_none hsection]
    refine ⟨default, ?_, follows_default⟩
    exact (Except.mapError_eq_ok_iff (g := Fault.settings)).mpr ofFields_nil
  | some table =>
    rw [given?_of_section? hsection] at hrange ⊢
    obtain ⟨fields, s, hfields, hs, hfollows⟩ := ofFields_usableFields hrange
    refine ⟨s, ?_, hfollows⟩
    simp only [hfields]
    exact Except.mapError_eq_ok_iff.mpr hs

/-- A timeout that lies above the floats is a fault. -/
theorem ofDocument_of_not_inRange (hrange : ¬TimeoutInRange (given? document)) :
    ofDocument document = .error .hugeInteger := by
  unfold ofDocument
  cases hsection : section? document with
  | none =>
    rw [given?_of_section?_eq_none hsection] at hrange
    exact absurd (fun n h => by cases h) hrange
  | some table =>
    rw [given?_of_section? hsection] at hrange
    simp only [usableFields, timeoutValue?_of_not_inRange hrange]
    rfl

theorem isPositive_default : default.connectTimeout.isPositive = true := by
  simp only [default]
  exact isPositive_ofInt (by decide)

theorem Follows.isPositive {given : String → Option Toml} (h : Follows given s) :
    s.connectTimeout.isPositive = true := by
  have htakes := h.connectTimeout
  generalize s.connectTimeout = x at htakes
  cases htakes with
  | given _ hx => exact hx.isPositive
  | fallback _ => exact isPositive_default

/-! ## Field by field -/

/-- Settings agree in each field whose key two documents give the same item, or none. -/
structure AgreeByField (given given' : String → Option Toml) (s s' : Settings) : Prop where
  connectTimeout :
    given "connect_timeout" = given' "connect_timeout" → s.connectTimeout = s'.connectTimeout
  historySize : given "history_size" = given' "history_size" → s.historySize = s'.historySize
  keyPattern :
    given "default_key_pattern" = given' "default_key_pattern" → s.keyPattern = s'.keyPattern
  logLevel : given "log_level" = given' "log_level" → s.logLevel = s'.logLevel

theorem Follows.agreeByField {given given' : String → Option Toml} {s s' : Settings}
    (h : Follows given s) (h' : Follows given' s') : AgreeByField given given' s s' where
  connectTimeout heq := (heq ▸ h.connectTimeout).unique Seconds.unique h'.connectTimeout
  historySize heq := (heq ▸ h.historySize).unique Size.unique h'.historySize
  keyPattern heq := (heq ▸ h.keyPattern).unique Word.unique h'.keyPattern
  logLevel heq := (heq ▸ h.logLevel).unique Word.unique h'.logLevel

/-- Bytes that are the text of a document. -/
def Holds (content : Bytes) (document : Toml.Fields) : Prop :=
  ∃ source, decodeUtf8? content = some source ∧ Toml.read source.toList = .ok document

theorem load_of_holds {content : Bytes} (h : Holds content document) :
    load (.file content) = ofDocument document := by
  obtain ⟨source, htext, hread⟩ := h
  simp only [load, htext, hread]

/-- **A file that holds a document has settings that follow it field by field**, unless its timeout
is an integer above the floats. A value that stands for nothing has no influence on other fields. -/
theorem load_follows {content : Bytes} (hholds : Holds content document)
    (hrange : TimeoutInRange (given? document)) :
    ∃ s, load (.file content) = .ok s ∧ Follows (given? document) s ∧
      s.connectTimeout.isPositive = true ∧
      ∀ content' document' s', Holds content' document' → load (.file content') = .ok s' →
        AgreeByField (given? document) (given? document') s s' := by
  obtain ⟨s, hs, hfollows⟩ := ofDocument_of_inRange hrange
  refine ⟨s, (load_of_holds hholds).trans hs, hfollows, hfollows.isPositive, ?_⟩
  intro content' document' s' hholds' hs'
  rw [load_of_holds hholds'] at hs'
  have hrange' : TimeoutInRange (given? document') := by
    by_contra hrange'
    simp [ofDocument_of_not_inRange hrange'] at hs'
  obtain ⟨t, ht, hfollows'⟩ := ofDocument_of_inRange hrange'
  cases ht.symm.trans hs'
  exact hfollows.agreeByField hfollows'

/-- A file of one line, whose timeout is an integer. -/
theorem load_follows_line :
    ∃ s, load (.file (encodeUtf8 "connect_timeout=3")) = .ok s ∧ s.connectTimeout = .ofInt 3 ∧
      s.historySize = 500 := by
  have hread : Toml.read "connect_timeout=3".toList =
      .ok [("connect_timeout", .scalar (.int 3))] := by
    simp only [Toml.read, String.reduceToList]
    rfl
  have hholds : Holds (encodeUtf8 "connect_timeout=3") [("connect_timeout", .scalar (.int 3))] :=
    ⟨_, decodeUtf8?_eq_some_iff.mpr rfl, hread⟩
  have hrange : TimeoutInRange (given? [("connect_timeout", .scalar (.int 3))]) := by
    intro n hn _
    cases hn
    unfold InRange
    decide +kernel
  obtain ⟨s, hs, hfollows, -⟩ := load_follows hholds hrange
  refine ⟨s, hs, ?_, ?_⟩
  · exact hfollows.connectTimeout.unique Seconds.unique (.given rfl (.int (by decide)))
  · exact hfollows.historySize.unique Size.unique (.fallback (by rintro t ⟨⟩))

end Settings

end Polystore
