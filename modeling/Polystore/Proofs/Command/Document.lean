import Polystore.Command.Document
import Polystore.Proofs.Json.Extended
import Polystore.Proofs.Text.Trim

/-!
# The grammar of commands of document stores

A command is the name of a collection, a point and a call, with blanks wherever parts meet. The
reader of commands trims and cuts in several places; together this reads just the commands of the
grammar, each in the only way that it can be taken apart.

* `IsCollection`, `Addresses`: a collection in front of the first point, and what stands behind it;
* `CallsFind`, `CallsCount`, `CallsOther`: the kinds of calls, as texts;
* `IsFilter`: what the text of a filter is read as;
* `DocumentCommand.parse_of_find`, `parse_of_count`, `parse_of_other`, `parse_of_unaddressed`: what
  becomes of each kind;
* **`DocumentCommand.parse_grammar`**.
-/

namespace Polystore

open Text

/-- The name of a collection: without a point, and without blanks at its ends. -/
structure IsCollection (collection : List Char) : Prop where
  nonempty : collection ≠ []
  noPoint : '.' ∉ collection
  trimmed : Trimmed collection

/-- A collection, a point, and something that begins without a blank. -/
def Addresses (text collection command : List Char) : Prop :=
  IsCollection collection ∧ StartsSolid command ∧ ∃ w₁ w₂ w₃, Blank w₁ ∧ Blank w₂ ∧ Blank w₃ ∧
    text = w₁ ++ collection ++ w₂ ++ '.' :: w₃ ++ command

/-- `collection . find( filter )`, with blanks between the parts and around them. -/
def CallsFind (text collection filter : List Char) : Prop :=
  IsCollection collection ∧ Trimmed filter ∧ ∃ w₁ w₂ w₃ w₄ w₅ w₆,
    Blank w₁ ∧ Blank w₂ ∧ Blank w₃ ∧ Blank w₄ ∧ Blank w₅ ∧ Blank w₆ ∧
    text = w₁ ++ collection ++ w₂ ++ '.' :: w₃ ++ "find(".toList ++ w₄ ++ filter ++ w₅ ++ ')' :: w₆

/-- `collection . count()`, and anything behind it. -/
def CallsCount (text collection : List Char) : Prop :=
  IsCollection collection ∧ ∃ w₁ w₂ w₃ rest, Blank w₁ ∧ Blank w₂ ∧ Blank w₃ ∧
    text = w₁ ++ collection ++ w₂ ++ '.' :: w₃ ++ "count()".toList ++ rest

/-- Something that is not blank in front of the first point, and no call of `find` or `count`
behind it. -/
def CallsOther (text : List Char) : Prop :=
  ∃ front back, text = front ++ '.' :: back ∧ '.' ∉ front ∧ ¬ Blank front ∧
    ¬ "find(".toList <+: trimLeft back ∧ ¬ "count()".toList <+: trimLeft back

/-- The fields that the text of a filter is read as: none for no text at all, and otherwise those of
an object. -/
def IsFilter (filter : List Char) (fields : ExtendedJson.Fields) : Prop :=
  filter = [] ∧ fields = [] ∨ ExtendedJson.read filter = .ok (.ofFields fields)

variable {text collection command filter rest : List Char} {fields : ExtendedJson.Fields}

/-! ## Filters -/

theorem fieldNames_ofFields (fields : ExtendedJson.Fields) :
    (fields.map fun entry => (Value.text entry.1, entry.2)).map
      (fun entry => (fieldName entry.1, entry.2)) = fields := by
  rw [List.map_map]
  exact List.map_id'' (fun _ => rfl) fields

theorem ofFields_inj {fields' : ExtendedJson.Fields} :
    Value.ofFields fields = Value.ofFields fields' ↔ fields = fields' := by
  refine ⟨fun h => ?_, congrArg _⟩
  rw [← fieldNames_ofFields fields, Value.map.inj h, fieldNames_ofFields]

theorem readFilter_eq_ok_iff : readFilter filter = .ok fields ↔ IsFilter filter fields := by
  unfold readFilter IsFilter
  split
  · next h =>
    have hnil : filter = [] := List.isEmpty_iff.mp h
    subst hnil
    simp [ExtendedJson.read_nil, eq_comm]
  · next h =>
    have hne : filter ≠ [] := fun hnil => h (List.isEmpty_iff.mpr hnil)
    simp only [hne, false_and, false_or]
    cases hread : ExtendedJson.read filter with
    | error e =>
      cases e <;> simp
    | ok v =>
      cases v with
      | map entries =>
        obtain ⟨own, hown⟩ := ExtendedJson.named_of_read hread entries rfl
        obtain rfl := Value.map.inj hown
        change Except.ok _ = _ ↔ Except.ok (Value.ofFields own) = _
        rw [fieldNames_ofFields, Except.ok.injEq, Except.ok.injEq, ofFields_inj]
      | _ => simp [Value.ofFields]

/-! ## Calls of `find` -/

/-- Only blanks stand behind the parenthesis that ends a call. -/
theorem trimRight_call {inner w : List Char} (hb : Blank w) :
    trimRight (inner ++ ')' :: w) = inner ++ [')'] := by
  refine trimRight_eq_iff.mpr ⟨EndsSolid.append ?_ (by simp), w, hb, by simp⟩
  simp [EndsSolid, show isBlank ')' = false by decide]

/-- The filter of a call stands in front of the last closing parenthesis. -/
theorem readFilterCall_eq_ok_iff : readFilterCall rest = .ok fields ↔
    ∃ filter w₄ w₅ w₆, Trimmed filter ∧ Blank w₄ ∧ Blank w₅ ∧ Blank w₆ ∧
      rest = w₄ ++ filter ++ w₅ ++ ')' :: w₆ ∧ IsFilter filter fields := by
  unfold readFilterCall
  constructor
  · intro h
    split at h
    · next front hfront =>
      have hright : trimRight rest = front.reverse ++ [')'] := by
        rw [← List.reverse_reverse (trimRight rest), hfront, List.reverse_cons]
      obtain ⟨-, w₆, h₆, hrest⟩ := trimRight_eq_iff.mp hright
      obtain ⟨htrim, w₄, w₅, h₄, h₅, hinner⟩ := trim_eq_iff.mp (rfl : trim front.reverse = _)
      refine ⟨trim front.reverse, w₄, w₅, w₆, htrim, h₄, h₅, h₆, ?_, readFilter_eq_ok_iff.mp h⟩
      rw [hrest, ← hinner, List.append_assoc, List.singleton_append]
    · cases h
  · rintro ⟨filter, w₄, w₅, w₆, htrim, h₄, h₅, h₆, rfl, hfilter⟩
    have hinner : trim (w₄ ++ filter ++ w₅) = filter :=
      trim_eq_iff.mpr ⟨htrim, w₄, w₅, h₄, h₅, rfl⟩
    rw [trimRight_call h₆, List.reverse_append, List.reverse_singleton, List.singleton_append]
    change readFilter (trim (w₄ ++ filter ++ w₅).reverse.reverse) = _
    rw [List.reverse_reverse, hinner]
    exact readFilter_eq_ok_iff.mpr hfilter

theorem readFilterCall_trimRight (rest : List Char) :
    readFilterCall (trimRight rest) = readFilterCall rest := by
  unfold readFilterCall
  rw [trimRight_trimRight]

/-! ## Collections -/

theorem startsSolid_find : StartsSolid "find(".toList := by
  simp [StartsSolid, show isBlank 'f' = false by decide]

theorem startsSolid_count : StartsSolid "count()".toList := by
  simp [StartsSolid, show isBlank 'c' = false by decide]

/-- What stands around the first point. -/
theorem addresses_iff : Addresses text collection command ↔ collection ≠ [] ∧
    ∃ front back, cutFirst? '.' text = some (front, back) ∧ trim front = collection ∧
      trimLeft back = command := by
  constructor
  · rintro ⟨⟨hne, hpoint, htrim⟩, hstart, w₁, w₂, w₃, h₁, h₂, h₃, rfl⟩
    refine ⟨hne, w₁ ++ collection ++ w₂, w₃ ++ command, ?_, ?_, ?_⟩
    · refine cutFirst?_eq_some_iff.mpr ⟨by simp, ?_⟩
      have hblank : isBlank '.' = false := by decide
      simp [hpoint, h₁.notMem hblank, h₂.notMem hblank]
    · exact trim_eq_iff.mpr ⟨htrim, w₁, w₂, h₁, h₂, rfl⟩
    · exact trimLeft_blank_append h₃ hstart
  · rintro ⟨hne, front, back, hcut, hfront, hback⟩
    obtain ⟨rfl, hpoint⟩ := cutFirst?_eq_some_iff.mp hcut
    obtain ⟨htrim, w₁, w₂, h₁, h₂, rfl⟩ := trim_eq_iff.mp hfront
    obtain ⟨hstart, w₃, h₃, rfl⟩ := trimLeft_eq_iff.mp hback
    refine ⟨⟨hne, ?_, htrim⟩, hstart, w₁, w₂, w₃, h₁, h₂, h₃, by simp⟩
    intro hmem
    exact hpoint (by simp [hmem])

namespace DocumentCommand

variable {s : String}

theorem parse_of_addresses (h : Addresses s.toList collection command) :
    parse s = parseOperation collection (trimRight command) := by
  obtain ⟨⟨hne, hpoint, hname⟩, hstart, w₁, w₂, w₃, h₁, h₂, h₃, htext⟩ := h
  have hsolid : isBlank '.' = false := by decide
  -- up to the point nothing is trimmed on the right
  have htrimmed : trim s.toList = collection ++ w₂ ++ '.' :: trimRight (w₃ ++ command) := by
    have hfront : Trimmed (collection ++ w₂ ++ ['.']) := by
      refine ⟨?_, EndsSolid.append (by simp [EndsSolid, hsolid]) (by simp)⟩
      rw [List.append_assoc]
      exact hname.1.append hne
    have htrim := trim_append (w₃ ++ command) h₁ hfront (by simp)
    rw [htext]
    simpa using htrim
  have hcut : cutFirst? '.' (trim s.toList) =
      some (collection ++ w₂, trimRight (w₃ ++ command)) := by
    refine cutFirst?_eq_some_iff.mpr ⟨htrimmed, ?_⟩
    simp [hpoint, h₂.notMem hsolid]
  have hcollection : trim (collection ++ w₂) = collection :=
    trim_eq_iff.mpr ⟨hname, [], w₂, blank_nil, h₂, rfl⟩
  have hcommand : trimLeft (trimRight (w₃ ++ command)) = trimRight command := by
    rw [trimLeft_trimRight, trim, trimLeft_blank_append h₃ hstart]
  unfold parse
  rw [hcut]
  dsimp only
  rw [hcollection, hcommand, if_neg (by simpa using hne)]

theorem parse_of_unaddressed (h : ∀ collection command, ¬ Addresses s.toList collection command) :
    parse s = .error (.malformed .noCollection) := by
  obtain ⟨-, w, w', hw, -, htext⟩ := trim_eq_iff.mp (rfl : trim s.toList = _)
  unfold parse
  split
  · rfl
  · next front back hcut =>
    dsimp only
    split
    · rfl
    · next hne =>
      obtain ⟨hcs, hpoint⟩ := cutFirst?_eq_some_iff.mp hcut
      refine absurd (addresses_iff.mpr ⟨by simpa using hne, w ++ front, back ++ w', ?_, ?_, rfl⟩)
        (h (trim front) (trimLeft (back ++ w')))
      · refine cutFirst?_eq_some_iff.mpr ⟨by rw [htext, hcs]; simp, ?_⟩
        simp [hpoint, hw.notMem (show isBlank '.' = false by decide)]
      · exact trim_blank_append hw front

theorem parse_of_find (h : Addresses s.toList collection ("find(".toList ++ rest)) :
    parse s = ((readFilterCall rest).mapError .malformed).map
      fun fields => ⟨String.ofList collection, .find fields⟩ := by
  have hsolid : EndsSolid "find(".toList := by simp [EndsSolid, show isBlank '(' = false by decide]
  rw [parse_of_addresses h, trimRight_append hsolid, parseOperation,
    dropWord?_eq_some_iff.mpr rfl]
  dsimp only
  rw [readFilterCall_trimRight]
  rfl

theorem parse_of_count (h : Addresses s.toList collection ("count()".toList ++ rest)) :
    parse s = .ok ⟨String.ofList collection, .count⟩ := by
  have hparenthesis : isBlank ')' = false := by decide
  have hsolid : EndsSolid "count()".toList := by simp [EndsSolid, hparenthesis]
  have hfind : dropWord? "find(" ("count()".toList ++ trimRight rest) = none :=
    dropWord?_eq_none_iff.mpr (by simp)
  rw [parse_of_addresses h, trimRight_append hsolid, parseOperation, hfind,
    dropWord?_eq_some_iff.mpr rfl]

theorem parse_of_other (h : Addresses s.toList collection command)
    (hfind : ¬ "find(".toList <+: command) (hcount : ¬ "count()".toList <+: command) :
    parse s = .error (.unsupported (.documentCommand (String.ofList (trimRight command)))) := by
  obtain ⟨-, w, -, hcommand⟩ := trimRight_eq_iff.mp (rfl : trimRight command = _)
  have hprefix : trimRight command <+: command := ⟨w, hcommand.symm⟩
  rw [parse_of_addresses h, parseOperation,
    dropWord?_eq_none_iff.mpr fun hp => hfind (hp.trans hprefix),
    dropWord?_eq_none_iff.mpr fun hp => hcount (hp.trans hprefix)]

end DocumentCommand

/-! ## The kinds of calls -/

theorem callsFind_iff : CallsFind text collection filter ↔
    Trimmed filter ∧ ∃ w₄ w₅ w₆, Blank w₄ ∧ Blank w₅ ∧ Blank w₆ ∧
      Addresses text collection ("find(".toList ++ (w₄ ++ filter ++ w₅ ++ ')' :: w₆)) := by
  constructor
  · rintro ⟨hcollection, hfilter, w₁, w₂, w₃, w₄, w₅, w₆, h₁, h₂, h₃, h₄, h₅, h₆, rfl⟩
    exact ⟨hfilter, w₄, w₅, w₆, h₄, h₅, h₆, hcollection, startsSolid_find.append (by simp),
      w₁, w₂, w₃, h₁, h₂, h₃, by simp⟩
  · rintro ⟨hfilter, w₄, w₅, w₆, h₄, h₅, h₆, hcollection, -, w₁, w₂, w₃, h₁, h₂, h₃, rfl⟩
    exact ⟨hcollection, hfilter, w₁, w₂, w₃, w₄, w₅, w₆, h₁, h₂, h₃, h₄, h₅, h₆, by simp⟩

theorem callsCount_iff : CallsCount text collection ↔
    ∃ rest, Addresses text collection ("count()".toList ++ rest) := by
  constructor
  · rintro ⟨hcollection, w₁, w₂, w₃, rest, h₁, h₂, h₃, rfl⟩
    exact ⟨rest, hcollection, startsSolid_count.append (by simp), w₁, w₂, w₃, h₁, h₂, h₃, by simp⟩
  · rintro ⟨rest, hcollection, -, w₁, w₂, w₃, h₁, h₂, h₃, rfl⟩
    exact ⟨hcollection, w₁, w₂, w₃, rest, h₁, h₂, h₃, by simp⟩

theorem callsOther_iff : CallsOther text ↔ ∃ collection command,
    Addresses text collection command ∧
      ¬ "find(".toList <+: command ∧ ¬ "count()".toList <+: command := by
  constructor
  · rintro ⟨front, back, rfl, hpoint, hblank, hfind, hcount⟩
    refine ⟨trim front, trimLeft back, addresses_iff.mpr ⟨?_, front, back, ?_, rfl, rfl⟩,
      hfind, hcount⟩
    · exact fun hnil => hblank (trim_eq_nil_iff.mp hnil)
    · exact cutFirst?_eq_some_iff.mpr ⟨rfl, hpoint⟩
  · rintro ⟨collection, command, haddress, hfind, hcount⟩
    obtain ⟨hne, front, back, hcut, rfl, rfl⟩ := addresses_iff.mp haddress
    obtain ⟨rfl, hpoint⟩ := cutFirst?_eq_some_iff.mp hcut
    exact ⟨front, back, rfl, hpoint, fun hb => hne (trim_eq_nil_iff.mpr hb), hfind, hcount⟩

theorem Addresses.unique {collection' command' : List Char}
    (h : Addresses text collection command) (h' : Addresses text collection' command') :
    collection' = collection ∧ command' = command := by
  obtain ⟨-, front, back, hcut, rfl, rfl⟩ := addresses_iff.mp h
  obtain ⟨-, front', back', hcut', rfl, rfl⟩ := addresses_iff.mp h'
  obtain ⟨rfl, rfl⟩ : front' = front ∧ back' = back := by simpa [hcut'] using hcut
  exact ⟨rfl, rfl⟩

/-- A call of `find` can be taken apart in one way. -/
theorem CallsFind.unique {collection' filter' : List Char} (h : CallsFind text collection filter)
    (h' : CallsFind text collection' filter') : collection' = collection ∧ filter' = filter := by
  obtain ⟨hfilter, w₄, w₅, w₆, h₄, h₅, h₆, haddress⟩ := callsFind_iff.mp h
  obtain ⟨hfilter', v₄, v₅, v₆, k₄, k₅, k₆, haddress'⟩ := callsFind_iff.mp h'
  obtain ⟨hcollection, hcommand⟩ := haddress.unique haddress'
  have hright := congrArg trimRight (List.append_cancel_left hcommand)
  rw [trimRight_call h₆, trimRight_call k₆] at hright
  have hinner : v₄ ++ filter' ++ v₅ = w₄ ++ filter ++ w₅ := List.append_cancel_right hright
  refine ⟨hcollection, ?_⟩
  calc
    filter' = trim (v₄ ++ filter' ++ v₅) := (trim_eq_iff.mpr ⟨hfilter', v₄, v₅, k₄, k₅, rfl⟩).symm
    _ = trim (w₄ ++ filter ++ w₅) := by rw [hinner]
    _ = filter := trim_eq_iff.mpr ⟨hfilter, w₄, w₅, h₄, h₅, rfl⟩

/-! ## What is read -/

namespace DocumentCommand

variable {s c : String}

theorem parse_of_callsFind (h : CallsFind s.toList c.toList filter) (his : IsFilter filter fields) :
    parse s = .ok ⟨c, .find fields⟩ := by
  obtain ⟨hfilter, w₄, w₅, w₆, h₄, h₅, h₆, haddress⟩ := callsFind_iff.mp h
  have hread := readFilterCall_eq_ok_iff.mpr ⟨filter, w₄, w₅, w₆, hfilter, h₄, h₅, h₆, rfl, his⟩
  rw [parse_of_find haddress, hread, String.ofList_toList]
  rfl

theorem parse_of_callsCount (h : CallsCount s.toList c.toList) : parse s = .ok ⟨c, .count⟩ := by
  obtain ⟨rest, haddress⟩ := callsCount_iff.mp h
  rw [parse_of_count haddress, String.ofList_toList]

theorem parse_of_callsOther (h : CallsOther s.toList) :
    ∃ what, parse s = .error (.unsupported what) := by
  obtain ⟨collection, command, haddress, hfind, hcount⟩ := callsOther_iff.mp h
  exact ⟨_, parse_of_other haddress hfind hcount⟩

/-- What a text may be read as; what is no call of the grammar is malformed. -/
inductive Reads (s : String) : Except CoreError DocumentCommand → Prop
  | find {c : String} {filter : List Char} {fields : ExtendedJson.Fields}
      (h : CallsFind s.toList c.toList filter) (his : IsFilter filter fields) :
      Reads s (.ok ⟨c, .find fields⟩)
  | count {c : String} (h : CallsCount s.toList c.toList) : Reads s (.ok ⟨c, .count⟩)
  | other {what : Unsupported} (h : CallsOther s.toList) : Reads s (.error (.unsupported what))
  | malformed {why : CommandFlaw} : Reads s (.error (.malformed why))

theorem reads_parse (s : String) : Reads s (parse s) := by
  by_cases h : ∃ collection command, Addresses s.toList collection command
  · obtain ⟨collection, command, haddress⟩ := h
    by_cases hfind : "find(".toList <+: command
    · obtain ⟨rest, rfl⟩ := hfind
      rw [parse_of_find haddress]
      cases hread : readFilterCall rest with
      | ok fields =>
        obtain ⟨filter, w₄, w₅, w₆, hfilter, h₄, h₅, h₆, rfl, his⟩ :=
          readFilterCall_eq_ok_iff.mp hread
        have hcalls := callsFind_iff.mpr ⟨hfilter, w₄, w₅, w₆, h₄, h₅, h₆, haddress⟩
        exact .find (by simpa using hcalls) his
      | error why => exact .malformed
    by_cases hcount : "count()".toList <+: command
    · obtain ⟨rest, rfl⟩ := hcount
      rw [parse_of_count haddress]
      exact .count (by simpa using callsCount_iff.mpr ⟨rest, haddress⟩)
    · rw [parse_of_other haddress hfind hcount]
      exact .other (callsOther_iff.mpr ⟨collection, command, haddress, hfind, hcount⟩)
  · rw [parse_of_unaddressed fun collection command haddress => h ⟨collection, command, haddress⟩]
    exact .malformed

/-- A call of `find` whose filter cannot be read is malformed. -/
theorem parse_of_badFilter (h : CallsFind s.toList collection filter)
    (hbad : ∀ fields, ¬ IsFilter filter fields) : ∃ why, parse s = .error (.malformed why) := by
  obtain ⟨hfilter, w₄, w₅, w₆, h₄, h₅, h₆, haddress⟩ := callsFind_iff.mp h
  have hparse := parse_of_find haddress
  cases hread : readFilterCall (w₄ ++ filter ++ w₅ ++ ')' :: w₆) with
  | ok fields =>
    obtain ⟨filter', v₄, v₅, v₆, hfilter', k₄, k₅, k₆, hrest, his⟩ :=
      readFilterCall_eq_ok_iff.mp hread
    rw [hrest] at haddress
    have h' := callsFind_iff.mpr ⟨hfilter', v₄, v₅, v₆, k₄, k₅, k₆, haddress⟩
    obtain ⟨-, rfl⟩ := h.unique h'
    exact absurd his (hbad fields)
  | error flaw =>
    rw [hread] at hparse
    exact ⟨flaw, hparse⟩

theorem parse_eq_find_iff : parse s = .ok ⟨c, .find fields⟩ ↔
    ∃ filter, CallsFind s.toList c.toList filter ∧ IsFilter filter fields := by
  constructor
  · intro h
    cases h ▸ reads_parse s with
    | find hcalls his => exact ⟨_, hcalls, his⟩
  · rintro ⟨filter, hcalls, his⟩
    exact parse_of_callsFind hcalls his

theorem parse_eq_count_iff : parse s = .ok ⟨c, .count⟩ ↔ CallsCount s.toList c.toList := by
  constructor
  · intro h
    cases h ▸ reads_parse s with
    | count hcalls => exact hcalls
  · exact parse_of_callsCount

theorem parse_unsupported_iff :
    (∃ what, parse s = .error (.unsupported what)) ↔ CallsOther s.toList := by
  constructor
  · rintro ⟨what, h⟩
    cases h ▸ reads_parse s with
    | other hother => exact hother
  · exact parse_of_callsOther

theorem parse_malformed_iff : (∃ why, parse s = .error (.malformed why)) ↔
    (¬ ∃ (c : String) (filter : List Char) (fields : ExtendedJson.Fields),
      CallsFind s.toList c.toList filter ∧ IsFilter filter fields) ∧
    (¬ ∃ c : String, CallsCount s.toList c.toList) ∧ ¬ CallsOther s.toList := by
  constructor
  · rintro ⟨why, h⟩
    refine ⟨?_, ?_, ?_⟩
    · rintro ⟨c, filter, fields, hcalls, his⟩
      rw [parse_of_callsFind hcalls his] at h
      cases h
    · rintro ⟨c, hcalls⟩
      rw [parse_of_callsCount hcalls] at h
      cases h
    · intro hother
      obtain ⟨what, hwhat⟩ := parse_of_callsOther hother
      rw [hwhat] at h
      cases h
  · rintro ⟨hfind, hcount, hother⟩
    generalize hresult : parse s = result
    cases hresult ▸ reads_parse s with
    | find hcalls his => exact absurd ⟨_, _, _, hcalls, his⟩ hfind
    | count hcalls => exact absurd ⟨_, hcalls⟩ hcount
    | other h => exact absurd h hother
    | malformed => exact ⟨_, rfl⟩

/-- **Commands are read by their grammar.** A call of `find` with a filter, and a call of `count`,
which has no filter, are read as what they are, and nothing else is. Another call behind a
collection is not supported, and every other text is malformed. A call of `find` is taken apart in
one way, whatever its filter looks like, and is malformed if its filter cannot be read. -/
theorem parse_grammar (s : String) :
    (∀ (c : String) (fields : ExtendedJson.Fields), parse s = .ok ⟨c, .find fields⟩ ↔
      ∃ filter, CallsFind s.toList c.toList filter ∧ IsFilter filter fields) ∧
    (∀ c : String, parse s = .ok ⟨c, .count⟩ ↔ CallsCount s.toList c.toList) ∧
    ((∃ what, parse s = .error (.unsupported what)) ↔ CallsOther s.toList) ∧
    ((∃ why, parse s = .error (.malformed why)) ↔
      (¬ ∃ (c : String) (filter : List Char) (fields : ExtendedJson.Fields),
        CallsFind s.toList c.toList filter ∧ IsFilter filter fields) ∧
      (¬ ∃ c : String, CallsCount s.toList c.toList) ∧ ¬ CallsOther s.toList) ∧
    ∀ collection filter : List Char, CallsFind s.toList collection filter →
      (∀ collection' filter', CallsFind s.toList collection' filter' →
        collection' = collection ∧ filter' = filter) ∧
      ((∀ fields, ¬ IsFilter filter fields) → ∃ why, parse s = .error (.malformed why)) :=
  ⟨fun _ _ => parse_eq_find_iff, fun _ => parse_eq_count_iff, parse_unsupported_iff,
    parse_malformed_iff, fun _ _ h => ⟨fun _ _ => h.unique, parse_of_badFilter h⟩⟩

end DocumentCommand

end Polystore
