import Polystore.Connection
import Polystore.Proofs.Json.Written
import Polystore.Proofs.Native.Exchange
import Polystore.Proofs.Table.Cells
import Polystore.Proofs.Value.Fixed

/-!
# What tables hold

Whatever the clients of an engine reply, the cells of its tables are normal: a relational engine and
a key-value store normalize each cell, a document store each field. Three things are handed on as
they come, the number of documents that a client counts, the fields of a hash, and the positions in
a list; they are writable because of what clients hand over.

* `Request.IsDecoded`, `Exchange.IsDecoded`: what clients hand over;
* `Table.IsWritable`: tables all of whose cells have a JSON text;
* `Connection.Tabulates`: the sessions that give tables;
* **`Connection.Tabulates.yields_isWritable`**.
-/

namespace Polystore

open Number Session

/-! ## Writable tables -/

/-- Every cell has a JSON text. -/
def Table.IsWritable (t : Table) : Prop := ∀ row ∈ t.rows, ∀ v ∈ row, v.IsWritable

variable {t : Table}

theorem Table.isWritable_single {column : Column} {cell : Value} (h : cell.IsWritable) :
    (Table.single column cell).IsWritable := by
  simpa [Table.IsWritable, Table.single] using h

theorem isWritable_of_tabulate {rows : List (List NativeCell)} (h : tabulate rows = .ok t) :
    t.IsWritable := by
  cases rows with
  | nil =>
    cases h
    exact fun _ hrow => absurd hrow List.not_mem_nil
  | cons first rest =>
    intro row hrow v hv
    rw [(Table.build_eq_ok_iff.mp h).2] at hrow
    obtain ⟨cells, -, rfl⟩ := List.mem_map.mp hrow
    obtain ⟨cell, -, rfl⟩ := List.mem_map.mp hv
    exact (isNormal_normalize _ _).isWritable

theorem isWritable_tableOf {documents : List Document}
    (h : ∀ d ∈ documents, ∀ entry ∈ d, entry.2.IsNormal) : (tableOf documents).IsWritable := by
  intro row hrow v hv
  obtain ⟨d, hd, rfl⟩ := List.mem_map.mp hrow
  obtain ⟨column, -, rfl⟩ := List.mem_map.mp hv
  cases hget : OrderedMap.get? d column.name with
  | none => exact .null
  | some w => exact (h d hd _ (OrderedMap.mem_of_get? hget)).isWritable

/-! ## Replies -/

/-- What a document client hands over: the number of documents has no more digits than are ever
written. -/
def MongoRequest.IsDecoded : (r : MongoRequest) → r.Answer → Prop
  | .countDocuments _, count => ∀ n, replyInteger count = .ok n → n.natAbs < tenPow maxDigits
  | _, _ => True

/-- What a key-value client hands over: the fields of a hash are texts, and a list has a length of
64 bits. -/
def RedisRequest.IsDecoded : (r : RedisRequest) → r.Answer → Prop
  | .read .hash _, hash =>
    ∀ entries, replyEntries hash = .ok entries → ∀ entry ∈ entries, ∃ s, entry.1 = .text s
  | .read .list _, list => ∀ items, replyItems list = .ok items → (items.length : Int) ≤ maxInt64
  | _, _ => True

/-- What clients hand over. Relational clients may hand over anything. -/
def Request.IsDecoded : (r : Request) → r.Answer → Prop
  | .mongo r, answer => r.IsDecoded answer
  | .redis r, answer => r.IsDecoded answer
  | _, _ => True

/-- If a client answers, it hands over what is known of its answers. -/
def Exchange.IsDecoded (x : Exchange) : Prop :=
  ∀ answer, x.reply = .ok answer → x.call.request.IsDecoded answer

/-! ## Engines -/

variable {text : String}

theorem Relational.yields_isWritable (c : Relational) :
    (c.execute text).Yields Exchange.IsDecoded Table.IsWritable :=
  .bind (P := fun _ => True) (.of_forall fun _ => trivial) fun _ _ =>
    .ofFault fun _ h => isWritable_of_tabulate (Except.mapError_eq_ok_iff.mp h)

namespace Mongo

variable (c : Mongo)

theorem isNormal_of_documentFields {v : Value} {d : Document} (h : documentFields v = .ok d) :
    ∀ entry ∈ d, entry.2.IsNormal := by
  obtain ⟨entries, -, hd⟩ := Except.bind_eq_ok_iff.mp h
  cases hd
  exact fun entry he => isNormal_normalizeEntries entries entry (OrderedMap.mem_of_mem_ofList he)

theorem isNormal_of_drain {stream : DocumentStream} {documents : List Document}
    (h : drain stream = .ok documents) : ∀ d ∈ documents, ∀ entry ∈ d, entry.2.IsNormal := by
  obtain ⟨all, hall, hend⟩ := Except.bind_eq_ok_iff.mp h
  intro d hd
  split at hend
  · cases hend
    obtain ⟨v, -, hv⟩ := Except.exists_of_mapM_eq_ok hall hd
    exact isNormal_of_documentFields hv
  · cases hend

theorem yields_find {collection : String} {filter : ExtendedJson.Fields} :
    (c.find collection filter).Yields Exchange.IsDecoded Table.IsWritable := by
  refine .bind (P := fun _ => True) (.of_forall fun _ => trivial) fun stream _ => ?_
  refine .bind (.ofFault fun documents h => isNormal_of_drain h) fun documents hdocuments => ?_
  rw [tabulateDocuments_eq]
  exact .pure (isWritable_tableOf hdocuments)

/-- What an operation asks for: a writable table, or a number of documents that is writable. -/
def IsDecodedResult : Table ⊕ Value → Prop
  | .inl t => t.IsWritable
  | .inr count => ∀ n, replyInteger count = .ok n → n.natAbs < tenPow maxDigits

theorem yields_perform {command : DocumentCommand} :
    (c.perform command).Yields Exchange.IsDecoded IsDecodedResult := by
  refine .bind (P := fun _ => True) (.of_forall fun _ => trivial) fun _ _ => ?_
  cases command.operation with
  | find filter => exact c.yields_find.bind fun t ht => .pure ht
  | count =>
    exact .bind (P := fun count => IsDecodedResult (.inr count)) (.ask fun count h => h count rfl)
      fun count hcount => .pure hcount

theorem yields_isWritable : (c.execute text).Yields Exchange.IsDecoded Table.IsWritable := by
  refine .bind (P := fun _ => True) (.of_forall fun _ => trivial) fun command _ => ?_
  refine .bind c.yields_perform.mapFailure fun result hresult => ?_
  cases result with
  | inl t => exact .pure hresult
  | inr count =>
    exact .bind (P := fun n : Int => n.natAbs < tenPow maxDigits)
      (.ofFault fun n hn => hresult n hn) fun n hn => .pure (Table.isWritable_single (.int n hn))

end Mongo

namespace Redis

variable (c : Redis) {key : String}

theorem isWritable_storedText (v : Value) : (storedText v).IsWritable :=
  (isNormal_normalize v _).isWritable

theorem isWritable_storedScore (v : Value) : (storedScore v).IsWritable :=
  (isNormal_normalize v _).isWritable

/-- The positions in a list are written as long as its length is. -/
theorem isWritable_listRows {items : List Value} {position : Nat}
    (h : ((position + items.length : Nat) : Int) ≤ maxInt64 + 1) :
    ∀ row ∈ listRows position items, ∀ v ∈ row, v.IsWritable := by
  induction items generalizing position with
  | nil => exact fun _ hrow => absurd hrow List.not_mem_nil
  | cons item items ih =>
    rw [List.length_cons] at h
    have hposition : isInt64 position = true := by
      have hmin : minInt64 = -9223372036854775808 := rfl
      simp only [isInt64, Bool.and_eq_true, decide_eq_true_eq]
      omega
    refine List.forall_mem_cons.mpr ⟨?_, ih (by omega)⟩
    refine List.forall_mem_cons.mpr ⟨(Value.IsNormal.int _ hposition).isWritable, ?_⟩
    exact List.forall_mem_singleton.mpr (isWritable_storedText item)

/-- Whatever a key holds, its rows are writable. -/
theorem isWritable_keyRows {type : KeyType} {reply : Value} {rows : List (List Value)}
    (hreply : RedisRequest.IsDecoded (.read type (.text key)) reply)
    (h : keyRows key reply type = .ok rows) : ∀ row ∈ rows, ∀ v ∈ row, v.IsWritable := by
  cases type with
  | text =>
    cases h
    refine List.forall_mem_singleton.mpr (List.forall_mem_cons.mpr ⟨.text key, ?_⟩)
    exact List.forall_mem_singleton.mpr (isWritable_storedText reply)
  | list =>
    obtain ⟨items, hitems, hrows⟩ := Except.bind_eq_ok_iff.mp h
    cases hrows
    exact isWritable_listRows (by have := hreply items hitems; omega)
  | hash =>
    obtain ⟨entries, hentries, hrows⟩ := Except.bind_eq_ok_iff.mp h
    cases hrows
    refine List.forall_mem_map.mpr fun entry he => List.forall_mem_cons.mpr ⟨?_, ?_⟩
    · obtain ⟨field, hfield⟩ := hreply entries hentries entry he
      exact hfield ▸ .text field
    · exact List.forall_mem_singleton.mpr (isWritable_storedText entry.2)
  | set =>
    obtain ⟨items, -, hrows⟩ := Except.bind_eq_ok_iff.mp h
    cases hrows
    exact List.forall_mem_map.mpr fun item _ =>
      List.forall_mem_singleton.mpr (isWritable_storedText item)
  | sortedSet =>
    obtain ⟨items, -, h⟩ := Except.bind_eq_ok_iff.mp h
    obtain ⟨pairs, -, hrows⟩ := Except.bind_eq_ok_iff.mp h
    cases hrows
    refine List.forall_mem_map.mpr fun pair _ =>
      List.forall_mem_cons.mpr ⟨isWritable_storedText pair.1, ?_⟩
    exact List.forall_mem_singleton.mpr (isWritable_storedScore pair.2)

theorem yields_isWritable : (c.execute text).Yields Exchange.IsDecoded Table.IsWritable := by
  refine .bind (P := fun _ => True) (.of_forall fun _ => trivial) fun command _ => ?_
  exact .bind (P := fun _ => True) (.of_forall fun _ => trivial) fun _ _ =>
    .pure (Table.isWritable_single (.text _))

theorem yields_readKey : (c.readKey key).Yields Exchange.IsDecoded
    fun result => ∀ t, result.2 = some t → t.IsWritable := by
  refine .bind (P := fun _ => True) (.of_forall fun _ => trivial) fun reply _ => ?_
  cases KeyType.ofReply? reply with
  | none => exact .pure fun t ht => nomatch ht
  | some type =>
    refine .bind (P := RedisRequest.IsDecoded (.read type (.text key)))
      (.ask fun content h => h content rfl) fun content hcontent => ?_
    refine .bind (.ofFault fun rows h => isWritable_keyRows hcontent h) fun rows hrows => ?_
    refine .bind (P := fun t => t.rows = rows)
      (.ofFault fun t h => (Table.build_eq_ok_iff.mp (Except.mapError_eq_ok_iff.mp h)).2)
      fun t ht => ?_
    refine .pure fun _ heq => ?_
    cases heq
    exact fun row hrow => hrows row (ht ▸ hrow)

theorem yields_value : (c.value key).Yields Exchange.IsDecoded Table.IsWritable := by
  refine .bind c.yields_readKey.mapFailure fun result hresult => ?_
  obtain ⟨type, table⟩ := result
  cases table with
  | some t => exact .pure (hresult t rfl)
  | none =>
    exact .bind (P := fun _ => True) (.of_forall fun _ => trivial) fun name _ =>
      .pure (Table.isWritable_single (.text _))

end Redis

/-- The sessions of a connection that give tables: a command, and reading a key. -/
inductive Connection.Tabulates : Connection → Session Table → Prop
  | execute (c : Connection) (text : String) : Tabulates c (c.execute text)
  | value (c : Redis) (key : String) : Tabulates (.keyValue c) (c.value key)

/-- **Every table of an engine is writable.** -/
theorem Connection.Tabulates.yields_isWritable {c : Connection} {s : Session Table}
    (h : c.Tabulates s) : s.Yields Exchange.IsDecoded Table.IsWritable := by
  cases h with
  | execute text =>
    cases c with
    | relational c => exact c.yields_isWritable
    | document c => exact c.yields_isWritable
    | keyValue c => exact c.yields_isWritable
  | value c key => exact c.yields_value

end Polystore
