import Polystore.Connection
import Polystore.Proofs.Native.Reported
import Polystore.Proofs.Table.Cells

/-!
# Errors of connections

Each engine has its own watch over its client: relational engines take every failure on the way for
an error of the engine, and the others take only the errors that their own client knows. With
answers of the right shape nothing else fails outside the taxonomy.

* `Connection.isWatched`: what an engine watches for;
* **`Connection.reports_execute`**, `Connection.reports_executeDefinition`,
  `Connection.reports_schema`: every command reports the errors of its client under this watch.
-/

namespace Polystore

open Session

/-- A failure that callers are told about. -/
def Failure.IsCore (f : Failure) : Prop := ∃ e, f = .core e

variable {n : Nat} {sql table text : String} {own : Failure → Prop}

/-- A session on the way of a relational engine hands all errors on; it may fail by itself. -/
def Session.RelaysAny {α : Type} (P : α → Prop) (s : Session α) : Prop :=
  s.Reports (fun _ => true) unwatched anyFailure P

/-- Errors that are watched for become errors of the engine. -/
theorem reports_watching {α : Type} {s : Session α} {P : α → Prop} {watched : NativeKind → Bool}
    (hs : s.Reports watched unwatched noFailure P) :
    (s.mapFailure (watching watched)).Reports watched (watchedReport watched) Failure.IsCore P :=
  hs.mapFailure (fun _ => rfl) nofun

theorem replyInteger_of_isSome {v : Value} (h : v.asInt?.isSome = true) :
    ∃ n, replyInteger v = .ok n := by
  cases v with
  | int n | int64 n => exact ⟨n, rfl⟩
  | _ => cases h

/-! ## Relational engines -/

/-- Rows of one width. -/
def EvenRows (rows : List (List NativeCell)) : Prop := ∃ width, ∀ row ∈ rows, row.length = width

theorem RecordSet.IsEven.zipWith {γ δ : Type} {r : RecordSet γ} (h : r.IsEven) (columns : List δ)
    (hcolumns : columns.length = r.columns.length) (make : δ → Value → NativeCell) :
    EvenRows (r.rows.map fun row => List.zipWith make columns row) := by
  refine ⟨r.columns.length, ?_⟩
  simp only [List.forall_mem_map, List.length_zipWith]
  intro row hrow
  rw [h row hrow, hcolumns, Nat.min_self]

namespace Sqlite

theorem reports_records : (records n sql).RelaysAny RecordSet.IsEven :=
  .bind (.ask rfl (fun _ => rfl) fun _ h => h) fun _ hrecords =>
    .bind (.atEnd (.ask rfl (fun _ => rfl) fun _ _ => trivial)
      (.ask rfl (fun _ => rfl) fun _ _ => trivial)) fun _ _ => .pure hrecords

theorem reports_fetch : (fetch n sql).RelaysAny EvenRows :=
  reports_records.bind fun _ hrecords => .pure (hrecords.zipWith _ rfl nativeCell)

theorem reports_execute : (execute n sql).RelaysAny fun _ => True :=
  .ask rfl (fun _ => rfl) fun _ _ => trivial

theorem reports_entries : (entries n).RelaysAny fun _ => True :=
  reports_records.bind fun _ _ => .ofFault (fun _ _ => trivial) fun _ _ => trivial

theorem reports_columns : (columns n table).RelaysAny fun _ => True :=
  reports_records.bind fun _ _ => .ofFault (fun _ _ => trivial) fun _ _ => trivial

end Sqlite

namespace Postgres

theorem reports_fetch : (fetch n sql).RelaysAny EvenRows :=
  .bind (P := RecordSet.IsEven) (.ask rfl (fun _ => rfl) fun _ h => h) fun _ hrecords =>
    .bind (.ask rfl (fun _ => rfl) fun _ _ => trivial) fun _ _ =>
      .pure (hrecords.zipWith _ rfl NativeCell.mk)

theorem reports_execute : (execute n sql).RelaysAny fun _ => True :=
  .ask rfl (fun _ => rfl) fun _ _ => trivial

theorem reports_entries : (entries n).RelaysAny fun _ => True :=
  .bind (P := fun _ => True) (.ask rfl (fun _ => rfl) fun _ _ => trivial) fun _ _ =>
    .ofFault (fun _ _ => trivial) fun _ _ => trivial

theorem reports_columns : (columns n table).RelaysAny fun _ => True :=
  .bind (P := fun _ => True) (.ask rfl (fun _ => rfl) fun _ _ => trivial) fun _ _ =>
    .ofFault (fun _ _ => trivial) fun _ _ => trivial

end Postgres

namespace Mysql

theorem reports_records {arguments : Option (List String)} :
    (records n sql arguments).RelaysAny RecordSet.IsEven :=
  .atEnd (.ask rfl (fun _ => rfl) fun _ h => h) (.ask rfl (fun _ => rfl) fun _ _ => trivial)

theorem reports_fetch : (fetch n sql).RelaysAny EvenRows :=
  reports_records.bind fun _ hrecords => .pure (hrecords.zipWith _ (by simp) NativeCell.mk)

theorem reports_execute : (execute n sql).RelaysAny fun _ => True :=
  reports_records.bind fun _ _ => .pure trivial

theorem reports_entries : (entries n).RelaysAny fun _ => True :=
  reports_records.bind fun _ _ => .ofFault (fun _ _ => trivial) fun _ _ => trivial

theorem reports_columns : (columns n table).RelaysAny fun _ => True :=
  reports_records.bind fun _ _ => .ofFault (fun _ _ => trivial) fun _ _ => trivial

end Mysql

namespace Relational

variable (c : Relational)

theorem reports_fetch : (c.fetch sql).RelaysAny EvenRows := by
  unfold fetch
  cases c.engine with
  | sqlite => exact Sqlite.reports_fetch
  | postgres => exact Postgres.reports_fetch
  | mysql => exact Mysql.reports_fetch

theorem reports_entries : c.entries.RelaysAny fun _ => True := by
  unfold entries
  cases c.engine with
  | sqlite => exact Sqlite.reports_entries
  | postgres => exact Postgres.reports_entries
  | mysql => exact Mysql.reports_entries

theorem reports_columns : (c.columns table).RelaysAny fun _ => True := by
  unfold columns
  cases c.engine with
  | sqlite => exact Sqlite.reports_columns
  | postgres => exact Postgres.reports_columns
  | mysql => exact Mysql.reports_columns

/-- Whatever goes wrong on the way becomes an error of the engine. -/
theorem reports_asNativeError {α : Type} {s : Session α} {P : α → Prop}
    (hs : s.RelaysAny P) :
    (s.mapFailure asNativeError).Reports (fun _ => true) (watchedReport fun _ => true)
      Failure.IsCore P :=
  hs.mapFailure (fun _ => rfl) fun _ _ => ⟨_, rfl⟩

theorem reports_execute : (c.execute sql).Reports (fun _ => true) (watchedReport fun _ => true)
    Failure.IsCore fun _ => True := by
  refine (reports_asNativeError c.reports_fetch).bind fun rows ⟨width, hrows⟩ => ?_
  obtain ⟨t, ht, -⟩ := exists_tabulated (even_of_width hrows)
  rw [ht]
  exact .pure trivial

theorem reports_executeDefinition : (c.executeDefinition sql).Reports (fun _ => true)
    (watchedReport fun _ => true) Failure.IsCore fun _ => True := by
  refine reports_asNativeError ?_
  cases c.engine with
  | sqlite => exact Sqlite.reports_execute
  | postgres => exact Postgres.reports_execute
  | mysql => exact Mysql.reports_execute

theorem reports_schema : c.schema.Reports (fun _ => true) (watchedReport fun _ => true)
    Failure.IsCore fun _ => True :=
  reports_asNativeError <| c.reports_entries.bind fun _ _ =>
    .mapM fun _ _ => c.reports_columns.bind (Q := fun _ => True) fun _ _ => .pure trivial

end Relational

/-! ## Documents -/

namespace Mongo

variable (c : Mongo)

/-- Documents that are maps are gone through up to the error behind them. -/
theorem exists_documents {items : List Value} (h : ∀ v ∈ items, ∃ entries, v = .map entries) :
    ∃ documents, items.mapM documentFields = .ok documents := by
  induction items with
  | nil => exact ⟨[], rfl⟩
  | cons v items ih =>
    obtain ⟨entries, rfl⟩ := h v List.mem_cons_self
    obtain ⟨documents, hdocuments⟩ := ih fun w hw => h w (List.mem_cons_of_mem _ hw)
    refine ⟨normalizeDocument entries :: documents, ?_⟩
    rw [List.mapM_cons, hdocuments]
    rfl

theorem reports_find {collection : String} {filter : ExtendedJson.Fields} :
    (c.find collection filter).Reports NativeKind.isDocument unwatched noFailure
      fun _ => True := by
  refine .ask_bind rfl fun (stream : DocumentStream) hmaps => ?_
  obtain ⟨documents, hdocuments⟩ := exists_documents hmaps
  cases hfailure : stream.failure with
  | none =>
    have hdrain : drain stream = .ok documents := by
      rw [drain, hdocuments, hfailure]
      rfl
    refine .inl ⟨by rw [Exchange.raised?_find, hfailure, Option.map_none], ?_⟩
    rw [hdrain]
    change Reports _ _ _ _ (ofFault ((tabulateDocuments documents).mapError .ragged))
    rw [tabulateDocuments_eq]
    exact .pure trivial
  | some e =>
    have hdrain : drain stream = .error (.native e) := by
      rw [drain, hdocuments, hfailure]
      rfl
    refine .inr ⟨e, by rw [Exchange.raised?_find, hfailure, Option.map_some], ?_⟩
    rw [hdrain]
    rfl

theorem reports_perform {command : DocumentCommand} :
    (c.perform command).Reports NativeKind.isDocument unwatched noFailure fun reply =>
      ∀ count, reply = .inr count → count.asInt?.isSome = true := by
  refine .bind (P := fun _ => True) (.ask rfl (fun _ => rfl) fun _ _ => trivial) fun _ _ => ?_
  cases command.operation with
  | find filter => exact c.reports_find.bind fun _ _ => .pure nofun
  | count =>
    refine .bind (P := fun count => (Value.asInt? count).isSome = true)
      (.ask rfl (fun _ => rfl) fun _ h => h) fun count hcount => .pure ?_
    rintro _ ⟨⟩
    exact hcount

theorem reports_execute : (c.execute text).Reports NativeKind.isDocument
    (watchedReport NativeKind.isDocument) Failure.IsCore fun _ => True := by
  refine .bind (P := fun _ => True) (.ofCore (fun _ _ => trivial) fun e _ => ⟨e, rfl⟩)
    fun command _ => ?_
  refine (reports_watching c.reports_perform).bind fun reply hreply => ?_
  cases reply with
  | inl table => exact .pure trivial
  | inr count =>
    obtain ⟨n, hn⟩ := replyInteger_of_isSome (hreply count rfl)
    dsimp only
    rw [hn]
    exact .pure trivial

theorem reports_executeDefinition : (c.executeDefinition text).Reports NativeKind.isDocument
    (watchedReport NativeKind.isDocument) Failure.IsCore fun _ => True :=
  c.reports_execute.bind fun _ _ => .pure trivial

theorem reports_schema : c.schema.Reports NativeKind.isDocument
    (watchedReport NativeKind.isDocument) Failure.IsCore fun _ => True := by
  refine (reports_watching (P := fun names => ∃ items, names = Value.list items)
    (.ask rfl (fun _ => rfl) fun _ h => h)).bind fun names hitems => ?_
  obtain ⟨items, rfl⟩ := hitems
  exact .pure trivial

end Mongo

/-! ## Keys -/

namespace Redis

variable (c : Redis)

theorem reports_sizeOf {type : Option KeyType} {key : Value} :
    (c.sizeOf type key).Reports NativeKind.isKeyValue unwatched noFailure fun _ => True := by
  cases type with
  | none => exact .pure trivial
  | some type =>
    refine .bind (P := fun number => (Value.asInt? number).isSome = true)
      (.ask rfl (fun _ => rfl) fun _ h => h) fun number hnumber => ?_
    obtain ⟨n, hn⟩ := replyInteger_of_isSome hnumber
    rw [hn]
    exact .pure trivial

theorem reports_keyInfo {key : Value} :
    (c.keyInfo key).Reports NativeKind.isKeyValue unwatched noFailure fun _ => True := by
  refine .bind (P := fun word => ∃ name, word = Value.text name)
    (.ask rfl (fun _ => rfl) fun _ h => h) fun word hword => ?_
  obtain ⟨name, rfl⟩ := hword
  refine .bind (P := fun _ => True) (.pure trivial) fun type _ => ?_
  refine c.reports_sizeOf.bind fun size _ => ?_
  refine .bind (P := fun number => (Value.asInt? number).isSome = true)
    (.ask rfl (fun _ => rfl) fun _ h => h) fun seconds hseconds => ?_
  obtain ⟨n, hn⟩ := replyInteger_of_isSome hseconds
  rw [hn]
  exact .bind (P := fun _ => True) (.pure trivial) fun _ _ => .pure trivial

theorem reports_keys {pattern : String} : (c.keys pattern).Reports NativeKind.isKeyValue
    (watchedReport NativeKind.isKeyValue) Failure.IsCore fun _ => True := by
  refine reports_watching (.bind (P := fun listing => ∃ items, listing = Value.list items)
    (.ask rfl (fun _ => rfl) fun _ h => h) fun listing hlisting => ?_)
  obtain ⟨items, rfl⟩ := hlisting
  exact .bind (P := fun _ => True) (.pure trivial) fun _ _ => .mapM fun _ _ => c.reports_keyInfo

theorem reports_execute : (c.execute text).Reports NativeKind.isKeyValue
    (watchedReport NativeKind.isKeyValue) Failure.IsCore fun _ => True := by
  refine .bind (P := fun _ => True) (.ofCore (fun _ _ => trivial) fun e _ => ⟨e, rfl⟩)
    fun command _ => ?_
  exact (reports_watching (P := fun _ => True) (.ask rfl (fun _ => rfl) fun _ _ => trivial)).bind
    fun _ _ => .pure trivial

theorem reports_executeDefinition : (c.executeDefinition text).Reports NativeKind.isKeyValue
    (watchedReport NativeKind.isKeyValue) Failure.IsCore fun _ => True :=
  c.reports_execute.bind fun _ _ => .pure trivial

theorem reports_schema : c.schema.Reports NativeKind.isKeyValue
    (watchedReport NativeKind.isKeyValue) Failure.IsCore fun _ => True :=
  c.reports_keys.bind fun _ _ => .pure trivial

end Redis

/-! ## Connections of any family -/

namespace Connection

/-- What the engine of a connection watches for. -/
def isWatched : Connection → NativeKind → Bool
  | .relational _ => fun _ => true
  | .document _ => NativeKind.isDocument
  | .keyValue _ => NativeKind.isKeyValue

/-- A command reports the errors of its client, and fails otherwise only as callers are told. -/
def Tells {α : Type} (c : Connection) (s : Session α) : Prop :=
  s.Reports c.isWatched (watchedReport c.isWatched) Failure.IsCore fun _ => True

variable (c : Connection)

theorem tells_execute : c.Tells (c.execute text) := by
  cases c with
  | relational c => exact c.reports_execute
  | document c => exact c.reports_execute
  | keyValue c => exact c.reports_execute

theorem tells_executeDefinition : c.Tells (c.executeDefinition text) := by
  cases c with
  | relational c => exact c.reports_executeDefinition
  | document c => exact c.reports_executeDefinition
  | keyValue c => exact c.reports_executeDefinition

theorem tells_schema : c.Tells c.schema := by
  cases c with
  | relational c => exact c.reports_schema
  | document c => exact c.reports_schema
  | keyValue c => exact c.reports_schema

end Connection

end Polystore
