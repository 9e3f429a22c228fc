import Polystore.Engine.Relational
import Polystore.Proofs.Engine.Catalog
import Polystore.Proofs.Native.Reported

/-!
# Reading a schema

A relational engine reads its schema in several queries: one for the catalog, and one for the
columns of each table and view in the order of the catalog. The first call that fails ends the
reading, and there is no schema then.

* `Exchange.isQuery`, `queries`, `replies`: the calls that do not only handle a cursor, and the rows
  they are answered with; `Stops`: there are none after an error;
* `HandsOver`, `ReadsOut`: one query, and what is read out of its answer;
* `Described`: entries beside the catalog and the columns;
* `Relational.Lists`, **`Relational.meets_entries`**: from a catalog to the entries, by induction on
  the catalog;
* `Relational.SchemaRead`, **`Relational.schema_read`**: how a schema is read.
-/

namespace Polystore

open Except Session

/-! ## Queries -/

/-- The requests that handle the cursor of the query before. -/
def Request.isCursor : Request → Bool
  | .sqlite .fetchAll => true
  | .sqlite .closeCursor => true
  | .mysql .closeCursor => true
  | _ => false

namespace Exchange

/-- Whether the call does more than to handle a cursor. -/
def isQuery (x : Exchange) : Bool := !x.call.request.isCursor

/-- The rows that a query is answered with. -/
def rows? : Exchange → Option (List (List Value))
  | ⟨⟨_, .sqlite (.execute _)⟩, .ok r⟩ => some (RecordSet.rows (γ := String) r)
  | ⟨⟨_, .postgres (.fetch ..)⟩, .ok rows⟩ => some rows
  | ⟨⟨_, .mysql (.execute ..)⟩, .ok r⟩ => some (RecordSet.rows (γ := String × Int) r)
  | _ => none

theorem rows?_eq_none {x : Exchange} (h : x.isQuery = false) : x.rows? = none := by
  unfold rows?
  split <;> first | rfl | cases h

theorem raised?_of_isCursor {n : Nat} {r : Request} (h : r.isCursor = true) {answer : r.Answer} :
    raised? ⟨⟨n, r⟩, .ok answer⟩ = none := by
  unfold Request.isCursor at h
  split at h
  · rfl
  · rfl
  · rfl
  · cases h

end Exchange

/-- The calls that do more than to handle a cursor. -/
def queries (xs : List Exchange) : List Call := (xs.filter Exchange.isQuery).map Exchange.call

/-- The rows that queries are answered with. -/
def replies (xs : List Exchange) : List (List (List Value)) := xs.filterMap Exchange.rows?

/-- After an error, no query is made. -/
def Stops (xs : List Exchange) : Prop :=
  xs.Pairwise fun x y => x.raised?.isSome = true → y.isQuery = false

section Lists

variable {xs ys : List Exchange}

theorem queries_append : queries (xs ++ ys) = queries xs ++ queries ys := by simp [queries]

theorem replies_append : replies (xs ++ ys) = replies xs ++ replies ys := List.filterMap_append

theorem Stops.append (hnone : lastRaised? xs = none) (hx : Stops xs) (hy : Stops ys) :
    Stops (xs ++ ys) := by
  refine List.pairwise_append.mpr ⟨hx, hy, fun x hmem y _ hraised => ?_⟩
  rw [lastRaised?_eq_none_iff.mp hnone x hmem] at hraised
  cases hraised

end Lists

/-! ## One query -/

/-- Exchanges that begin with a query and have no other one. -/
def Queried (call : Call) (xs : List Exchange) : Prop :=
  ∃ x ys, xs = x :: ys ∧ x.call = call ∧ x.isQuery = true ∧ ∀ y ∈ ys, y.isQuery = false

namespace Queried

variable {call : Call} {xs : List Exchange}

theorem queries_eq (h : Queried call xs) : queries xs = [call] := by
  obtain ⟨x, ys, rfl, rfl, hx, hys⟩ := h
  have hnone : ys.filter Exchange.isQuery = [] := List.filter_eq_nil_iff.mpr (by simpa using hys)
  simp [queries, hx, hnone]

theorem stops (h : Queried call xs) : Stops xs := by
  obtain ⟨x, ys, rfl, -, -, hys⟩ := h
  refine List.pairwise_cons.mpr ⟨fun y hy _ => hys y hy, ?_⟩
  exact List.pairwise_of_forall_mem_list fun _ _ y hy _ => hys y hy

end Queried

/-- Calls that handle a cursor give an answer, or the last error that was raised. -/
structure HandlesCursor {α : Type} (xs : List Exchange) (result : Except Failure α) : Prop where
  silent : ∀ x ∈ xs, x.isQuery = false
  raised : ∀ r e, lastRaised? xs = some (r, e) → result = .error (unwatched e)
  handled : lastRaised? xs = none → ∃ y, result = .ok y

/-- One query hands over its rows, or the last error that was raised. -/
structure HandsOver (call : Call) (xs : List Exchange)
    (result : Except Failure (List (List Value))) : Prop where
  queried : Queried call xs
  raised : ∀ r e, lastRaised? xs = some (r, e) → result = .error (unwatched e)
  answered : lastRaised? xs = none → ∃ rows, replies xs = [rows] ∧ result = .ok rows

section Cursors

variable {α β : Type} {xs ys : List Exchange} {ended : Except Failure β}

theorem HandlesCursor.replies_eq_nil (h : HandlesCursor ys ended) : replies ys = [] :=
  List.filterMap_eq_nil_iff.mpr fun x hx => Exchange.rows?_eq_none (h.silent x hx)

/-- The last error counts, whichever part has raised it. -/
theorem HandlesCursor.raised_append {result : Except Failure α} (hy : HandlesCursor ys ended)
    (hx : ∀ r e, lastRaised? xs = some (r, e) → result = .error (unwatched e)) (r : Request)
    (e : NativeError) (hlast : lastRaised? (xs ++ ys) = some (r, e)) :
    (ended.bind fun _ => result) = .error (unwatched e) := by
  rw [lastRaised?_append] at hlast
  cases hys : lastRaised? ys with
  | some re =>
    rw [hys, Option.some_or] at hlast
    cases hlast
    rw [hy.raised r e hys]
    rfl
  | none =>
    rw [hys, Option.none_or] at hlast
    obtain ⟨y, rfl⟩ := hy.handled hys
    exact hx r e hlast

theorem HandlesCursor.append {result : Except Failure α} (hx : HandlesCursor xs result)
    (hy : HandlesCursor ys ended) : HandlesCursor (xs ++ ys) (ended.bind fun _ => result) where
  silent := List.forall_mem_append.mpr ⟨hx.silent, hy.silent⟩
  raised := hy.raised_append hx.raised
  handled hnone := by
    rw [lastRaised?_append, Option.or_eq_none_iff] at hnone
    obtain ⟨y, rfl⟩ := hy.handled hnone.1
    exact hx.handled hnone.2

theorem HandsOver.append {call : Call} {result : Except Failure (List (List Value))}
    (hx : HandsOver call xs result) (hy : HandlesCursor ys ended) :
    HandsOver call (xs ++ ys) (ended.bind fun _ => result) where
  queried := by
    obtain ⟨x, zs, rfl, hcall, hquery, hzs⟩ := hx.queried
    exact ⟨x, zs ++ ys, rfl, hcall, hquery, List.forall_mem_append.mpr ⟨hzs, hy.silent⟩⟩
  raised := hy.raised_append hx.raised
  answered hnone := by
    rw [lastRaised?_append, Option.or_eq_none_iff] at hnone
    obtain ⟨y, rfl⟩ := hy.handled hnone.1
    obtain ⟨rows, hrows, rfl⟩ := hx.answered hnone.2
    refine ⟨rows, ?_, rfl⟩
    rw [replies_append, hrows, hy.replies_eq_nil, List.append_nil]

end Cursors

section Calls

variable {n : Nat} {r : Request}

theorem meets_handlesCursor (hcursor : r.isCursor = true) :
    (Session.ask n r).Meets HandlesCursor := by
  have hsilent (reply : Call.Reply ⟨n, r⟩) :
      ∀ x ∈ [(⟨⟨n, r⟩, reply⟩ : Exchange)], x.isQuery = false := by
    simp [Exchange.isQuery, hcursor]
  refine meets_ask.mpr ⟨fun answer => ⟨hsilent _, ?_, fun _ => ⟨answer, rfl⟩⟩,
    fun e => ⟨hsilent _, ?_, nofun⟩⟩
  · simp [lastRaised?, Exchange.raised?_of_isCursor hcursor]
  · rintro _ _ ⟨⟩
    rfl

theorem meets_handsOver {rowsOf : r.Answer → List (List Value)} (hcursor : r.isCursor = false)
    (hraised : ∀ answer, Exchange.raised? ⟨⟨n, r⟩, .ok answer⟩ = none)
    (hrows : ∀ answer, Exchange.rows? ⟨⟨n, r⟩, .ok answer⟩ = some (rowsOf answer)) :
    (Session.ask n r).Meets fun xs result => HandsOver ⟨n, r⟩ xs (result.map rowsOf) := by
  have hqueried (reply : Call.Reply ⟨n, r⟩) : Queried ⟨n, r⟩ [⟨⟨n, r⟩, reply⟩] :=
    ⟨_, [], rfl, rfl, by simp [Exchange.isQuery, hcursor], by simp⟩
  refine meets_ask.mpr ⟨fun answer => ⟨hqueried _, ?_, fun _ => ?_⟩,
    fun e => ⟨hqueried _, ?_, nofun⟩⟩
  · simp [lastRaised?, hraised]
  · exact ⟨rowsOf answer, by simp [replies, hrows], rfl⟩
  · rintro _ _ ⟨⟩
    rfl

end Calls

section Engines

variable {n : Nat} {sql : String}

theorem Sqlite.meets_records : (records n sql).Meets fun xs result =>
    HandsOver ⟨n, .sqlite (.execute sql)⟩ xs (result.map RecordSet.rows) := by
  have hhandled : (atEnd (ask n .fetchAll) (ask n .closeCursor)).Meets HandlesCursor :=
    meets_atEnd.mpr ((meets_handlesCursor rfl).mono fun xs result hx =>
      (meets_handlesCursor rfl).mono fun ys ended hy => hx.append hy)
  refine meets_bind.mpr ((meets_handsOver rfl (fun _ => rfl) fun _ => rfl).mono
    fun xs result hx => ?_)
  cases result with
  | error f => exact hx
  | ok r =>
    refine meets_bind.mpr (hhandled.mono fun ys ended hy => ?_)
    have hxy := hx.append hy
    cases ended with
    | error f => exact hxy
    | ok u =>
      refine meets_pure.mpr ?_
      rwa [List.append_nil]

theorem Postgres.meets_fetch {arguments : List String} :
    (ask n (.fetch sql arguments)).Meets fun xs result =>
      HandsOver ⟨n, .postgres (.fetch sql arguments)⟩ xs (result.map id) :=
  meets_handsOver rfl (fun _ => rfl) fun _ => rfl

theorem Mysql.meets_records {arguments : Option (List String)} :
    (records n sql arguments).Meets fun xs result =>
      HandsOver ⟨n, .mysql (.execute sql arguments)⟩ xs (result.map RecordSet.rows) := by
  refine meets_atEnd.mpr ((meets_handsOver rfl (fun _ => rfl) fun _ => rfl).mono
    fun xs result hx => (meets_handlesCursor rfl).mono fun ys ended hy => ?_)
  have hxy := hx.append hy
  cases ended <;> exact hxy

end Engines

/-! ## Reading out -/

/-- Out of the rows of one query something is read, row by row, if each of them tells something; or
there is the last error that was raised. -/
structure ReadsOut {α : Type} (R : List Value → α → Prop) (call : Call) (xs : List Exchange)
    (result : Except Failure (List α)) : Prop where
  queried : Queried call xs
  raised : ∀ r e, lastRaised? xs = some (r, e) → result = .error (unwatched e)
  answered : lastRaised? xs = none → ∃ rows, replies xs = [rows] ∧
    ((∀ row ∈ rows, ∃ x, R row x) → ∃ items, result = .ok items)
  given : ∀ items, result = .ok items →
    lastRaised? xs = none ∧ ∃ rows, replies xs = [rows] ∧ List.Forall₂ R rows items

theorem HandsOver.lastRaised?_eq_none {call : Call} {xs : List Exchange}
    {rows : List (List Value)} (h : HandsOver call xs (.ok rows)) : lastRaised? xs = none := by
  cases hlast : lastRaised? xs with
  | none => rfl
  | some re => cases h.raised re.1 re.2 hlast

theorem meets_readsOut {α γ : Type} {s : Session γ} {rowsOf : γ → List (List Value)}
    {read : List Value → Except Fault α} {R : List Value → α → Prop} {call : Call}
    (hs : s.Meets fun xs result => HandsOver call xs (result.map rowsOf))
    (hread : ∀ {row x}, read row = .ok x ↔ R row x) :
    (s >>= fun y => ofFault ((rowsOf y).mapM read)).Meets (ReadsOut R call) := by
  refine meets_bind.mpr (hs.mono fun xs result hx => ?_)
  cases result with
  | error f =>
    refine ⟨hx.queried, fun r e hlast => ?_, fun hnone => ?_, nofun⟩
    · cases hx.raised r e hlast
      rfl
    · obtain ⟨_, _, ⟨⟩⟩ := hx.answered hnone
  | ok y =>
    have hnone := hx.lastRaised?_eq_none
    obtain ⟨_, hrows, ⟨⟩⟩ := hx.answered hnone
    refine meets_ofFault.mpr ?_
    rw [List.append_nil]
    refine ⟨hx.queried, fun r e hlast => ?_, fun _ => ⟨_, hrows, fun hall => ?_⟩,
      fun items hitems => ⟨hnone, _, hrows, ?_⟩⟩
    · rw [hnone] at hlast
      cases hlast
    · obtain ⟨items, hitems⟩ := List.exists_forall₂ hall
      exact ⟨items, mapError_eq_ok_iff.mpr (mapM_eq_ok_iff.mpr (hitems.imp fun _ _ => hread.mpr))⟩
    · exact (mapM_eq_ok_iff.mp (mapError_eq_ok_iff.mp hitems)).imp fun _ _ => hread.mp

namespace Relational

variable (c : Relational)

/-- The call that asks for the tables and views. -/
def catalogCall : Call where
  client := c.client
  request :=
    match c.engine with
    | .sqlite => .sqlite (.execute Sqlite.entryQuery)
    | .postgres _ => .postgres (.fetch Postgres.entryQuery [])
    | .mysql _ => .mysql (.execute Mysql.entryQuery none)

/-- The call that asks for the columns of a table. -/
def columnCall (table : String) : Call where
  client := c.client
  request :=
    match c.engine with
    | .sqlite => .sqlite (.execute (Sqlite.columnQuery table))
    | .postgres _ => .postgres (.fetch Postgres.columnQuery [table])
    | .mysql _ => .mysql (.execute Mysql.columnQuery (some [table]))

/-- What a row tells of a column. -/
def ColumnRow : List Value → ColumnInfo → Prop :=
  match c.engine with
  | .sqlite => PragmaRow
  | .postgres _ => InformationRow
  | .mysql _ => InformationRow

theorem meets_catalog : c.entries.Meets (ReadsOut CatalogRow c.catalogCall) := by
  unfold entries catalogCall
  cases c.engine with
  | sqlite => exact meets_readsOut Sqlite.meets_records catalogEntry_eq_ok_iff
  | postgres => exact meets_readsOut Postgres.meets_fetch catalogEntry_eq_ok_iff
  | mysql => exact meets_readsOut Mysql.meets_records catalogEntry_eq_ok_iff

theorem meets_columns (table : String) :
    (c.columns table).Meets (ReadsOut c.ColumnRow (c.columnCall table)) := by
  unfold columns columnCall ColumnRow
  cases c.engine with
  | sqlite => exact meets_readsOut Sqlite.meets_records pragmaColumn_eq_ok_iff
  | postgres => exact meets_readsOut Postgres.meets_fetch informationColumn_eq_ok_iff
  | mysql => exact meets_readsOut Mysql.meets_records informationColumn_eq_ok_iff

/-! ## From a catalog to entries -/

/-- What an entry tells of a table or view, and of the rows about its columns. -/
structure Describes (pair : String × String) (rows : List (List Value)) (entry : SchemaEntry) :
    Prop where
  name : entry.name = .text pair.1
  view : entry.kind = "view" ↔ pair.2 = "view" ∨ "VIEW".toList <:+: pair.2.toList
  kind : entry.kind = "view" ∨ entry.kind = "table"
  schema : entry.schema = c.schemaName
  columns : List.Forall₂ c.ColumnRow rows entry.columns
  rowCount : entry.rowCount = none
  size : entry.size = none

/-- One entry for each table and view, in their order. -/
inductive Described : List (String × String) → List (List (List Value)) → List SchemaEntry → Prop
  | nil : Described [] [] []
  | cons {pair : String × String} {rows : List (List Value)} {entry : SchemaEntry}
      {pairs : List (String × String)} {tables : List (List (List Value))}
      {entries : List SchemaEntry} : c.Describes pair rows entry → Described pairs tables entries →
      Described (pair :: pairs) (rows :: tables) (entry :: entries)

/-- How the tables and views of a catalog are gone through: the columns are asked for in the order
of the catalog, up to the first error. -/
structure Lists (pairs : List (String × String)) (xs : List Exchange)
    (result : Except Failure (List SchemaEntry)) : Prop where
  asked : ∃ asked, asked <+: pairs ∧ queries xs = asked.map fun pair => c.columnCall pair.1
  stops : Stops xs
  raised : ∀ r e, lastRaised? xs = some (r, e) → result = .error (unwatched e)
  answered : lastRaised? xs = none →
    (∀ rows ∈ replies xs, ∀ row ∈ rows, ∃ info, c.ColumnRow row info) →
    ∃ entries, result = .ok entries
  given : ∀ entries, result = .ok entries → lastRaised? xs = none ∧
    (queries xs = pairs.map fun pair => c.columnCall pair.1) ∧
    c.Described pairs (replies xs) entries

/-- The entry for a table or view with these columns. -/
def entryOf (pair : String × String) (columns : List ColumnInfo) : SchemaEntry :=
  ⟨.text pair.1, entryKind pair.2, c.schemaName, columns, none, none⟩

variable {c} {pair : String × String} {pairs : List (String × String)} {xs ys : List Exchange}
  {columns : List ColumnInfo}

theorem describes_entryOf {rows : List (List Value)} (h : List.Forall₂ c.ColumnRow rows columns) :
    c.Describes pair rows (c.entryOf pair columns) where
  name := rfl
  view := entryKind_eq_view_iff
  kind := entryKind_eq pair.2
  schema := rfl
  columns := h
  rowCount := rfl
  size := rfl

theorem Lists.nil : c.Lists [] [] (.ok []) where
  asked := ⟨[], List.nil_prefix, rfl⟩
  stops := List.Pairwise.nil
  raised _ _ h := nomatch h
  answered _ _ := ⟨[], rfl⟩
  given entries h := by
    cases h
    exact ⟨rfl, rfl, .nil⟩

/-- Where the columns of a table cannot be told, nothing else is asked for. -/
theorem Lists.stop {f : Failure}
    (h : ReadsOut c.ColumnRow (c.columnCall pair.1) xs (.error f)) :
    c.Lists (pair :: pairs) xs (.error f) where
  asked := ⟨[pair], ⟨pairs, rfl⟩, h.queried.queries_eq⟩
  stops := h.queried.stops
  raised r e hlast := by
    cases h.raised r e hlast
    rfl
  answered hnone hall := by
    obtain ⟨rows, hrows, hread⟩ := h.answered hnone
    obtain ⟨_, ⟨⟩⟩ := hread (hall rows (by rw [hrows]; exact List.mem_cons_self))
  given entries h := nomatch h

theorem Lists.cons {result : Except Failure (List SchemaEntry)}
    (hx : ReadsOut c.ColumnRow (c.columnCall pair.1) xs (.ok columns))
    (hy : c.Lists pairs ys result) :
    c.Lists (pair :: pairs) (xs ++ ys) (result.map (c.entryOf pair columns :: ·)) := by
  obtain ⟨hnone, rows, hrows, hcolumns⟩ := hx.given columns rfl
  have hlast : lastRaised? (xs ++ ys) = lastRaised? ys := lastRaised?_append_of_none hnone
  have hreplies : replies (xs ++ ys) = rows :: replies ys := by
    rw [replies_append, hrows, List.singleton_append]
  have hqueries : queries (xs ++ ys) = c.columnCall pair.1 :: queries ys := by
    rw [queries_append, hx.queried.queries_eq, List.singleton_append]
  constructor
  case asked =>
    obtain ⟨asked, hprefix, hasked⟩ := hy.asked
    refine ⟨pair :: asked, (List.prefix_cons_inj pair).mpr hprefix, ?_⟩
    rw [hqueries, hasked, List.map_cons]
  case stops => exact hx.queried.stops.append hnone hy.stops
  case raised =>
    intro r e h
    rw [hy.raised r e (hlast ▸ h)]
    rfl
  case answered =>
    intro h hall
    rw [hreplies, List.forall_mem_cons] at hall
    obtain ⟨entries, rfl⟩ := hy.answered (hlast ▸ h) hall.2
    exact ⟨_, rfl⟩
  case given =>
    cases result with
    | error f => exact nofun
    | ok entries =>
      rintro _ ⟨⟩
      obtain ⟨hnoney, hqueriesy, hdescribed⟩ := hy.given entries rfl
      refine ⟨hlast ▸ hnoney, ?_, ?_⟩
      · rw [hqueries, hqueriesy, List.map_cons]
      · rw [hreplies]
        exact .cons (describes_entryOf hcolumns) hdescribed

/-- **From a catalog to its entries.** -/
theorem meets_entries (pairs : List (String × String)) :
    (pairs.mapM c.schemaEntry).Meets (c.Lists pairs) := by
  induction pairs with
  | nil => exact .nil
  | cons pair pairs ih =>
    rw [List.mapM_cons]
    refine meets_bind.mpr (meets_bind.mpr ((c.meets_columns pair.1).mono fun xs result hx => ?_))
    cases result with
    | error f => exact .stop hx
    | ok columns =>
      refine meets_pure.mpr (meets_bind.mpr (ih.mono fun ys result hy => ?_))
      have hlists := Lists.cons hx hy
      cases result with
      | error f => simpa [Except.map] using hlists
      | ok entries => simpa [Except.map, entryOf] using hlists

/-! ## The whole reading -/

/-- How a schema is read. -/
structure SchemaRead (c : Relational) (xs : List Exchange)
    (result : Except Failure (List SchemaEntry)) : Prop where
  /-- The catalog is asked for once, then the columns of what it names, in its order. -/
  asked : ∃ asked, queries xs = c.catalogCall :: asked.map (fun pair => c.columnCall pair.1) ∧
    (asked = [] ∨ ∃ catalog tables pairs, replies xs = catalog :: tables ∧
      List.Forall₂ CatalogRow catalog pairs ∧ asked <+: pairs)
  /-- After an error, nothing else is asked for. -/
  stops : Stops xs
  /-- The last error that was raised is told. -/
  raised : ∀ r e, lastRaised? xs = some (r, e) → result = .error (.core (.native e.text))
  /-- There is no failure of another kind. -/
  failure : ∀ f, result = .error f → ∃ text, f = .core (.native text)
  /-- Without errors there are entries, if the rows of the catalog name tables and views, and the
  other ones describe columns. -/
  answered : lastRaised? xs = none → ∃ catalog tables, replies xs = catalog :: tables ∧
    ((∀ row ∈ catalog, ∃ pair, CatalogRow row pair) →
      (∀ rows ∈ tables, ∀ row ∈ rows, ∃ info, c.ColumnRow row info) →
      ∃ entries, result = .ok entries)
  /-- Entries are complete: the columns of each table and view were asked for, and there is one
  entry for each of them. -/
  given : ∀ entries, result = .ok entries → ∃ catalog tables pairs,
    replies xs = catalog :: tables ∧ List.Forall₂ CatalogRow catalog pairs ∧
    queries xs = c.catalogCall :: pairs.map (fun pair => c.columnCall pair.1) ∧
    c.Described pairs tables entries

theorem SchemaRead.stop {f : Failure} (h : ReadsOut CatalogRow c.catalogCall xs (.error f)) :
    c.SchemaRead xs (.error (asNativeError f)) where
  asked := ⟨[], h.queried.queries_eq, .inl rfl⟩
  stops := h.queried.stops
  raised r e hlast := by
    cases h.raised r e hlast
    rfl
  failure _ hf := ⟨f.message, (Except.error.inj hf).symm⟩
  answered hnone := by
    obtain ⟨rows, hrows, hread⟩ := h.answered hnone
    refine ⟨rows, [], hrows, fun hall => ?_⟩
    obtain ⟨_, ⟨⟩⟩ := hread hall
  given entries h := nomatch h

theorem SchemaRead.append {result : Except Failure (List SchemaEntry)}
    (hx : ReadsOut CatalogRow c.catalogCall xs (.ok pairs)) (hy : c.Lists pairs ys result) :
    c.SchemaRead (xs ++ ys) (result.mapError asNativeError) := by
  obtain ⟨hnone, catalog, hrows, hpairs⟩ := hx.given pairs rfl
  have hlast : lastRaised? (xs ++ ys) = lastRaised? ys := lastRaised?_append_of_none hnone
  have hreplies : replies (xs ++ ys) = catalog :: replies ys := by
    rw [replies_append, hrows, List.singleton_append]
  have hqueries : queries (xs ++ ys) = c.catalogCall :: queries ys := by
    rw [queries_append, hx.queried.queries_eq, List.singleton_append]
  constructor
  case asked =>
    obtain ⟨asked, hprefix, hasked⟩ := hy.asked
    exact ⟨asked, by rw [hqueries, hasked], .inr ⟨catalog, _, pairs, hreplies, hpairs, hprefix⟩⟩
  case stops => exact hx.queried.stops.append hnone hy.stops
  case raised =>
    intro r e h
    rw [hy.raised r e (hlast ▸ h)]
    rfl
  case failure =>
    cases result with
    | error f => exact fun _ hf => ⟨f.message, (Except.error.inj hf).symm⟩
    | ok entries => exact nofun
  case answered =>
    refine fun h => ⟨catalog, _, hreplies, fun _ hall => ?_⟩
    obtain ⟨entries, rfl⟩ := hy.answered (hlast ▸ h) hall
    exact ⟨entries, rfl⟩
  case given =>
    intro entries hentries
    obtain ⟨-, hasked, hdescribed⟩ := hy.given entries (mapError_eq_ok_iff.mp hentries)
    exact ⟨catalog, _, pairs, hreplies, hpairs, by rw [hqueries, hasked], hdescribed⟩

theorem meets_schema : c.schema.Meets c.SchemaRead := by
  refine meets_mapFailure.mpr (meets_bind.mpr (c.meets_catalog.mono fun xs result hx => ?_))
  cases result with
  | error f => exact .stop hx
  | ok pairs => exact (meets_entries pairs).mono fun ys result hy => .append hx hy

/-- **A schema is read in one query for the catalog and one for the columns of each table and view,
and the first call that fails ends the reading.** -/
theorem schema_read {σ : Type} (responder : Responder σ) (state : σ) (c : Relational) :
    c.SchemaRead (c.schema.run.exchanges responder state)
      (c.schema.run.run responder state).result :=
  Dialogue.Meets.run meets_schema responder state

/-- A server with a table and a view. The view has no columns. -/
def shop : Responder Unit where
  reply state c :=
    match c with
    | ⟨_, .mysql (.execute _ none)⟩ =>
      (.ok ⟨[], [[.text "orders", .text "BASE TABLE"], [.text "totals", .text "VIEW"]]⟩, state)
    | ⟨_, .mysql (.execute _ (some ["orders"]))⟩ =>
      (.ok ⟨[], [[.text "code", .text "varchar", .text "NO", .null, .text "PRIMARY KEY"]]⟩, state)
    | ⟨_, .mysql (.execute _ (some _))⟩ => (.ok ⟨[], []⟩, state)
    | ⟨_, .mysql .closeCursor⟩ => (.ok (), state)
    | _ => (.error ⟨.system, "boom"⟩, state)

example :
    ((schema ⟨0, .mysql (.text "shop")⟩).run.run shop ()).result = .ok
      [⟨.text "orders", "table", .text "shop", [⟨"code", "varchar", false, none, true, none⟩],
        none, none⟩,
       ⟨.text "totals", "view", .text "shop", [], none, none⟩] := rfl

end Relational

end Polystore
