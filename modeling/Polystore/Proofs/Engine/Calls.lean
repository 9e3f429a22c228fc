import Polystore.Connection
import Polystore.Proofs.Native.Ensures

/-!
# Calls of connections

A connection calls no client but its own, and it closes this one only when it is told to.

* `Call.KeepsOpen`: a call to a client that does not close it;
* **`Connection.talks_execute`**, `Connection.talks_executeDefinition`, `Connection.talks_schema`:
  what commands call; `Redis.talks_value`, `Redis.talks_keys`: what reading and listing keys calls;
* `Connection.closing`, **`Connection.ensures_close`**: the one call that closes;
* **`Connection.opens_connect`**: a new connection opens its client.
-/

namespace Polystore

open Session

/-- A call to a client that does not close it. -/
def Call.KeepsOpen (client : Nat) (c : Call) : Prop :=
  c.client = client ∧ c.request.isClosing = false

variable {n : Nat} {d : Descriptor} {s : Settings} {sql table text key pattern : String}

/-! ## Relational engines -/

namespace Sqlite

theorem talks_records : (records n sql).Talks (Call.KeepsOpen n) :=
  .bind (.ask ⟨rfl, rfl⟩) fun _ =>
    .bind (.atEnd (.ask ⟨rfl, rfl⟩) (.ask ⟨rfl, rfl⟩)) fun _ => .pure

theorem talks_fetch : (fetch n sql).Talks (Call.KeepsOpen n) := talks_records.bind fun _ => .pure

theorem talks_execute : (execute n sql).Talks (Call.KeepsOpen n) := .ask ⟨rfl, rfl⟩

theorem talks_entries : (entries n).Talks (Call.KeepsOpen n) :=
  talks_records.bind fun _ => .ofFault

theorem talks_columns : (columns n table).Talks (Call.KeepsOpen n) :=
  talks_records.bind fun _ => .ofFault

end Sqlite

namespace Postgres

theorem talks_fetch : (fetch n sql).Talks (Call.KeepsOpen n) :=
  .bind (.ask ⟨rfl, rfl⟩) fun _ => .bind (.ask ⟨rfl, rfl⟩) fun _ => .pure

theorem talks_execute : (execute n sql).Talks (Call.KeepsOpen n) := .ask ⟨rfl, rfl⟩

theorem talks_entries : (entries n).Talks (Call.KeepsOpen n) :=
  .bind (.ask ⟨rfl, rfl⟩) fun _ => .ofFault

theorem talks_columns : (columns n table).Talks (Call.KeepsOpen n) :=
  .bind (.ask ⟨rfl, rfl⟩) fun _ => .ofFault

end Postgres

namespace Mysql

theorem talks_records {arguments : Option (List String)} :
    (records n sql arguments).Talks (Call.KeepsOpen n) :=
  .atEnd (.ask ⟨rfl, rfl⟩) (.ask ⟨rfl, rfl⟩)

theorem talks_fetch : (fetch n sql).Talks (Call.KeepsOpen n) := talks_records.bind fun _ => .pure

theorem talks_execute : (execute n sql).Talks (Call.KeepsOpen n) :=
  talks_records.bind fun _ => .pure

theorem talks_entries : (entries n).Talks (Call.KeepsOpen n) :=
  talks_records.bind fun _ => .ofFault

theorem talks_columns : (columns n table).Talks (Call.KeepsOpen n) :=
  talks_records.bind fun _ => .ofFault

end Mysql

namespace Relational

variable (c : Relational)

theorem talks_fetch : (c.fetch sql).Talks (Call.KeepsOpen c.client) := by
  unfold fetch
  cases c.engine with
  | sqlite => exact Sqlite.talks_fetch
  | postgres => exact Postgres.talks_fetch
  | mysql => exact Mysql.talks_fetch

theorem talks_entries : c.entries.Talks (Call.KeepsOpen c.client) := by
  unfold entries
  cases c.engine with
  | sqlite => exact Sqlite.talks_entries
  | postgres => exact Postgres.talks_entries
  | mysql => exact Mysql.talks_entries

theorem talks_columns : (c.columns table).Talks (Call.KeepsOpen c.client) := by
  unfold columns
  cases c.engine with
  | sqlite => exact Sqlite.talks_columns
  | postgres => exact Postgres.talks_columns
  | mysql => exact Mysql.talks_columns

theorem talks_execute : (c.execute sql).Talks (Call.KeepsOpen c.client) :=
  (c.talks_fetch.mapFailure eq_notConnected_of_asNativeError).bind fun _ => .ofFault

theorem talks_executeDefinition : (c.executeDefinition sql).Talks (Call.KeepsOpen c.client) := by
  refine Talks.mapFailure eq_notConnected_of_asNativeError ?_
  cases c.engine with
  | sqlite => exact Sqlite.talks_execute
  | postgres => exact Postgres.talks_execute
  | mysql => exact Mysql.talks_execute

theorem talks_schema : c.schema.Talks (Call.KeepsOpen c.client) :=
  .mapFailure eq_notConnected_of_asNativeError <|
    c.talks_entries.bind fun _ => .mapM fun _ => c.talks_columns.bind fun _ => .pure

end Relational

/-! ## Documents -/

namespace DocumentCommand

theorem parseOperation_ne_notConnected (collection command : List Char) :
    parseOperation collection command ≠ .error .notConnected := by
  unfold parseOperation
  split
  · cases readFilterCall _ <;> nofun
  · nofun
  · nofun

theorem parse_ne_notConnected (text : String) : parse text ≠ .error .notConnected := by
  unfold parse
  split
  · nofun
  · dsimp only
    split
    · nofun
    · exact parseOperation_ne_notConnected _ _

end DocumentCommand

namespace Mongo

variable (c : Mongo)

theorem talks_perform {command : DocumentCommand} :
    (c.perform command).Talks (Call.KeepsOpen c.client) := by
  refine .bind (.ask ⟨rfl, rfl⟩) fun _ => ?_
  cases command.operation with
  | find filter =>
    exact .bind (.bind (.ask ⟨rfl, rfl⟩) fun _ => .bind .ofFault fun _ => .ofFault) fun _ => .pure
  | count => exact .bind (.ask ⟨rfl, rfl⟩) fun _ => .pure

theorem talks_execute : (c.execute text).Talks (Call.KeepsOpen c.client) := by
  refine .bind (.ofCore (DocumentCommand.parse_ne_notConnected text)) fun command =>
    .bind (c.talks_perform.mapFailure eq_notConnected_of_watching) fun reply => ?_
  cases reply with
  | inl table => exact .pure
  | inr count => exact .bind .ofFault fun _ => .pure

theorem talks_executeDefinition : (c.executeDefinition text).Talks (Call.KeepsOpen c.client) :=
  c.talks_execute.bind fun _ => .pure

theorem talks_schema : c.schema.Talks (Call.KeepsOpen c.client) :=
  .bind (.mapFailure eq_notConnected_of_watching (.ask ⟨rfl, rfl⟩)) fun _ =>
    .bind .ofFault fun _ => .pure

end Mongo

/-! ## Keys -/

theorem KeyValueCommand.parse_ne_notConnected (text : String) :
    parse text ≠ .error .notConnected := by
  unfold parse
  split <;> nofun

namespace Redis

variable (c : Redis)

theorem talks_value : (c.value key).Talks (Call.KeepsOpen c.client) := by
  have hread : (c.readKey key).Talks (Call.KeepsOpen c.client) := by
    refine .bind (.ask ⟨rfl, rfl⟩) fun reply => ?_
    cases KeyType.ofReply? reply with
    | none => exact .pure
    | some type =>
      exact .bind (.ask ⟨rfl, rfl⟩) fun _ => .bind .ofFault fun _ => .bind .ofFault fun _ => .pure
  refine (hread.mapFailure eq_notConnected_of_watching).bind fun reply => ?_
  obtain ⟨type, table⟩ := reply
  cases table with
  | some table => exact .pure
  | none => exact .bind .ofFault fun _ => .pure

theorem talks_sizeOf {type : Option KeyType} {key : Value} :
    (c.sizeOf type key).Talks (Call.KeepsOpen c.client) := by
  cases type with
  | none => exact .pure
  | some type => exact .bind (.ask ⟨rfl, rfl⟩) fun _ => .ofFault

theorem talks_keyInfo {key : Value} : (c.keyInfo key).Talks (Call.KeepsOpen c.client) :=
  .bind (.ask ⟨rfl, rfl⟩) fun _ => .bind .ofFault fun _ => c.talks_sizeOf.bind fun _ =>
    .bind (.ask ⟨rfl, rfl⟩) fun _ => .bind .ofFault fun _ => .pure

theorem talks_keys : (c.keys pattern).Talks (Call.KeepsOpen c.client) :=
  .mapFailure eq_notConnected_of_watching <| .bind (.ask ⟨rfl, rfl⟩) fun _ =>
    .bind .ofFault fun _ => .mapM fun _ => c.talks_keyInfo

theorem talks_execute : (c.execute text).Talks (Call.KeepsOpen c.client) :=
  .bind (.ofCore (KeyValueCommand.parse_ne_notConnected text)) fun _ =>
    .bind (.mapFailure eq_notConnected_of_watching (.ask ⟨rfl, rfl⟩)) fun _ => .pure

theorem talks_executeDefinition : (c.executeDefinition text).Talks (Call.KeepsOpen c.client) :=
  c.talks_execute.bind fun _ => .pure

theorem talks_schema : c.schema.Talks (Call.KeepsOpen c.client) := c.talks_keys.bind fun _ => .pure

end Redis

/-! ## Connections of any family -/

namespace Connection

variable (c : Connection)

theorem talks_execute : (c.execute text).Talks (Call.KeepsOpen c.client) := by
  cases c with
  | relational c => exact c.talks_execute
  | document c => exact c.talks_execute
  | keyValue c => exact c.talks_execute

theorem talks_executeDefinition : (c.executeDefinition text).Talks (Call.KeepsOpen c.client) := by
  cases c with
  | relational c => exact c.talks_executeDefinition
  | document c => exact c.talks_executeDefinition
  | keyValue c => exact c.talks_executeDefinition

theorem talks_schema : c.schema.Talks (Call.KeepsOpen c.client) := by
  cases c with
  | relational c => exact c.talks_schema
  | document c => exact c.talks_schema
  | keyValue c => exact c.talks_schema

/-- The request that closes the client of a connection. -/
def closing : Connection → Request
  | .relational c =>
    match c.engine with
    | .sqlite => .sqlite .close
    | .postgres _ => .postgres .close
    | .mysql _ => .mysql .close
  | .document _ => .mongo .close
  | .keyValue _ => .redis .close

@[simp] theorem isClosing_closing : c.closing.isClosing = true := by
  cases c with
  | relational c => obtain ⟨client, engine⟩ := c; cases engine <;> rfl
  | document c => rfl
  | keyValue c => rfl

/-- **A connection is closed by one call.** -/
theorem ensures_close :
    c.close.Ensures fun trace _ => ∃ failure, trace = [.called ⟨c.client, c.closing⟩ failure] := by
  have hask : ∀ request, (Session.ask c.client request).Ensures fun trace _ =>
      ∃ failure, trace = [.called ⟨c.client, request⟩ failure] := fun request =>
    ensures_ask.mpr ⟨fun _ => ⟨none, rfl⟩, fun e => ⟨some e, rfl⟩⟩
  cases c with
  | relational c => obtain ⟨client, engine⟩ := c; cases engine <;> exact hask _
  | document c => exact hask _
  | keyValue c => exact hask _

end Connection

/-! ## Opening connections -/

theorem Sqlite.opens_connect {timeout : Number.Binary64} : (connect n d timeout).Opens n [n] :=
  .ask rfl

theorem Postgres.opens_connect {timeout : Number.Binary64} :
    (connect n d timeout).Opens n [n] := by
  have hfetch : (onFailure (ask n (.fetchValue "SELECT current_schema()")) (ask n .close)).Opens n
      [] := by
    refine .attempt (.ask rfl) (fun _ => .pure) fun _ => ?_
    exact abandons_ask fun _ => abandons_throw
  exact .bind .ofCore fun _ => .bind (.ask rfl) fun _ => hfetch

theorem Mysql.opens_connect {timeout : Number.Binary64} : (connect n d timeout).Opens n [n] :=
  .bind .ofCore fun _ => .bind (.ask rfl) fun _ => .pure

theorem Relational.opens_connect : (connect n d s).Opens n [n] := by
  refine .bind .ofCore fun backend => ?_
  have hsession : ∀ session, session? n d s backend = some session → session.Opens n [n] := by
    intro session hs
    cases backend <;> simp only [session?, Option.some.injEq, reduceCtorEq] at hs <;> subst hs
    case sqlite => exact Sqlite.opens_connect.bind fun _ => .pure
    case postgresql => exact Postgres.opens_connect.bind fun _ => .pure
    case mysql => exact Mysql.opens_connect.bind fun _ => .pure
    case mariadb => exact Mysql.opens_connect.bind fun _ => .pure
  cases hb : session? n d s backend with
  | none => exact .throw
  | some session =>
    exact (hsession session hb).mapFailure.bind fun _ => .bind .note fun _ => .pure

theorem Mongo.opens_connect : (connect n d s).Opens n [n] := by
  refine .bind .ofFault fun timeout => ?_
  have hclient : (mapFailure asConnectError do
      ask n (.client (← ofResult d.documentAddress) timeout d.tls)).Opens n [n] :=
    .mapFailure (.bind .ofResult fun _ => .ask rfl)
  refine hclient.bind fun _ => .attempt (.ask rfl) (fun _ => ?_) fun _ => ?_
  · exact .bind .note fun _ => .pure
  · exact abandons_ask fun _ => abandons_throw

theorem Redis.opens_connect : (connect n d s).Opens n [n] := by
  have habandon : ∀ f : Failure, (abandon n f : Session Redis).Abandons n := fun f =>
    abandons_ask fun _ => abandons_throw
  refine .bind .ofCore fun _ => .bind .ofCore fun _ => .bind (.ask rfl) fun _ =>
    .attempt (.ask rfl) (fun (reply : Value) => ?_) fun e => ?_
  · cases reply with
    | bool b =>
      cases b with
      | true => exact .bind .note fun _ => .pure
      | false => exact (habandon _).opens
    | _ => exact (habandon _).opens
  · cases e with
    | core e => exact abandons_throw
    | fault f =>
      cases f with
      | native e =>
        change (if e.kind.isKeyValue then _ else _ : Session Redis).Abandons n
        split
        · exact habandon _
        · exact abandons_throw
      | _ => exact abandons_throw

theorem Relational.gives_connect : (connect n d s).Gives fun c => c.client = n := by
  refine .bind fun backend => ?_
  cases session? n d s backend with
  | none => exact .throw
  | some session => exact .bind fun _ => .bind fun _ => .pure rfl

theorem Mongo.gives_connect : (connect n d s).Gives fun c => c.client = n := by
  refine .bind fun _ => .bind fun _ => .bind fun outcome => ?_
  cases outcome with
  | ok reply => exact .bind fun _ => .pure rfl
  | error e => exact .bind fun _ => .throw

theorem Redis.gives_connect : (connect n d s).Gives fun c => c.client = n := by
  have habandon : ∀ f : Failure, (abandon n f : Session Redis).Gives fun c => c.client = n :=
    fun f => .bind fun _ => .throw
  refine .bind fun _ => .bind fun _ => .bind fun _ => .bind fun outcome => ?_
  split
  · split
    · exact habandon _
    · exact .throw
  · exact .throw
  · exact .bind fun _ => .pure rfl
  · exact habandon _

/-- **A new connection opens its client.** -/
theorem Connection.opens_connect : (connect n d s).Opens n [n] := by
  refine .bind .ofCore fun backend => ?_
  cases backend.family with
  | relational => exact Relational.opens_connect.bind fun _ => .pure
  | document => exact Mongo.opens_connect.bind fun _ => .pure
  | keyValue => exact Redis.opens_connect.bind fun _ => .pure

/-- A new connection has the client that it was given. -/
theorem Connection.gives_connect : (connect n d s).Gives fun c => c.client = n := by
  refine .bind fun backend => ?_
  cases backend.family with
  | relational => exact Relational.gives_connect.trans fun _ h => .pure h
  | document => exact Mongo.gives_connect.trans fun _ h => .pure h
  | keyValue => exact Redis.gives_connect.trans fun _ h => .pure h

end Polystore
