import Polystore.Cli.Program
import Polystore.Proofs.Export.Insert
import Polystore.Proofs.Native.Ensures

/-!
# The dialect of the program

The program speaks to an engine through a connection, and it lays out and exports SQL in a dialect.
Both are read off the kind that is given. A connection is made for the kind in any case of letters,
but a dialect is known for the exact name only: for any other spelling SQL is written without one.

* `Backend.ofName?_eq_some_iff`, `Backend.resolve?_name`: names of backends;
* `dialectOf_of_resolve?`: the dialect of a spelling that connecting accepts;
* `Connection.dialect?`, **`Connection.gives_dialect`**: the dialect of the engine behind a
  connection;
* `Cli.Spoken`, **`Cli.dialect_spoken`**: which dialect the program writes, and when it is the one
  of its engine; `Cli.capitals_export_unescaped`: a spelling for which it is not.
-/

namespace Polystore

open Session

/-! ## Names of backends -/

namespace Backend

theorem ofName?_eq_some_iff {s : String} {b : Backend} : ofName? s = some b ↔ s = b.name := by
  constructor
  · intro h
    exact (beq_iff_eq.mp (List.find?_some (p := fun b : Backend => b.name == s) h)).symm
  · rintro rfl
    cases b <;> rfl

/-- Connecting accepts the exact names. -/
@[simp] theorem resolve?_name (b : Backend) : resolve? b.name = some b := by
  cases b <;> rfl

theorem dialect?_eq_none_iff {b : Backend} : b.dialect? = none ↔ b.family ≠ .relational := by
  cases b <;> decide

end Backend

@[simp] theorem dialectOf_name (b : Backend) : dialectOf (some b.name) = b.dialect? := by
  cases b <;> rfl

/-- Of the spellings that connecting accepts, the exact name alone has a dialect. -/
theorem dialectOf_of_resolve? {kind : String} {b : Backend} (h : Backend.resolve? kind = some b) :
    dialectOf (some kind) = if kind = b.name then b.dialect? else none := by
  by_cases hkind : kind = b.name
  · rw [if_pos hkind, hkind, dialectOf_name]
  · have hnone : Backend.ofName? kind = none := by
      refine Option.eq_none_iff_forall_ne_some.mpr fun b' hb' => hkind ?_
      -- the exact name of a backend resolves to this one
      have hname : kind = b'.name := Backend.ofName?_eq_some_iff.mp hb'
      rw [hname, Backend.resolve?_name, Option.some.injEq] at h
      rw [hname, h]
    rw [if_neg hkind, dialectOf]
    simp [hnone]

/-! ## Connections -/

def SqlEngine.dialect : SqlEngine → Dialect
  | .sqlite => .sqlite
  | .postgres _ => .postgres
  | .mysql _ => .mysql

/-- The dialect of the engine behind a connection; none for an engine without SQL. -/
def Connection.dialect? : Connection → Option Dialect
  | .relational c => some c.engine.dialect
  | .document _ => none
  | .keyValue _ => none

section Connect

variable {n : Nat} {d : Descriptor} {s : Settings} {b : Backend}

theorem Descriptor.gives_backend (h : d.backend = .ok b) : (ofCore d.backend).Gives (b = ·) := by
  rw [h]
  exact .pure rfl

theorem Relational.gives_engine {session : Session SqlEngine}
    (h : session? n d s b = some session) :
    session.Gives fun engine => some engine.dialect = b.dialect? := by
  cases b <;> simp only [session?, Option.some.injEq, reduceCtorEq] at h <;> subst h
  case sqlite => exact .bind fun _ => .pure rfl
  case postgresql => exact .bind fun _ => .pure rfl
  case mysql => exact .bind fun _ => .pure rfl
  case mariadb => exact .bind fun _ => .pure rfl

theorem Relational.gives_dialect (h : d.backend = .ok b) :
    (connect n d s).Gives fun c => some c.engine.dialect = b.dialect? := by
  refine (Descriptor.gives_backend h).trans ?_
  rintro _ rfl
  cases hsession : session? n d s b with
  | none => exact .throw
  | some session =>
    exact (gives_engine hsession).mapFailure.trans fun _ hengine => .bind fun _ => .pure hengine

/-- **A connection speaks the dialect of its backend.** -/
theorem Connection.gives_dialect (h : d.backend = .ok b) :
    (connect n d s).Gives fun c => c.dialect? = b.dialect? := by
  have hnone : b.family ≠ .relational → none = b.dialect? := fun hb =>
    (Backend.dialect?_eq_none_iff.mpr hb).symm
  refine (Descriptor.gives_backend h).trans ?_
  rintro _ rfl
  cases hfamily : b.family with
  | relational => exact (Relational.gives_dialect h).trans fun _ hc => .pure hc
  | document => exact .bind fun _ => .pure (hnone (by simp [hfamily]))
  | keyValue => exact .bind fun _ => .pure (hnone (by simp [hfamily]))

end Connect

/-! ## The program -/

namespace Cli

/-- The dialect that the program writes for a kind that connecting takes for a backend. -/
structure Spoken (kind : String) (b : Backend) : Prop where
  /-- Whoever connects, and whatever the clients reply: the engine has the dialect of the name. -/
  connected : ∀ {σ : Type} (responder : Responder σ) (state : σ) (n : Nat) (d : Descriptor)
    (s : Settings) (c : Connection), d.kind = kind →
      ((Connection.connect n d s).run.run responder state).result = .ok c →
        c.dialect? = dialectOf (some b.name)
  /-- What is written is in the same dialect just if the kind is that name, or if there is no
  dialect to write. -/
  agrees : dialectOf (some kind) = dialectOf (some b.name) ↔
    kind = b.name ∨ b.family ≠ .relational
  /-- For any other spelling there is none. -/
  unnamed : kind ≠ b.name → dialectOf (some kind) = none
  /-- Commands are laid out in it. -/
  formats : ∀ (a : Arguments) (settings : Settings), a.kind = kind → a.mode = .format →
    perform a settings = pure ((Sql.format (dialectOf (some kind)) a.command).mapError .core)
  /-- Tables are exported in it. -/
  exports : ∀ (a : Arguments) (t : Table), a.kind = kind → a.shown t =
    t.exported a.output.name
      ⟨a.headers, ",", "exported_data", (dialectOf (some kind)).map Dialect.name⟩

/-- **The program writes the dialect of its engine just if the kind is spelled exactly** as the
backend is named, although connecting takes every case of letters. -/
theorem dialect_spoken {kind : String} {b : Backend} (h : Backend.resolve? kind = some b) :
    Spoken kind b := by
  have hdialect := dialectOf_of_resolve? h
  constructor
  case connected =>
    rintro σ responder state n d s c rfl hc
    have hb : d.backend = .ok b := by rw [Descriptor.backend, h]
    rw [dialectOf_name]
    exact Dialogue.Ensures.run (Connection.gives_dialect (n := n) (s := s) hb) responder state c hc
  case agrees =>
    rw [hdialect, dialectOf_name, ← Backend.dialect?_eq_none_iff]
    split
    case isTrue hkind => simp [hkind]
    case isFalse hkind => simp [hkind, eq_comm]
  case unnamed =>
    intro hkind
    rw [hdialect, if_neg hkind]
  case formats =>
    rintro a settings rfl hmode
    simp only [perform, hmode, Arguments.dialect]
  case exports =>
    rintro a t rfl
    rfl

/-- Capitals reach the engine all the same. -/
theorem dialect_spoken_capitals :
    Backend.resolve? "MariaDB" = some .mariadb ∧ Spoken "MariaDB" .mariadb :=
  ⟨rfl, dialect_spoken rfl⟩

/-- A kind in capitals connects to an engine that escapes with backslashes, but a text that ends in
a backslash is exported without the escape. The engine cannot read the statement: to it, the mark
behind the text is a part of the text. -/
theorem capitals_export_unescaped :
    let a : Arguments := ⟨"MYSQL", "localhost", none, "", "", none, false, .sql, true,
      .ask .command, "SELECT v"⟩
    let t : Table := ⟨[⟨"v", "text"⟩], [[.text "\\"]], by decide⟩
    let mysql := Sql.Convention.of (dialectOf (some Backend.mysql.name))
    Backend.resolve? a.kind = some .mysql ∧ dialectOf (some a.kind) = none ∧
      dialectOf (some Backend.mysql.name) = some .mysql ∧
      a.shown t = .ok "INSERT INTO exported_data (v) VALUES ('\\');" ∧
      Sql.insertedAll? mysql "INSERT INTO exported_data (v) VALUES ('\\');".toList = none := by
  decide +kernel

end Cli

end Polystore
