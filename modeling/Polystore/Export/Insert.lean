import Polystore.Export.Csv
import Polystore.Sql.Statement

/-!
# Insertions

A table is written as statements of SQL, one for every row, that insert its rows into a named table.

* `Sql.Literal`, `Sql.literalOf`: the literal of a cell;
* `Sql.insertStatement`: the statement for one row;
* `Sql.readDialect`, `Sql.readTable`: the names of a dialect and of a table;
* `Table.toInsertions`.
-/

namespace Polystore

namespace Sql

/-- A literal: a text, or what is written as it is. -/
inductive Literal
  | bare (cs : List Char)
  | text (cs : List Char)
deriving DecidableEq, Repr

def Literal.written (c : Convention) : Literal → List Char
  | .bare cs => cs
  | .text cs => textChars c cs

def intLiteral (n : Int) : Except Fault Literal :=
  match Number.integerText? n with
  | some s => .ok (.bare s.toList)
  | none => .error .noText

/-- The literal of a cell. Lists and maps become the text of their JSON. -/
def literalOf (v : Value) : Except Fault Literal :=
  match v with
  | .null => .ok (.bare "NULL".toList)
  | .bool b => .ok (.bare (if b then "TRUE" else "FALSE").toList)
  | .float .nan => .ok (.bare "NULL".toList)
  | .float x => .ok (.bare x.text.toList)
  | .decimal d => .ok (.bare d.text.toList)
  | .int n => intLiteral n
  | .int64 n => intLiteral n
  | .text s => .ok (.text s.toList)
  | .code s _ => .ok (.text s.toList)
  | .list _ => return .text (← Csv.cellText v)
  | .map _ => return .text (← Csv.cellText v)
  | v => .error (.noLiteral v.typeName)

/-- Texts with a comma and a blank between them, in parentheses. -/
def inParentheses (parts : List (List Char)) : List Char :=
  '(' :: (", ".toList.intercalate parts ++ [')'])

/-- The statement that inserts one row of literals. Without columns none are listed. -/
def insertStatement (c : Convention) (table columns : List Name) (literals : List Literal) :
    List Char :=
  let columns := columns.map (·.written c)
  "INSERT INTO ".toList ++ writtenPath c table
    ++ (if columns.isEmpty then [] else ' ' :: inParentheses columns)
    ++ " VALUES ".toList ++ inParentheses (literals.map (·.written c)) ++ [';']

/-- The dialect of a name; no name and the empty one stand for the standard. -/
def readDialect (name : Option String) : Except Fault (Option Dialect) :=
  match name.bind fun s => if s.isEmpty then none else some s with
  | none => .ok none
  | some s =>
    match Dialect.ofName? s with
    | some d => .ok (some d)
    | none => .error (.dialect s)

def readTable (c : Convention) (name : String) : Except Fault (List Name) :=
  match scan? c name.toList with
  | none => .error .openMark
  | some ts =>
    match tablePath? ts with
    | some path => .ok path
    | none => .error .tableName

end Sql

/-- A table as insertions into a named table. The names of the dialect and of the table only count
if there are rows, and only after the cells of the first one. -/
def Table.toInsertions (t : Table) (table : String) (dialect : Option String) :
    Except Fault (List Char) :=
  match t.rows with
  | [] => .ok []
  | first :: rest => do
    let first ← first.mapM Sql.literalOf
    let c := Sql.Convention.of (← Sql.readDialect dialect)
    let path ← Sql.readTable c table
    let rest ← rest.mapM (·.mapM Sql.literalOf)
    let columns := t.names.map fun s => Sql.Name.ofText s.toList
    return Text.join '\n' ((first :: rest).map (Sql.insertStatement c path columns))

end Polystore
