import Polystore.Text.Pieces

/-!
# Backends

A backend is a kind of engine that can be connected to. Its family says which commands it takes.

* `Family`, `Dialect`, `Backend`;
* `Backend.ofName?`: the backend with exactly the given name;
* `Backend.resolve?`: the backend with the given name in any case of letters;
* `dialectOf`: the dialect of a relational backend.
-/

namespace Polystore

/-- The families of engines. -/
inductive Family
  | relational
  | document
  | keyValue
deriving DecidableEq, Repr

/-- The dialects of SQL. -/
inductive Dialect
  | sqlite
  | postgres
  | mysql
deriving DecidableEq, Repr

def Dialect.name : Dialect → String
  | .sqlite => "sqlite"
  | .postgres => "postgres"
  | .mysql => "mysql"

def Dialect.ofName? (name : String) : Option Dialect :=
  [Dialect.sqlite, .postgres, .mysql].find? (·.name == name)

/-- The kinds of engines. -/
inductive Backend
  | sqlite
  | postgresql
  | mysql
  | mariadb
  | mongodb
  | redis
deriving DecidableEq, Repr

namespace Backend

def all : List Backend := [.sqlite, .postgresql, .mysql, .mariadb, .mongodb, .redis]

def name : Backend → String
  | .sqlite => "sqlite"
  | .postgresql => "postgresql"
  | .mysql => "mysql"
  | .mariadb => "mariadb"
  | .mongodb => "mongodb"
  | .redis => "redis"

def family : Backend → Family
  | .mongodb => .document
  | .redis => .keyValue
  | _ => .relational

/-- The port that a backend listens on by default; an embedded engine has none. -/
def defaultPort? : Backend → Option Int
  | .sqlite => none
  | .postgresql => some 5432
  | .mysql => some 3306
  | .mariadb => some 3306
  | .mongodb => some 27017
  | .redis => some 6379

/-- The dialect of a relational backend. -/
def dialect? : Backend → Option Dialect
  | .sqlite => some .sqlite
  | .postgresql => some .postgres
  | .mysql => some .mysql
  | .mariadb => some .mysql
  | .mongodb => none
  | .redis => none

def ofName? (s : String) : Option Backend := all.find? (·.name == s)

/-- The backend with a name in any case of letters. The names have ASCII letters only, and no other
letter is the capital of one of them. -/
def resolve? (s : String) : Option Backend := ofName? (String.ofList (s.toList.map Char.toLower))

end Backend

/-- The dialect of the backend with a name. -/
def dialectOf (kind : Option String) : Option Dialect := do (← Backend.ofName? (← kind)).dialect?

end Polystore
