import Polystore.Sql.Expression

/-!
# Statements of SQL

A text of SQL holds statements with semicolons between them. The statements that are read are
queries of one `SELECT`, insertions, updates, deletions, and expressions that stand alone.

* `Sql.Source`, `Sql.Join`, `Sql.Query`, `Sql.Statement`;
* `Sql.query`, `Sql.statement`: reading them;
* `Sql.segments`, `Sql.statements?`: the statements of a text; there may be nothing between two
  semicolons;
* `Sql.tablePath?`: the name of a table, on its own.
-/

namespace Polystore.Sql

/-- An expression with another name. -/
structure Item where
  expression : Expression
  shownAs : Option Name
deriving Repr

/-- A table with another name. -/
structure Source where
  table : List Name
  shownAs : Option Name
deriving Repr

/-- What ties a joined table to the tables in front. -/
inductive Tie
  | free
  | on (condition : Expression)
  | sharing (columns : List Name)
deriving Repr

/-- A further table; the words say how it is joined, and there are none behind a comma. -/
structure Join where
  words : List String
  source : Source
  tie : Tie
deriving Repr

/-- An expression to sort by, and the direction if it is given. -/
structure SortKey where
  expression : Expression
  direction : Option String
deriving Repr

/-- A query. -/
structure Query where
  distinct : Bool
  items : List Item
  source : Option (Source × List Join)
  condition : Option Expression
  groups : List Expression
  groupCondition : Option Expression
  order : List SortKey
  limit : Option Expression
  offset : Option Expression
deriving Repr

/-- What is inserted. -/
inductive Insertion
  | nothing
  | rows (rows : List (List Expression))
  | query (q : Query)
deriving Repr

/-- A statement. -/
inductive Statement
  | query (q : Query)
  | insert (table : List Name) (columns : List Name) (what : Insertion)
  | update (source : Source) (changes : List Expression) (condition : Option Expression)
  | delete (source : Source) (condition : Option Expression)
  | expression (item : Item)
deriving Repr

/-! ## Parts of statements -/

section

variable {α : Type} (c : Convention)

/-- What stands behind a word, if the word comes next. -/
def behindWord (word : String) (body : Reader α) : Reader (Option α) := do
  if ← takeWord word then return some (← body) else return none

/-- What a reader reads, as often as it reads something, with commas between. The fuel bounds the
number of commas. -/
def listOf (body : Reader α) : (fuel : Nat) → Reader (List α)
  | 0 => failure
  | fuel + 1 => do
    let first ← body
    if ← takeSign "," then return first :: (← listOf body fuel) else return [first]

def parts (body : Reader α) : Reader (List α) := do listOf body (enough (← get))

/-- An item of a query, if one comes next. -/
def item? : Reader (Option Item) := do
  if (← peek?).any Token.startsExpression then
    return some ⟨← expression c, ← otherName?⟩
  else return none

/-- A table: its name, and another name. -/
def source : Reader Source := do return ⟨← path, ← otherName?⟩

def nameList : Reader (List Name) := do
  needSign "("
  let names ← parts (name keywords)
  needSign ")"
  return names

/-- The words in front of a joined table, in lower case. -/
def joinWords : List (List String) := [
  ["join"], ["inner", "join"], ["cross", "join"], ["left", "join"], ["left", "outer", "join"],
  ["right", "join"], ["right", "outer", "join"], ["full", "join"], ["full", "outer", "join"]]

/-- The words in front of a joined table, as they are written. -/
def takeJoin? : Reader (Option (List String)) := fun ts =>
  match joinWords.findSome? fun words => (dropWords? words ts).map (words, ·) with
  | some (words, rest) =>
    some (some (words.map fun w => String.ofList (w.toList.map Char.toUpper)), rest)
  | none => some (none, ts)

def tie : Reader Tie := do
  if ← takeWord "on" then return .on (← expression c)
  else if ← takeWord "using" then return .sharing (← nameList)
  else return .free

def joins : (fuel : Nat) → Reader (List Join)
  | 0 => failure
  | fuel + 1 => do
    if ← takeSign "," then
      let s ← source
      return ⟨[], s, .free⟩ :: (← joins fuel)
    else
      match ← takeJoin? with
      | some words =>
        let s ← source
        let t ← tie c
        return ⟨words, s, t⟩ :: (← joins fuel)
      | none => return []

def sources : Reader (Source × List Join) := do
  let first ← source
  return (first, ← joins c (enough (← get)))

def sortKey : Reader SortKey := do
  let e ← expression c
  if ← takeWord "desc" then return ⟨e, some "DESC"⟩
  else if ← takeWord "asc" then return ⟨e, some "ASC"⟩
  else return ⟨e, none⟩

/-- What stands behind words, or nothing. -/
def behindWords (words : List String) (body : Reader (List α)) : Reader (List α) := do
  if ← takeWords words then body else return []

/-- The limit and the offset of a query; with a comma between two numbers the first is the
offset. -/
def bounds : Reader (Option Expression × Option Expression) := do
  let limit ← behindWord "limit" (expression c)
  if limit.isSome then
    if ← takeSign "," then
      let count ← expression c
      return (some count, limit)
  return (limit, ← behindWord "offset" (expression c))

/-! ## Statements -/

/-- A query, behind the word `SELECT`. -/
def query : Reader Query := do
  let distinct ← takeWord "distinct"
  let items ← parts (item? c)
  let source ← behindWord "from" (sources c)
  let condition ← behindWord "where" (expression c)
  let groups ← behindWords ["group", "by"] (expressions c)
  let groupCondition ← behindWord "having" (expression c)
  let order ← behindWords ["order", "by"] (parts (sortKey c))
  let (limit, offset) ← bounds c
  return ⟨distinct, items.reduceOption, source, condition, groups, groupCondition, order, limit,
    offset⟩

/-- A row of expressions in parentheses. -/
def row : Reader (List Expression) := do
  needSign "("
  let items ← expressions c
  needSign ")"
  return items

/-- An insertion, behind the words `INSERT INTO`. -/
def insertion : Reader Statement := do
  let table ← path
  let columns ← if (← peek?).any (·.isSign "(") then nameList else pure []
  if ← takeWord "select" then return .insert table columns (.query (← query c))
  else if ← takeWord "values" then return .insert table columns (.rows (← parts (row c)))
  else return .insert table columns .nothing

def statement : Reader Statement := do
  if ← takeWord "select" then return .query (← query c)
  else if ← takeWord "insert" then
    needWord "into"
    insertion c
  else if ← takeWord "update" then
    let s ← source
    needWord "set"
    let changes ← assignments c
    return .update s changes (← behindWord "where" (expression c))
  else if ← takeWord "delete" then
    needWord "from"
    let s ← source
    return .delete s (← behindWord "where" (expression c))
  else return .expression ⟨← expression c, ← otherName?⟩

end

/-! ## Texts -/

/-- What a reader reads if it takes all tokens. -/
def whole? {α : Type} (reader : Reader α) (ts : List Token) : Option α :=
  match reader ts with
  | some (x, []) => some x
  | _ => none

/-- The tokens between semicolons; one at the very end closes the last statement. -/
def segments (ts : List Token) : List (List Token) :=
  let all := ts.foldr (fun t found =>
    if t.isSign ";" then [] :: found
    else
      match found with
      | segment :: rest => (t :: segment) :: rest
      | [] => [[t]]) [[]]
  if all.length ≠ 1 ∧ all.getLast? = some [] then all.dropLast else all

/-- The statements of a text; there may be nothing between two semicolons. -/
def statements? (c : Convention) (cs : List Char) : Option (List (Option Statement)) := do
  let ts ← scan? c cs
  (segments ts).mapM fun segment =>
    if segment.isEmpty then some none else (whole? (statement c) segment).map some

/-- The name of a table, on its own: names or texts with dots between them. -/
def tablePath? : List Token → Option (List Name)
  | [.text cs] => some [⟨cs, true⟩]
  | .text cs :: .sign ['.'] :: rest => (tablePath? rest).map (⟨cs, true⟩ :: ·)
  | [t] => (t.asName? keywords).map ([·])
  | t :: .sign ['.'] :: rest => do return (← t.asName? keywords) :: (← tablePath? rest)
  | _ => none

end Polystore.Sql
