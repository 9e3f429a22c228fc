import Polystore.Failure
import Polystore.Sql.Statement
import Polystore.Text.Blank

/-!
# The layout of SQL

A statement is laid out with every clause on a line of its own, and what belongs to a clause below
it, indented by two blanks. Keywords and names of functions are in capitals. Conditions and
arguments stay on one line as long as they have at most 80 characters.

A block is a list of lines. A line feed inside a text is part of its line, so that it is never
indented.

* `Sql.Block`, `Sql.beside`, `Sql.indented`;
* `Sql.Expression.block`, `Sql.Statement.block`;
* `Sql.format`: a text of SQL in the layout.
-/

namespace Polystore.Sql

open Text

/-! ## Blocks -/

abbrev Block := List (List Char)

def line (s : String) : Block := [s.toList]

/-- Put a block behind another one, so that it begins on the last line. -/
def beside : Block → Block → Block
  | [], b => b
  | [l], [] => [l]
  | [l], first :: more => (l ++ first) :: more
  | l :: rest, b => l :: beside rest b

def indented (b : Block) : Block := b.map fun l => ' ' :: ' ' :: l

/-- The number of characters of a block, with its line ends. -/
def size (b : Block) : Nat := b.foldl (fun n line => n + line.length) 0 + (b.length - 1)

/-- The longest text that stays on one line. -/
def maxWidth : Nat := 80

/-- Whether blocks are too wide for one line. -/
def tooWide (blocks : List Block) : Bool := maxWidth < blocks.foldl (fun n b => n + size b) 0

/-- Put a comma behind every block but the last. -/
def withCommas : List Block → List Block
  | [] => []
  | [b] => [b]
  | b :: rest => beside b (line ",") :: withCommas rest

def withBlanks : List Block → Block
  | [] => []
  | [b] => b
  | b :: rest => beside (beside b (line " ")) (withBlanks rest)

/-- Blocks in parentheses behind an opening, on one line or below each other. -/
def enclosed (opening : String) (isWide : Bool) (blocks : List Block) : Block :=
  if isWide then line opening ++ indented (withCommas blocks).flatten ++ line ")"
  else beside (beside (line opening) (withBlanks (withCommas blocks))) (line ")")

/-! ## Expressions -/

/-- Capital letters of the ASCII range. -/
def capitals (cs : List Char) : String := String.ofList (cs.map Char.toUpper)

/-- Put a word before the first line. -/
def behind (word : String) (b : Block) : Block := beside (line word) b

mutual

def Expression.block (c : Convention) : Expression → Block
  | .number cs => [cs]
  | .text cs => [textChars c cs]
  | .literal word => line word
  | .path names => [writtenPath c names]
  | .every table => [writtenPath c table ++ ['.', '*']]
  | .call function distinct arguments =>
    let blocks := blocksOf c arguments
    let isWide := tooWide blocks
    let blocks := if distinct then
        match blocks with
        | first :: rest => behind "DISTINCT " first :: rest
        | [] => []
      else blocks
    enclosed (capitals function ++ "(") isWide blocks
  | .group e => line "(" ++ indented (e.block c) ++ line ")"
  | .minus e =>
    let b := e.block c
    behind (if (b.head?.bind List.head?) = some '-' then "- " else "-") b
  | .negation e => behind "NOT " (e.block c)
  | .binary sign left right => withBlanks [left.block c, line sign, right.block c]
  | .logic word left right =>
    let conditions := left.conditions c ++ right.conditionsBehind c word
    if tooWide conditions then conditions.flatten else withBlanks conditions
  | .member e items =>
    let blocks := blocksOf c items
    beside (e.block c) (enclosed " IN (" (tooWide (withCommas blocks)) blocks)
  | .between e low high =>
    withBlanks [e.block c, line "BETWEEN", low.block c, line "AND", high.block c]

def blocksOf (c : Convention) : List Expression → List Block
  | [] => []
  | e :: rest => e.block c :: blocksOf c rest

/-- The conditions that are tied together, with a word in front of every one but the first. -/
def Expression.conditions (c : Convention) : Expression → List Block
  | .logic word left right => left.conditions c ++ right.conditionsBehind c word
  | e => [e.block c]

/-- The conditions that are tied together, with a word in front of every one. -/
def Expression.conditionsBehind (c : Convention) (first : String) : Expression → List Block
  | .logic word left right => left.conditionsBehind c first ++ right.conditionsBehind c word
  | e => [behind (first ++ " ") (e.block c)]

end

/-! ## Statements -/

variable (c : Convention)

/-- A block with another name behind it. -/
def aliased (b : Block) (shownAs : Option Name) : Block :=
  match shownAs with
  | some n => beside b [" AS ".toList ++ n.written c]
  | none => b

def Item.block (item : Item) : Block := aliased c (item.expression.block c) item.shownAs

def Source.block (s : Source) : Block := aliased c [writtenPath c s.table] s.shownAs

/-- A clause with what belongs to it below; nothing, if there is nothing. -/
def clause (word : String) (blocks : List Block) : Block :=
  if blocks.isEmpty then [] else line word ++ indented (withCommas blocks).flatten

def conditionClause (word : String) (e : Option Expression) : Block :=
  clause word (e.map (·.block c)).toList

def shortClause (word : String) (e : Option Expression) : Block :=
  match e with
  | some e => behind word (e.block c)
  | none => []

/-- Put a further table behind the ones in front. -/
def joined (front : Block) (j : Join) : Block :=
  let table := j.source.block c
  let front :=
    if j.words.isEmpty then beside front (behind ", " table)
    else front ++ behind (" ".intercalate j.words ++ " ") table
  match j.tie with
  | .free => front
  | .on condition => front ++ indented (behind "ON " (condition.block c))
  | .sharing columns =>
    front ++ indented [("USING (".toList ++ (", ".toList).intercalate (columns.map (·.written c)))
      ++ [')']]

/-- The block of an expression to sort by. -/
def SortKey.block (k : SortKey) : Block :=
  match k.direction with
  | some direction => beside (k.expression.block c) (line (" " ++ direction))
  | none => k.expression.block c

def Query.block (q : Query) : Block :=
  let tables := match q.source with
    | some (first, rest) => rest.foldl (joined c) (behind "FROM " (first.block c))
    | none => []
  line (if q.distinct then "SELECT DISTINCT" else "SELECT")
    ++ indented (withCommas (q.items.map (·.block c))).flatten
    ++ tables
    ++ conditionClause c "WHERE" q.condition
    ++ clause "GROUP BY" (blocksOf c q.groups)
    ++ conditionClause c "HAVING" q.groupCondition
    ++ clause "ORDER BY" (q.order.map (·.block c))
    ++ shortClause c "LIMIT " q.limit
    ++ shortClause c "OFFSET " q.offset

/-- The block of a row that is inserted. -/
def rowBlock (items : List Expression) : Block :=
  let blocks := blocksOf c items
  enclosed "(" (tooWide (withCommas blocks)) blocks

def Insertion.block : Insertion → Block
  | .nothing => []
  | .rows found => clause "VALUES" (found.map (rowBlock c))
  | .query q => q.block c

def Statement.block : Statement → Block
  | .query q => q.block c
  | .insert table columns what =>
    let front : Block := ["INSERT INTO ".toList ++ writtenPath c table]
    let front :=
      if columns.isEmpty then front
      else beside front (enclosed " (" true (columns.map fun n => [n.written c]))
    front ++ what.block c
  | .update s changes condition =>
    withBlanks (line "UPDATE" :: s.block c :: line "SET" :: withCommas (blocksOf c changes))
      ++ conditionClause c "WHERE" condition
  | .delete s condition => behind "DELETE FROM " (s.block c) ++ conditionClause c "WHERE" condition
  | .expression item => item.block c

/-! ## Texts -/

def text (b : Block) : List Char := ['\n'].intercalate b

/-- A text of SQL in the layout of a dialect, unless it cannot be read. -/
def format (dialect : Option Dialect) (sql : String) : Except CoreError String :=
  let c := Convention.of dialect
  if (trim sql.toList).isEmpty then .ok ""
  else
    match statements? c sql.toList with
    | some statements =>
      let texts := statements.map fun s => text ((s.map (·.block c)).getD [])
      .ok (String.ofList (";\n\n".toList.intercalate texts))
    | none => .error (.malformed .sql)

end Polystore.Sql
