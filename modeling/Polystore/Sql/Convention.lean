import Polystore.Backend
import Polystore.Text.Digit

/-!
# Conventions of SQL

The dialects of SQL differ in how they write names and texts. A name of ASCII letters, digits and
underscores may stand alone; any other name is put between marks, and a mark inside it is doubled.
A text stands between apostrophes, and an apostrophe inside it is doubled; some dialects escape
control characters with a backslash besides.

* `Sql.Convention`, `Sql.Convention.of`: the convention of a dialect;
* `Sql.Name`, `Sql.Name.ofText`, `Sql.Name.chars`: names, and how they are written;
* `Sql.backslashCodes`, `Sql.textChar`, `Sql.textChars`: how texts are written.
-/

namespace Polystore.Sql

/-- How names and texts are written. -/
structure Convention where
  /-- The mark that is put around names. -/
  mark : Char
  /-- The pairs of marks that may stand around a name. -/
  nameMarks : List (Char × Char)
  /-- The marks that may stand around a text. -/
  textMarks : List Char
  /-- Whether a backslash escapes the next character of a text. -/
  backslash : Bool
  /-- Whether a name may begin with a digit. -/
  digitFirst : Bool
  /-- Whether `&&` and `||` stand for the words `AND` and `OR`. -/
  logicSigns : Bool
  /-- The words that are put between marks wherever they are names. -/
  reserved : List String

def mysqlReserved : List String := [
  "accessible", "add", "all", "alter", "analyze", "and", "as", "asc", "asensitive", "before",
  "between", "bigint", "binary", "blob", "both", "by", "call", "cascade", "case", "change", "char",
  "character", "check", "collate", "column", "condition", "constraint", "continue", "convert",
  "create", "cross", "cube", "cume_dist", "current_date", "current_time", "current_timestamp",
  "current_user", "cursor", "database", "databases", "day_hour", "day_microsecond", "day_minute",
  "day_second", "dec", "decimal", "declare", "default", "delayed", "delete", "dense_rank", "desc",
  "describe", "deterministic", "distinct", "distinctrow", "div", "double", "drop", "dual", "each",
  "else", "elseif", "empty", "enclosed", "escaped", "except", "exists", "exit", "explain", "false",
  "fetch", "first_value", "float", "float4", "float8", "for", "force", "foreign", "from",
  "fulltext", "function", "generated", "get", "grant", "group", "grouping", "groups", "having",
  "high_priority", "hour_microsecond", "hour_minute", "hour_second", "if", "ignore", "in", "index",
  "infile", "inner", "inout", "insensitive", "insert", "int", "int1", "int2", "int3", "int4",
  "int8", "integer", "intersect", "interval", "into", "io_after_gtids", "io_before_gtids", "is",
  "iterate", "join", "json_table", "key", "keys", "kill", "lag", "last_value", "lateral", "lead",
  "leading", "leave", "left", "like", "limit", "linear", "lines", "load", "localtime",
  "localtimestamp", "lock", "long", "longblob", "longtext", "loop", "low_priority", "master_bind",
  "master_ssl_verify_server_cert", "match", "maxvalue", "mediumblob", "mediumint", "mediumtext",
  "middleint", "minute_microsecond", "minute_second", "mod", "modifies", "natural", "not",
  "no_write_to_binlog", "nth_value", "ntile", "null", "numeric", "of", "on", "optimize",
  "optimizer_costs", "option", "optionally", "or", "order", "out", "outer", "outfile", "over",
  "partition", "percent_rank", "precision", "primary", "procedure", "purge", "range", "rank",
  "read", "reads", "read_write", "real", "recursive", "references", "regexp", "release", "rename",
  "repeat", "replace", "require", "resignal", "restrict", "return", "revoke", "right", "rlike",
  "row", "row_number", "rows", "schema", "schemas", "second_microsecond", "select", "sensitive",
  "separator", "set", "show", "signal", "smallint", "spatial", "specific", "sql", "sqlexception",
  "sqlstate", "sqlwarning", "sql_big_result", "sql_calc_found_rows", "sql_small_result", "ssl",
  "starting", "stored", "straight_join", "system", "table", "terminated", "then", "tinyblob",
  "tinyint", "tinytext", "to", "trailing", "trigger", "true", "undo", "union", "unique", "unlock",
  "unsigned", "update", "usage", "use", "using", "utc_date", "utc_time", "utc_timestamp", "values",
  "varbinary", "varchar", "varcharacter", "varying", "virtual", "when", "where", "while", "window",
  "with", "write", "xor", "year_month", "zerofill"]

/-- The convention of a dialect; without one, that of the standard. -/
def Convention.of : Option Dialect → Convention
  | none => ⟨'"', [('"', '"')], ['\''], false, false, false, []⟩
  | some .postgres => ⟨'"', [('"', '"')], ['\''], false, false, false, []⟩
  | some .sqlite =>
    ⟨'"', [('"', '"'), ('[', ']'), ('\x60', '\x60')], ['\''], false, false, false, []⟩
  | some .mysql => ⟨'\x60', [('\x60', '\x60')], ['\'', '"'], true, true, true, mysqlReserved⟩

/-! ## Names -/

/-- The letters, digits and underscores of the ASCII range. -/
def isNameChar (c : Char) : Bool := c.isAlphanum || c == '_'

/-- Whether a text is a name that may stand alone. -/
def isPlainName : List Char → Bool
  | [] => false
  | c :: cs => (c.isAlpha || c == '_') && cs.all isNameChar

/-- A name; it may be marked as one that has to stand between marks. -/
structure Name where
  chars : List Char
  marked : Bool
deriving DecidableEq, Repr

namespace Name

def ofText (cs : List Char) : Name := ⟨cs, !isPlainName cs⟩

/-- Whether a name is written between marks. -/
def needsMarks (c : Convention) (name : Name) : Bool :=
  name.marked || c.reserved.contains (String.ofList (name.chars.map Char.toLower))

def written (c : Convention) (name : Name) : List Char :=
  if name.needsMarks c then
    c.mark :: (name.chars.flatMap (fun x => if x = c.mark then [x, x] else [x]) ++ [c.mark])
  else name.chars

end Name

def writtenPath (c : Convention) (path : List Name) : List Char :=
  ['.'].intercalate (path.map (·.written c))

/-! ## Texts -/

/-- The characters that have an escape of their own, with the letter behind the backslash. -/
def backslashCodes : List (Char × Char) := [
  ('\x07', 'a'), ('\x08', 'b'), ('\x0c', 'f'), ('\n', 'n'), ('\r', 'r'), ('\t', 't'),
  ('\x0b', 'v'), ('\\', '\\')]

/-- One character of a text as it is written. -/
def textChar (c : Convention) (x : Char) : List Char :=
  if x = '\'' then ['\'', '\'']
  else
    match c.backslash, backslashCodes.lookup x with
    | true, some code => ['\\', code]
    | _, _ => [x]

def textChars (c : Convention) (cs : List Char) : List Char :=
  '\'' :: (cs.flatMap (textChar c) ++ ['\''])

end Polystore.Sql
