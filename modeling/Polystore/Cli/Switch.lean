import Polystore.Export
import Polystore.Text.Quoted

/-!
# Switches of the command line

* `Cli.Switch`: what may be given on the command line by name;
* `Cli.Switch.takesValue`, `Cli.Switch.isMode`: whether a value follows, and whether it excludes
  others;
* `Cli.UsageError`, `Cli.UsageError.message`: why a command line is refused;
* `Cli.usage`, `Cli.help`: the texts that explain the command line.
-/

namespace Polystore.Cli

/-- What may be given by name. -/
inductive Switch
  | help
  | kind
  | host
  | port
  | database
  | user
  | password
  | tls
  | output
  | noHeaders
  | schema
  | keys
  | get
  | formatSql
deriving DecidableEq, Repr

namespace Switch

/-- All switches, in the order in which they are explained. -/
def all : List Switch :=
  [.help, .kind, .host, .port, .database, .user, .password, .tls, .output, .noHeaders, .schema,
    .keys, .get, .formatSql]

def name : Switch → String
  | .help => "--help"
  | .kind => "--type"
  | .host => "--host"
  | .port => "--port"
  | .database => "--database"
  | .user => "--user"
  | .password => "--password"
  | .tls => "--tls"
  | .output => "--output"
  | .noHeaders => "--no-headers"
  | .schema => "--schema"
  | .keys => "--keys"
  | .get => "--get"
  | .formatSql => "--format-sql"

/-- The short name of the only switch that has one. -/
def shortHelp : String := "-h"

def label : Switch → String
  | .help => shortHelp ++ "/" ++ name .help
  | s => s.name

/-- Whether a value follows a switch. -/
def takesValue : Switch → Bool
  | .help => false
  | .tls => false
  | .noHeaders => false
  | .schema => false
  | .formatSql => false
  | _ => true

/-- Whether a switch says what is to be done; two such switches exclude each other. -/
def isMode : Switch → Bool
  | .schema => true
  | .keys => true
  | .get => true
  | .formatSql => true
  | _ => false

def ofName? (s : String) : Option Switch :=
  if s = shortHelp then some .help else all.find? (·.name == s)

end Switch

/-- Why a command line is refused. -/
inductive UsageError
  | ambiguous (given : String) (candidates : List Switch)
  | noValue (s : Switch)
  /-- A value for a switch that takes none. -/
  | spareValue (s : Switch) (value : String)
  | noInteger (s : Switch) (value : String)
  | noChoice (s : Switch) (value : String) (choices : List String)
  | excluded (s other : Switch)
  | missing (s : Switch)
  | unrecognized (given : List String)
deriving DecidableEq, Repr

def about (s : Switch) (words : String) : String := "argument " ++ s.label ++ ": " ++ words

def UsageError.message : UsageError → String
  | .ambiguous given candidates =>
    "ambiguous option: " ++ given ++ " could match " ++ ", ".intercalate (candidates.map (·.name))
  | .noValue s => about s "expected one argument"
  | .spareValue s value => about s ("ignored explicit argument " ++ Text.quoted value)
  | .noInteger s value => about s ("invalid int value: " ++ Text.quoted value)
  | .noChoice s value choices =>
    about s ("invalid choice: " ++ Text.quoted value ++ " (choose from "
      ++ ", ".intercalate (choices.map Text.quoted) ++ ")")
  | .excluded s other => about s ("not allowed with argument " ++ other.label)
  | .missing s => "the following arguments are required: " ++ s.label
  | .unrecognized given => "unrecognized arguments: " ++ " ".intercalate given

/-- The lines that sum up the command line. -/
def usage : String := "\n".intercalate [
  "usage: dbdeck [-h] --type KIND [--host HOST] [--port PORT]",
  "              [--database DATABASE] [--user USER] [--password PASSWORD]",
  "              [--tls] [--output \x7bcsv,json,sql\x7d] [--no-headers]",
  "              [--schema | --keys PATTERN | --get KEY | --format-sql]",
  "              [command]"]

/-- The lines that explain the command line. -/
def help : String := usage ++ "\n".intercalate [
  "",
  "",
  "Run one command against a database.",
  "",
  "positional arguments:",
  "  command               SQL, collection command or key-value command",
  "",
  "options:",
  "  -h, --help            show this help message and exit",
  "  --type KIND           Backend kind, e.g. sqlite, postgresql, mysql, mariadb,",
  "                        mongodb, redis",
  "  --host HOST",
  "  --port PORT",
  "  --database DATABASE   Database name, file path (sqlite) or db index (redis)",
  "  --user USER",
  "  --password PASSWORD",
  "  --tls",
  "  --output \x7bcsv,json,sql\x7d",
  "  --no-headers          Omit the CSV header row",
  "  --schema              Print introspected schema as JSON",
  "  --keys PATTERN        List key-value keys matching PATTERN",
  "  --get KEY             Read one key-value key",
  "  --format-sql          Pretty-print COMMAND without running it",
  ""]

end Polystore.Cli
