import Polystore.Cli.Switch
import Polystore.Descriptor
import Polystore.Number.Integer

/-!
# Reading the command line

The words of a command line are first told apart: names of switches, perhaps cut short or with a
value behind an equals sign, and words that stand alone. Behind a bare double dash all words stand
alone. Then the words are gone through from left to right: a switch takes its value, and the first
word that is left over is the command.

* `Cli.Question`, `Cli.Mode`, `Cli.Arguments`: what is to be done;
* `Cli.Word`, `Cli.Word.ofText`, `Cli.wordsOf`: telling words apart;
* `Cli.Draft`, `Cli.Draft.set`, `Cli.Draft.fill`: going through the words;
* `Cli.Arguments.read`.
-/

namespace Polystore.Cli

open Text Number

/-- What an engine is asked for. -/
inductive Question
  /-- The answer to the command. -/
  | command
  | schema
  | keys (pattern : String)
  | value (key : String)
deriving DecidableEq, Repr

/-- What is to be done. -/
inductive Mode
  | ask (q : Question)
  /-- Lay the command out as SQL. -/
  | format
deriving DecidableEq, Repr

/-- A command line that makes sense. -/
structure Arguments where
  kind : String
  host : String
  port : Option Int
  database : String
  user : String
  password : Option String
  tls : Bool
  output : ExportFormat
  headers : Bool
  mode : Mode
  command : String
deriving DecidableEq, Repr

/-! ## Words -/

/-- A word of a command line. -/
inductive Word
  /-- The name of a switch, perhaps with a value behind it. -/
  | switch (s : Switch) (isShort : Bool) (value : Option String)
  /-- What looks like a switch and is none. -/
  | unknown (given : String)
  /-- The bare double dash. -/
  | dashes
  | plain (text : String)
deriving DecidableEq, Repr

def isDigit (c : Char) : Bool := (digit? c).isSome

/-- Whether a text is a negative number without an exponent; a line feed may follow. -/
def isNegativeNumber (cs : List Char) : Bool :=
  let cs := if cs.getLast? = some '\n' then cs.dropLast else cs
  match cs with
  | '-' :: rest =>
    let fraction := rest.dropWhile isDigit
    if fraction.isEmpty then !rest.isEmpty
    else
      match fraction with
      | '.' :: digits => !digits.isEmpty && digits.all isDigit
      | _ => false
  | _ => false

/-- The text in front of the first equals sign, and the one behind it if there is one. -/
def cutValue (given : String) : String × Option String :=
  match cutFirst? '=' given.toList with
  | some (front, back) => (String.ofList front, some (String.ofList back))
  | none => (given, none)

/-- The switches whose name begins with a text. -/
def candidates (front : String) : List Switch :=
  Switch.all.filter fun s => front.toList.isPrefixOf s.name.toList

/-- What a text is that begins with a dash and is not exactly the name of a switch. -/
def Word.ofDashed (given : String) : Except UsageError Word :=
  let (front, value) := cutValue given
  match given.toList, (Switch.ofName? front).filter fun _ => value.isSome with
  | ['-'], _ => .ok (.plain given)
  | _, some s => .ok (.switch s (front == Switch.shortHelp) value)
  | '-' :: '-' :: _, none =>
    match candidates front with
    | [s] => .ok (.switch s false value)
    | [] => .ok other
    | several => .error (.ambiguous given several)
  | '-' :: 'h' :: rest, none => .ok (.switch .help true (some (String.ofList rest)))
  | _, none => .ok other
where
  /-- A number or a text with a blank is no switch. -/
  other : Word :=
    if isNegativeNumber given.toList || given.toList.contains ' ' then .plain given
    else .unknown given

/-- What a text in front of a bare double dash is. -/
def Word.ofText (given : String) : Except UsageError Word :=
  match given.toList with
  | '-' :: _ =>
    match Switch.ofName? given with
    | some s => .ok (.switch s (given == Switch.shortHelp) none)
    | none => Word.ofDashed given
  | _ => .ok (.plain given)

def wordsOf : List String → Except UsageError (List Word)
  | [] => .ok []
  | given :: rest =>
    if given = "--" then .ok (.dashes :: rest.map .plain)
    else return (← Word.ofText given) :: (← wordsOf rest)

/-! ## Going through the words -/

/-- What is known of a command line so far. -/
structure Draft where
  arguments : Arguments
  kindGiven : Bool
  /-- The switch that says what is to be done. -/
  mode : Option Switch
  /-- Whether the place of the command is taken. -/
  hasCommand : Bool
  /-- The words that are left over. -/
  extras : List String

/-- Why going through the words ends early. -/
inductive Stop
  | help
  | refused (e : UsageError)
deriving DecidableEq, Repr

namespace Draft

def start : Draft :=
  { arguments := ⟨"", localHost, none, "", "", none, false, .csv, true, .ask .command, ""⟩
    kindGiven := false
    mode := none
    hasCommand := false
    extras := [] }

/-- Take a switch with its value in; a switch that takes none has an empty one. -/
def set (d : Draft) (s : Switch) (value : String) : Except UsageError Draft :=
  let a := d.arguments
  match s with
  | .help => .ok d
  | .kind => .ok { d with arguments := { a with kind := value }, kindGiven := true }
  | .host => .ok { d with arguments := { a with host := value } }
  | .port =>
    match readInteger? value.toList with
    | some n => .ok { d with arguments := { a with port := some n } }
    | none => .error (.noInteger .port value)
  | .database => .ok { d with arguments := { a with database := value } }
  | .user => .ok { d with arguments := { a with user := value } }
  | .password => .ok { d with arguments := { a with password := some value } }
  | .tls => .ok { d with arguments := { a with tls := true } }
  | .output =>
    match ExportFormat.ofName? value with
    | some f => .ok { d with arguments := { a with output := f } }
    | none => .error (.noChoice .output value (ExportFormat.all.map (·.name)))
  | .noHeaders => .ok { d with arguments := { a with headers := false } }
  | .schema => .ok { d with arguments := { a with mode := .ask .schema } }
  | .keys => .ok { d with arguments := { a with mode := .ask (.keys value) } }
  | .get => .ok { d with arguments := { a with mode := .ask (.value value) } }
  | .formatSql => .ok { d with arguments := { a with mode := .format } }

/-- Take a switch in, unless another one excludes it. -/
def give (d : Draft) (s : Switch) (value : String) : Except UsageError Draft := do
  let next ← d.set s value
  if s.isMode then
    match d.mode with
    | some other => if other = s then return next else .error (.excluded s other)
    | none => return { next with mode := some s }
  else return next

def command (d : Draft) (text : String) : Draft :=
  { d with arguments := { d.arguments with command := text }, hasCommand := true }

/-- Take words in that are left over. -/
def leave (d : Draft) (texts : List String) : Draft := { d with extras := d.extras ++ texts }

/-- The end of a switch that takes no value: behind a short name the letters of further short names
may follow. -/
def finishSwitch (d : Draft) (s : Switch) (isShort : Bool) (value : Option String) :
    Except Stop Draft :=
  let spare := match value with
    | some text => if isShort then if text.isEmpty then some "" else
        let more := text.toList.dropWhile (· == 'h')
        if more.isEmpty then none else some (String.ofList more)
      else some text
    | none => none
  match spare with
  | some text => .error (.refused (.spareValue s text))
  | none => if s = .help then .error .help else (d.give s "").mapError .refused

def fill (d : Draft) : List Word → Except Stop Draft
  | [] => .ok d
  | .switch s isShort value :: rest =>
    if s.takesValue then
      match value, rest with
      | some text, rest => do fill (← (d.give s text).mapError .refused) rest
      | none, .plain text :: rest => do fill (← (d.give s text).mapError .refused) rest
      | none, _ => .error (.refused (.noValue s))
    else do fill (← d.finishSwitch s isShort value) rest
  | .unknown given :: rest => fill (d.leave [given]) rest
  | .dashes :: .plain text :: rest =>
    if d.hasCommand then fill (d.leave ["--", text]) rest else fill (d.command text) rest
  | .dashes :: rest => fill (if d.hasCommand then d.leave ["--"] else d.command "") rest
  | .plain text :: .dashes :: rest =>
    if d.hasCommand then fill (d.leave [text]) (.dashes :: rest) else fill (d.command text) rest
  | .plain text :: rest => fill (if d.hasCommand then d.leave [text] else d.command text) rest

/-- The arguments, if nothing is missing and nothing is left over. -/
def finish (d : Draft) : Except UsageError Arguments :=
  if !d.kindGiven then .error (.missing .kind)
  else if d.extras.isEmpty then .ok d.arguments
  else .error (.unrecognized d.extras)

end Draft

def Arguments.read (given : List String) : Except Stop Arguments := do
  let words ← (wordsOf given).mapError .refused
  let draft ← Draft.start.fill words
  draft.finish.mapError .refused

end Polystore.Cli
