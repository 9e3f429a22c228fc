import Polystore.Value.Normal

/-!
# Reading fields

Parameters and settings come as named values of any kind. Reading a field is lax: a number may come
as a text, and a truth value as a number or as one of a few words.

* `FieldFlaw`, `FieldError`: why a field cannot be read;
* `Field.readText`, `Field.readInteger`, `Field.readBool`, `Field.readFloat`;
* `Field.required`, `Field.optional`: looking a field up.
-/

namespace Polystore

open Number Text

/-- Why a field cannot be read. -/
inductive FieldFlaw
  | missing
  | textType
  | textEncoding
  | integerType
  | integerText
  | integerSize
  | integerFraction
  | notFinite
  | boolType
  | boolText
  | floatType
  | floatText
  | tooSmall
deriving DecidableEq, Repr

def FieldFlaw.code : FieldFlaw → String
  | .missing => "missing"
  | .textType => "string_type"
  | .textEncoding => "string_unicode"
  | .integerType => "int_type"
  | .integerText => "int_parsing"
  | .integerSize => "int_parsing_size"
  | .integerFraction => "int_from_float"
  | .notFinite => "finite_number"
  | .boolType => "bool_type"
  | .boolText => "bool_parsing"
  | .floatType => "float_type"
  | .floatText => "float_parsing"
  | .tooSmall => "greater_than_equal"

/-- A flaw of a named field. -/
structure FieldError where
  name : String
  flaw : FieldFlaw
deriving DecidableEq, Repr

/-- The text that reports the flaws of fields, in order. -/
def FieldError.message (errors : List FieldError) : String :=
  "; ".intercalate (errors.map fun e => e.name ++ ": " ++ e.flaw.code)

namespace Field

/-- The text in a value that holds characters or their bytes; bytes that encode no text have
the given flaw. -/
def heldText? (flaw : FieldFlaw) (v : Value) : Option (Except FieldFlaw String) :=
  match v with
  | .bytes .view _ => none
  | v =>
    match v.asText?, v.asBytes? with
    | some s, _ => some (.ok s)
    | none, some b => some ((decodeUtf8? b).elim (.error flaw) .ok)
    | none, none => none

def readText (v : Value) : Except FieldFlaw String :=
  (heldText? .textEncoding v).getD (.error .textType)

/-! ## Integers -/

/-- Leave out zeros and underscores in front of the first other digit or of the point; a text of
nothing else keeps its last character. -/
def dropZeros (last : Char) : List Char → Option (List Char)
  | [] => some [last]
  | c :: rest =>
    if c == '0' || c == '_' then dropZeros c rest
    else if '1' ≤ c && c ≤ '9' then some (c :: rest)
    else if c == '.' then some (last :: c :: rest)
    else none

def dropZeroFraction (cs : List Char) : List Char :=
  match cutFirst? '.' cs with
  | some (front, back) => if !back.isEmpty && back.all (· == '0') then front else cs
  | none => cs

/-- Leave out underscores, if each stands between two other characters. -/
def dropUnderscores (cs : List Char) : List Char :=
  if cs.head? == some '_' || cs.getLast? == some '_' || holds ['_', '_'] cs then cs
  else cs.filter (· != '_')

/-- The integer of plain digits with an optional minus sign and no zero in front. -/
def readPlain (cs : List Char) : Except FieldFlaw Int :=
  let (negative, digits) := match cs with
    | '-' :: rest => (true, rest)
    | rest => (false, rest)
  let values := digits.filterMap asciiDigit?
  if values.length ≠ digits.length ∨ values.isEmpty ∨ (values.head? = some 0 ∧ values ≠ [0]) then
    .error .integerText
  else if maxDigits < values.length then .error .integerSize
  else .ok (if negative then -(ofDigits values : Int) else ofDigits values)

/-- The plain form of an integer with a sign, zeros in front, underscores or a fraction of zeros. -/
def plainInteger? (cs : List Char) : Option (List Char) := do
  let cs ← match cs with
    | '+' :: '-' :: _ => none
    | '+' :: rest => some rest
    | rest => some rest
  let cs ← match cs with
    | '0' :: rest => dropZeros '0' rest
    | c :: rest => if c == '-' || ('1' ≤ c && c ≤ '9') then some (c :: rest) else none
    | [] => none
  return dropUnderscores (dropZeroFraction cs)

def readIntegerText (s : String) : Except FieldFlaw Int :=
  let cs := trimSpace s.toList
  match readPlain cs with
  | .error .integerText =>
    match plainInteger? cs with
    | some plain => readPlain plain
    | none => .error .integerText
  | r => r

/-- An integer: a number without a fraction, a truth value, or a text. A float has to have 64
bits. -/
def readInteger (v : Value) : Except FieldFlaw Int :=
  match v with
  | .bool b => .ok (if b then 1 else 0)
  | .int n => .ok n
  | .int64 n => .ok n
  | .float x =>
    if !x.isFinite then .error .notFinite
    else if !x.isIntegral then .error .integerFraction
    else
      match x.truncate? with
      | some n => if minInt64 < n ∧ n ≤ maxInt64 then .ok n else .error .integerSize
      | none => .error .notFinite
  | .decimal d =>
    match d.truncate? with
    | some n => if d.isIntegral then .ok n else .error .integerFraction
    | none => .error .notFinite
  | v =>
    match heldText? .integerText v with
    | some text => do readIntegerText (← text)
    | none => .error .integerType

/-! ## Truth values and floats -/

/-- The words for yes and no, in small letters. -/
def yesWords : List String := ["1", "true", "t", "yes", "y", "on"]

@[inherit_doc yesWords]
def noWords : List String := ["0", "false", "f", "no", "n", "off"]

/-- The truth value of a word in any case of letters. -/
def readWord (s : String) : Except FieldFlaw Bool :=
  let word := String.ofList (s.toList.map Char.toLower)
  if word ∈ yesWords then .ok true
  else if word ∈ noWords then .ok false
  else .error .boolText

/-- A truth value: zero, one, or a word. -/
def readBool (v : Value) : Except FieldFlaw Bool :=
  match v with
  | .bool b => .ok b
  | .float x =>
    if x.isZero then .ok false
    else if x.sameNumber (.ofInt 1) then .ok true
    else .error .boolType
  | v =>
    match v.asInt? with
    | some 0 => .ok false
    | some 1 => .ok true
    | some _ => .error .boolText
    | none =>
      match heldText? .boolText v with
      | some text => do readWord (← text)
      | none => .error .boolType

def readFloatText (s : String) : Except FieldFlaw Binary64 :=
  match readFloat? (trimSpace s.toList) <|> readFloat? (dropUnderscores s.toList) with
  | some x => .ok x
  | none => .error .floatText

/-- A float: a number that is in the range of floats, a truth value, or a text. -/
def readFloat (v : Value) : Except FieldFlaw Binary64 :=
  match v with
  | .bool b => .ok (.ofInt (if b then 1 else 0))
  | .float x => .ok x
  | .decimal d => d.toFloat?.elim (.error .floatType) .ok
  | v =>
    match v.asInt? with
    | some n => (Binary64.ofInt? n).elim (.error .floatType) .ok
    | none =>
      match heldText? .floatText v with
      | some text => do readFloatText (← text)
      | none => .error .floatType

/-! ## Looking up -/

/-- A value that is read, or the flaw of its field. -/
abbrev Checked (α : Type) := Except FieldError α

variable {α : Type}

def required (fields : OrderedMap String Value) (name : String)
    (read : Value → Except FieldFlaw α) : Checked α :=
  match OrderedMap.get? fields name with
  | some v => (read v).mapError (⟨name, ·⟩)
  | none => .error ⟨name, .missing⟩

def optional (fields : OrderedMap String Value) (name : String) (default : α)
    (read : Value → Except FieldFlaw α) : Checked α :=
  match OrderedMap.get? fields name with
  | some v => (read v).mapError (⟨name, ·⟩)
  | none => .ok default

def nullable (read : Value → Except FieldFlaw α) : Value → Except FieldFlaw (Option α)
  | .null => .ok none
  | v => (read v).map some

/-- The one of two names that is given, the first if both or none are. -/
def givenName (fields : OrderedMap String Value) (first second : String) : String :=
  if !OrderedMap.contains fields first && OrderedMap.contains fields second then second else first

/-- The error of a field, if it has one. -/
def errorOf : Checked α → List FieldError
  | .ok _ => []
  | .error e => [e]

end Field

end Polystore
