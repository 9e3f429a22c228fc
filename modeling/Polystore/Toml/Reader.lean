import Polystore.Number.FloatText
import Polystore.Text.Hex
import Polystore.Text.Pieces
import Polystore.Toml

/-!
# Reading TOML

A document is read statement by statement; each function takes the rest of the text and gives the
rest behind what it read.

* `Toml.Flaw`: why a text is no document;
* keys and strings: `readBasic?`, `readLiteral?`, `readKey?`;
* numbers, dates and times: `readMarked?`, `readDecimal?`, `readNamed?`, `readMoment?`;
* `readValue`: a value;
* `Toml.read`: a whole text.

Brackets are followed as deep as a text has them. The stack of a run is no part of the model: it
sets no limit here, nor where JSON is read or values are normalized.
-/

namespace Polystore.Toml

open Text Number Calendar

/-- Why a text is no document. -/
inductive Flaw
  | form
  /-- An integer has too many digits. -/
  | digits
deriving DecidableEq, Repr

/-- What may be absent, as what has to be there. -/
def expect {α : Type} : Option α → Except Flaw α
  | some x => .ok x
  | none => .error .form

def isGap (c : Char) : Bool := c == ' ' || c == '\t'

def isWide (c : Char) : Bool := isGap c || c == '\n'

def skipGap (cs : List Char) : List Char := cs.dropWhile isGap

/-- Control characters other than the tab. -/
def isControl (c : Char) : Bool := (c.toNat < 32 && c != '\t') || c.toNat == 127

/-- Skip a comment, up to the end of its line. -/
def skipComment? : List Char → Option (List Char)
  | '#' :: cs =>
    if (cs.takeWhile (· != '\n')).any isControl then none else some (cs.dropWhile (· != '\n'))
  | cs => some cs

/-- Skip blanks, line feeds and comments. -/
def skipLines? (fuel : Nat) (cs : List Char) : Option (List Char) :=
  match fuel, cs.dropWhile isWide with
  | fuel + 1, '#' :: cs => do skipLines? fuel (← skipComment? ('#' :: cs))
  | _, cs => some cs

/-! ## Strings -/

/-- The character of an escape of one letter. -/
def escaped? : Char → Option Char
  | 'b' => some '\x08'
  | 't' => some '\t'
  | 'n' => some '\n'
  | 'f' => some '\x0c'
  | 'r' => some '\r'
  | '"' => some '"'
  | '\\' => some '\\'
  | _ => none

/-- The character of a number of hexadecimal digits. -/
def codeChar? (count : Nat) (cs : List Char) : Option Char := do
  let digits := cs.take count
  let n ← readHex? digits
  if digits.length = count ∧ n < 0x110000 ∧ ¬ (0xD800 ≤ n ∧ n < 0xE000) then some (Char.ofNat n)
  else none

/-- How many characters a joint of two lines takes: blanks, a line feed and all blanks and line
feeds behind. -/
def joint? (cs : List Char) : Option Nat :=
  let gap := (cs.takeWhile isGap).length
  match cs.drop gap with
  | '\n' :: rest => some (gap + 1 + (rest.takeWhile isWide).length)
  | _ => none

/-- What an escape behind the backslash stands for, and how many characters it takes. -/
def escape? (multiline : Bool) (cs : List Char) : Option (List Char × Nat) :=
  match cs with
  | 'u' :: rest => (codeChar? 4 rest).map fun c => ([c], 5)
  | 'U' :: rest => (codeChar? 8 rest).map fun c => ([c], 9)
  | c :: _ =>
    if multiline && isWide c then (joint? cs).map fun n => ([], n)
    else (escaped? c).map fun c => ([c], 1)
  | [] => none

/-- The characters of a basic string up to its closing quotes. -/
def readBasic? (multiline : Bool) (cs : List Char) (acc : List Char) :
    Option (List Char × List Char) :=
  match cs with
  | [] => none
  | '"' :: rest =>
    if !multiline then some (acc.reverse, rest)
    else if ['"', '"'].isPrefixOf rest then some (acc.reverse, rest.drop 2)
    else readBasic? multiline rest ('"' :: acc)
  | '\\' :: rest =>
    match escape? multiline rest with
    | some (chars, count) => readBasic? multiline (rest.drop count) (chars ++ acc)
    | none => none
  | c :: rest =>
    if isControl c && !(multiline && c == '\n') then none else readBasic? multiline rest (c :: acc)
termination_by cs.length
decreasing_by all_goals simp only [List.length_cons, List.length_drop]; omega

/-- The characters of a literal string up to its closing quotes. -/
def readLiteral? (multiline : Bool) : List Char → Option (List Char × List Char)
  | [] => none
  | '\'' :: rest =>
    if !multiline then some ([], rest)
    else if ['\'', '\''].isPrefixOf rest then some ([], rest.drop 2)
    else do
      let (chars, rest) ← readLiteral? multiline rest
      return ('\'' :: chars, rest)
  | c :: rest =>
    if isControl c && !(multiline && c == '\n') then none
    else do
      let (chars, rest) ← readLiteral? multiline rest
      return (c :: chars, rest)

/-- Up to two quotes behind the closing ones belong to a string of several lines. -/
def extraQuotes (quote : Char) (chars rest : List Char) : List Char × List Char :=
  match rest with
  | a :: b :: more =>
    if a = quote then
      if b = quote then (chars ++ [quote, quote], more) else (chars ++ [quote], b :: more)
    else (chars, a :: b :: more)
  | [a] => if a = quote then (chars ++ [quote], []) else (chars, [a])
  | [] => (chars, [])

/-- A line feed right behind the opening quotes does not count. -/
def dropFirstLine : List Char → List Char
  | '\n' :: rest => rest
  | cs => cs

def readText? (cs : List Char) : Option (List Char × List Char) :=
  match cs with
  | '"' :: '"' :: '"' :: rest => do
    let (chars, rest) ← readBasic? true (dropFirstLine rest) []
    return extraQuotes '"' chars rest
  | '"' :: rest => readBasic? false rest []
  | '\'' :: '\'' :: '\'' :: rest => do
    let (chars, rest) ← readLiteral? true (dropFirstLine rest)
    return extraQuotes '\'' chars rest
  | '\'' :: rest => readLiteral? false rest
  | _ => none

/-! ## Keys -/

/-- The characters of keys without quotes. -/
def isBare (c : Char) : Bool := c.isAlphanum || c == '-' || c == '_'

def readKeyPart? (cs : List Char) : Option (String × List Char) :=
  match cs with
  | '"' :: rest => (readBasic? false rest []).map fun (chars, rest) => (String.ofList chars, rest)
  | '\'' :: rest => (readLiteral? false rest).map fun (chars, rest) => (String.ofList chars, rest)
  | cs =>
    let chars := cs.takeWhile isBare
    if chars.isEmpty then none else some (String.ofList chars, cs.dropWhile isBare)

/-- The parts of a key between points, and the blanks behind. -/
def readKey? (fuel : Nat) (cs : List Char) : Option (Path × List Char) :=
  match fuel with
  | 0 => none
  | fuel + 1 => do
    let (part, cs) ← readKeyPart? cs
    match skipGap cs with
    | '.' :: rest =>
      let (path, cs) ← readKey? fuel (skipGap rest)
      return (part :: path, cs)
    | cs => return ([part], cs)

/-! ## Numbers, dates and times -/

/-- Digits with single underscores between them. -/
def readRun (isDigit : Char → Bool) : List Char → List Char × List Char
  | '_' :: d :: rest =>
    if isDigit d then
      let (digits, rest) := readRun isDigit rest
      (d :: digits, rest)
    else ([], '_' :: d :: rest)
  | c :: rest =>
    if isDigit c then
      let (digits, rest) := readRun isDigit rest
      (c :: digits, rest)
    else ([], c :: rest)
  | [] => ([], [])

/-- A run of digits that begins with a digit. -/
def readDigits? (isDigit : Char → Bool) (cs : List Char) : Option (List Char × List Char) :=
  if cs.head?.any isDigit then some (readRun isDigit cs) else none

def isDigitOf (base : Nat) (c : Char) : Bool := (hexDigit? c).any (· < base)

def ofBase (base : Nat) (digits : List Char) : Nat :=
  (digits.filterMap hexDigit?).foldl (fun n d => base * n + d) 0

/-- A number in another base than ten, behind its mark. -/
def readMarked? (cs : List Char) : Option (Value × List Char) :=
  let readAs := fun (base : Nat) (rest : List Char) =>
    (readDigits? (isDigitOf base) rest).map fun (digits, rest) =>
      (Value.int (ofBase base digits), rest)
  match cs with
  | '0' :: 'x' :: rest => readAs 16 rest
  | '0' :: 'o' :: rest => readAs 8 rest
  | '0' :: 'b' :: rest => readAs 2 rest
  | _ => none

/-- The point of a fraction with its digits. -/
def readFraction (cs : List Char) : List Char × List Char :=
  match cs with
  | '.' :: rest =>
    match readDigits? (isDigitOf 10) rest with
    | some (digits, rest) => ('.' :: digits, rest)
    | none => ([], cs)
  | _ => ([], cs)

/-- The letter of an exponent with its sign and digits. -/
def readPower (cs : List Char) : List Char × List Char :=
  match cs with
  | e :: rest =>
    let (sign, digits) :=
      match rest with
      | '+' :: more => (['+'], more)
      | '-' :: more => (['-'], more)
      | more => ([], more)
    match readDigits? (isDigitOf 10) digits with
    | some (run, rest) => if e == 'e' || e == 'E' then ('e' :: sign ++ run, rest) else ([], cs)
    | none => ([], cs)
  | [] => ([], [])

/-- The sign of a numeral; a plus sign is left out. -/
def readSign (cs : List Char) : List Char × List Char :=
  match cs with
  | '+' :: rest => ([], rest)
  | '-' :: rest => (['-'], rest)
  | rest => ([], rest)

/-- The digits in front of the point, without a zero in front of other digits. -/
def readWhole? (cs : List Char) : Option (List Char × List Char) :=
  match cs with
  | '0' :: rest => some (['0'], rest)
  | cs => readDigits? (isDigitOf 10) cs

/-- The number of a numeral with its parts. -/
def numeralValue (sign whole fraction power : List Char) : Except Flaw Value :=
  if fraction.isEmpty && power.isEmpty then
    match readInteger? (sign ++ whole) with
    | some n => .ok (.int n)
    | none => .error .digits
  else (expect (readFloat? (sign ++ whole ++ fraction ++ power))).map .float

def readDecimal? (cs : List Char) : Option (Except Flaw Value × List Char) := do
  let (sign, cs) := readSign cs
  let (whole, cs) ← readWhole? cs
  let (fraction, cs) := readFraction cs
  let (power, cs) := readPower cs
  return (numeralValue sign whole fraction power, cs)

/-- The name of a number with its sign. -/
def readNamed? (cs : List Char) : Option (Value × List Char) :=
  [("inf", Binary64.infinite false), ("nan", .nan), ("-inf", .infinite true),
    ("+inf", .infinite false), ("-nan", .nan), ("+nan", .nan)].findSome? fun (name, x) =>
      (dropWord? name cs).map (Value.float x, ·)

/-- Hours, minutes and seconds with a fraction. -/
def readClock? (cs : List Char) : Option (Clock × List Char) := do
  let (hour, cs) ← takeNumber? 2 cs
  let (minute, cs) ← takeNumber? 2 (← pass? ':' cs)
  let (second, cs) ← takeNumber? 2 (← pass? ':' cs)
  let (microsecond, cs) := (takeFraction? cs).getD (0, cs)
  let t : Clock := ⟨hour, minute, second, microsecond⟩
  if t.isValid then some (t, cs) else none

/-- Hour and minute. -/
def readMinutes? (cs : List Char) : Option (Clock × List Char) := do
  let (hour, cs) ← takeNumber? 2 cs
  let (minute, cs) ← takeNumber? 2 (← pass? ':' cs)
  let t : Clock := ⟨hour, minute, 0, 0⟩
  if t.isValid then some (t, cs) else none

def readShift (cs : List Char) : Option Offset × List Char :=
  match cs with
  | 'Z' :: rest => (some 0, rest)
  | 'z' :: rest => (some 0, rest)
  | sign :: rest =>
    match readMinutes? rest with
    | some (t, rest) =>
      if sign = '+' then (some t.toMicroseconds, rest)
      else if sign = '-' then (some (-(t.toMicroseconds : Int)), rest)
      else (none, cs)
    | none => (none, cs)
  | [] => (none, [])

/-- A date with an optional time of day, or a time of day. -/
def readMoment? (cs : List Char) : Option (Value × List Char) :=
  match takeDate? cs with
  | some (date, rest) =>
    match rest with
    | c :: more =>
      if c = 'T' ∨ c = 't' ∨ c = ' ' then
        match readClock? more with
        | some (clock, rest) =>
          let (offset, rest) := readShift rest
          some (.dateTime ⟨date, ⟨clock, offset⟩⟩, rest)
        | none => some (.date date, rest)
      else some (.date date, rest)
    | [] => some (.date date, rest)
  | none => (readClock? cs).map fun (clock, rest) => (.time ⟨clock, none⟩, rest)

/-- A value that is no array and no table. -/
def readScalar (cs : List Char) : Except Flaw (Toml × List Char) := do
  match readText? cs with
  | some (chars, rest) => return (.scalar (.text (String.ofList chars)), rest)
  | none =>
    match dropWord? "true" cs, dropWord? "false" cs with
    | some rest, _ => return (.scalar (.bool true), rest)
    | _, some rest => return (.scalar (.bool false), rest)
    | none, none =>
      match readMoment? cs <|> readMarked? cs with
      | some (v, rest) => return (.scalar v, rest)
      | none =>
        match readDecimal? cs with
        | some (v, rest) => return (.scalar (← v), rest)
        | none =>
          let (v, rest) ← expect (readNamed? cs)
          return (.scalar v, rest)

/-! ## Arrays and tables -/

mutual

/-- A value. The fuel exceeds twice the number of characters of the text. -/
def readValue (fuel : Nat) (cs : List Char) : Except Flaw (Toml × List Char) :=
  match fuel with
  | 0 => .error .form
  | fuel + 1 =>
    match cs with
    | '[' :: rest => do
      match ← expect (skipLines? fuel rest) with
      | ']' :: rest => return (.array [], rest)
      | rest =>
        let (items, rest) ← readItems fuel rest
        return (.array items, rest)
    | '\x7b' :: rest =>
      match skipGap rest with
      | '\x7d' :: rest => .ok (.table [], rest)
      | rest => do
        let (fields, rest) ← readPairs fuel [] .none rest
        return (.table fields, rest)
    | _ => readScalar cs

/-- The items of an array up to its closing bracket; a comma may follow the last one. -/
def readItems (fuel : Nat) (cs : List Char) : Except Flaw (List Toml × List Char) :=
  match fuel with
  | 0 => .error .form
  | fuel + 1 => do
    let (item, cs) ← readValue fuel cs
    match ← expect (skipLines? fuel cs) with
    | ']' :: rest => return ([item], rest)
    | ',' :: rest =>
      match ← expect (skipLines? fuel rest) with
      | ']' :: rest => return ([item], rest)
      | rest =>
        let (items, rest) ← readItems fuel rest
        return (item :: items, rest)
    | _ => .error .form

def readPair (fuel : Nat) (cs : List Char) : Except Flaw ((Path × Toml) × List Char) :=
  match fuel with
  | 0 => .error .form
  | fuel + 1 => do
    let (key, cs) ← expect (readKey? fuel cs)
    match cs with
    | '=' :: rest =>
      let (item, rest) ← readValue fuel (skipGap rest)
      return ((key, item), rest)
    | _ => .error .form

/-- The pairs of a table in braces, behind those of which the fields are made. -/
def readPairs (fuel : Nat) (fields : Fields) (marks : Marks) (cs : List Char) :
    Except Flaw (Fields × List Char) :=
  match fuel with
  | 0 => .error .form
  | fuel + 1 => do
    let ((key, item), cs) ← readPair fuel cs
    if marks.isClosed key then .error .form
    else
      let fields ← expect do
        within? false (insertNew? (← key.getLast?) item) key.dropLast fields
      match skipGap cs with
      | '\x7d' :: rest => return (fields, rest)
      | ',' :: rest =>
        let marks := if item.isNested then marks.addClosed key else marks
        readPairs fuel fields marks (skipGap rest)
      | _ => .error .form

end

/-! ## Documents -/

def readHeader (fuel : Nat) (d : Document) (cs : List Char) :
    Except Flaw (Document × List Char) :=
  match cs with
  | '[' :: '[' :: rest => do
    let (path, rest) ← expect (readKey? fuel (skipGap rest))
    let d ← expect (d.appendTable? path)
    match rest with
    | ']' :: ']' :: rest => return (d, rest)
    | _ => .error .form
  | '[' :: rest => do
    let (path, rest) ← expect (readKey? fuel (skipGap rest))
    let d ← expect (d.openTable? path)
    match rest with
    | ']' :: rest => return (d, rest)
    | _ => .error .form
  | _ => .error .form

/-- What stands on a line in front of its comment. -/
def readStatement (fuel : Nat) (d : Document) (cs : List Char) :
    Except Flaw (Document × List Char) :=
  match cs with
  | '[' :: _ => readHeader fuel d cs
  | c :: _ =>
    if isBare c || c == '"' || c == '\'' then do
      let ((key, item), rest) ← readPair fuel cs
      return (← expect (d.assign? key item), rest)
    else .ok (d, cs)
  | [] => .ok (d, [])

def readLines (fuel : Nat) (d : Document) (cs : List Char) : Except Flaw Fields :=
  match fuel with
  | 0 => .error .form
  | fuel + 1 => do
    let (d, cs) ← readStatement fuel d (skipGap cs)
    match ← expect (skipComment? (skipGap cs)) with
    | [] => return d.fields
    | '\n' :: rest => readLines fuel d rest
    | _ => .error .form

/-- A line may end in a carriage return and a line feed. -/
def plainLines : List Char → List Char
  | '\r' :: '\n' :: rest => '\n' :: plainLines rest
  | c :: rest => c :: plainLines rest
  | [] => []

def read (source : List Char) : Except Flaw Fields :=
  let cs := plainLines source
  readLines (2 * cs.length + 4) .start cs

end Polystore.Toml
