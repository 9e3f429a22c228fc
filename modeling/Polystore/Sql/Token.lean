import Polystore.Sql.Convention
import Polystore.Text.Blank

/-!
# Tokens of SQL

A text of SQL is cut into words, names and texts between marks, numbers and signs. Blanks stand
between tokens and are dropped.

* `Sql.Token`, `Sql.Token.isWord`;
* `Sql.readMarked?`: a name or a text up to its closing mark;
* `Sql.numberLength`: how far a number goes;
* `Sql.scan?`: the tokens of a text.
-/

namespace Polystore.Sql

open Text

/-- A token. -/
inductive Token
  /-- A word that stands alone: a keyword or a name. -/
  | word (cs : List Char)
  /-- A name between marks. -/
  | name (cs : List Char)
  | text (cs : List Char)
  | number (cs : List Char)
  | sign (cs : List Char)
deriving DecidableEq, Repr

/-- Whether a token is a word, in any case of letters. -/
def Token.isWord (word : String) : Token → Bool
  | .word cs => cs.map Char.toLower == word.toList
  | _ => false

def Token.isSign (sign : String) (t : Token) : Bool := t == .sign sign.toList

/-- What the escape by a backslash in front of a character stands for. -/
def unescaped (x : Char) : List Char :=
  match backslashCodes.find? (·.2 == x) with
  | some (code, _) => [code]
  | none => if ['0', 'Z', '%', '_'].contains x then ['\\', x] else [x]

/-- The characters up to a closing mark, and the rest behind it. A doubled mark stands for one. -/
def readMarked? (mark : Char) (backslash : Bool) : List Char → Option (List Char × List Char)
  | [] => none
  | '\\' :: x :: rest =>
    if backslash then
      (readMarked? mark backslash rest).map fun (cs, rest) => (unescaped x ++ cs, rest)
    else (readMarked? mark backslash (x :: rest)).map fun (cs, rest) => ('\\' :: cs, rest)
  | x :: rest =>
    if x = mark then
      match rest with
      | y :: more =>
        if y = mark then (readMarked? mark backslash more).map fun (cs, rest) => (mark :: cs, rest)
        else some ([], y :: more)
      | [] => some ([], [])
    else (readMarked? mark backslash rest).map fun (cs, rest) => (x :: cs, rest)
termination_by cs => cs.length

/-- The length of an exponent: `e`, perhaps a sign, and digits. -/
def exponentLength : List Char → Nat
  | e :: rest =>
    if e = 'e' ∨ e = 'E' then
      match rest with
      | s :: more =>
        let digits := (more.takeWhile Char.isDigit).length
        if s = '+' ∨ s = '-' then if digits = 0 then 0 else digits + 2
        else if s.isDigit then digits + 2
        else 0
      | [] => 0
    else 0
  | [] => 0

/-- The length of a number that begins with a digit: digits, perhaps a point with further digits,
and perhaps an exponent. -/
def numberLength (cs : List Char) : Nat :=
  let whole := (cs.takeWhile Char.isDigit).length
  let fraction :=
    match cs.drop whole with
    | '.' :: rest => (rest.takeWhile Char.isDigit).length + 1
    | _ => 0
  whole + fraction + exponentLength (cs.drop (whole + fraction))

/-- The characters of a word: those of names, and all that are not ASCII. -/
def isWordChar (x : Char) : Bool := isNameChar x || (127 < x.toNat && !isBlank x)

def longSigns : List (List Char) := ["<>", "!=", "<=", ">=", "==", "||", "&&"].map String.toList

/-- The first token of a text that does not begin with a blank, and the rest. A name or a text
without a closing mark is no token. -/
def token? (c : Convention) : List Char → Option (Token × List Char)
  | [] => none
  | x :: rest =>
    match c.nameMarks.lookup x with
    | some close => (readMarked? close false rest).map fun (cs, rest) => (.name cs, rest)
    | none =>
      if c.textMarks.contains x then
        (readMarked? x c.backslash rest).map fun (cs, rest) => (.text cs, rest)
      else
        let run := (x :: rest).takeWhile isWordChar
        let number := numberLength (x :: rest)
        if x.isDigit && !(c.digitFirst && number < run.length) then
          some (.number ((x :: rest).take number), (x :: rest).drop number)
        else if isWordChar x then some (.word run, (x :: rest).drop run.length)
        else if longSigns.contains ((x :: rest).take 2) then
          some (.sign ((x :: rest).take 2), rest.drop 1)
        else some (.sign [x], rest)

/-- The tokens of a text, unless a mark is not closed. -/
def scan? (c : Convention) (cs : List Char) : Option (List Token) :=
  let text := trimLeft cs
  if text.isEmpty then some []
  else
    match token? c text with
    | none => none
    | some (t, rest) =>
      if rest.length < cs.length then (scan? c rest).map (t :: ·) else none
termination_by cs.length

end Polystore.Sql
