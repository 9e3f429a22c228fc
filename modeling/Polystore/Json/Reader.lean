import Polystore.Number.FloatText
import Polystore.Text.Hex
import Polystore.Text.Pieces

/-!
# Reading JSON

A text is read from left to right by a cursor that knows how many characters lie behind it. What
the values become is up to a *builder*, which may refuse a number or an object as soon as it is
complete; so of two flaws of a text the earlier one is reported.

* `Json.Flaw`, `Json.Misplaced`: what is wrong with a text, and where;
* `Json.Cursor`, `Json.Builder`;
* `Json.readString`, `Json.scanNumber?`, `Json.readValue`: the parts of a text;
* `Json.read`: a whole text.

The names `NaN`, `Infinity` and `-Infinity` are read as numbers. No text holds surrogates, so an
escape of a surrogate that stands alone, the first or the second of a pair, is read as the
replacement character `U+FFFD` (`Json.unitChar`). Brackets are followed as deep as a text has them;
the stack of a run is no part of the model.
-/

namespace Polystore.Json

open Number Text

/-- What is wrong with a text. -/
inductive Flaw
  | byteOrderMark
  | value
  | name
  | colon
  | comma
  | unterminated
  | control
  | escape
  | unicodeEscape
  | extra
deriving DecidableEq, Repr

def Flaw.words : Flaw → String
  | .byteOrderMark => "Unexpected UTF-8 BOM (decode using utf-8-sig)"
  | .value => "Expecting value"
  | .name => "Expecting property name enclosed in double quotes"
  | .colon => "Expecting ':' delimiter"
  | .comma => "Expecting ',' delimiter"
  | .unterminated => "Unterminated string starting at"
  | .control => "Invalid control character at"
  | .escape => "Invalid \\escape"
  | .unicodeEscape => "Invalid \\uXXXX escape"
  | .extra => "Extra data"

/-- A flaw behind a number of characters. -/
structure Misplaced where
  flaw : Flaw
  place : Nat
deriving DecidableEq, Repr

/-- The text that reports a flaw of a source, with its line and column. -/
def Misplaced.message (source : List Char) (e : Misplaced) : String :=
  let front := source.take e.place
  let line := front.count '\n' + 1
  let column := (front.reverse.takeWhile (· != '\n')).length + 1
  e.flaw.words ++ ": line " ++ toString line ++ " column " ++ toString column ++ " (char "
    ++ toString e.place ++ ")"

/-- The rest of a text, and the number of characters behind. -/
structure Cursor where
  place : Nat
  rest : List Char

/-- The blanks between the parts of a text. -/
def isGap (c : Char) : Bool := c == ' ' || c == '\t' || c == '\n' || c == '\r'

def Cursor.skip (c : Cursor) : Cursor :=
  let gap := c.rest.takeWhile isGap
  ⟨c.place + gap.length, c.rest.drop gap.length⟩

/-- What becomes of the values of a text. -/
structure Builder (ε α : Type) where
  null : α
  bool : Bool → α
  /-- The number of a lexeme; it is a float if it has a fraction, an exponent or a name. -/
  number : (isFloat : Bool) → (lexeme : List Char) → Except ε α
  text : String → α
  list : List α → α
  object : List (String × α) → Except ε α

/-- Why a text is not read: a flaw of its form, or a value that the builder refuses. -/
inductive Refusal (ε : Type)
  | misplaced (e : Misplaced)
  | refused (e : ε)
deriving Repr

/-! ## Strings -/

/-- The code of an escape behind the backslash, except the one by code point. -/
def escaped? : Char → Option Char
  | '"' => some '"'
  | '\\' => some '\\'
  | '/' => some '/'
  | 'b' => some '\x08'
  | 'f' => some '\x0c'
  | 'n' => some '\n'
  | 'r' => some '\r'
  | 't' => some '\t'
  | _ => none

def unit? : List Char → Option (Nat × List Char)
  | a :: b :: c :: d :: rest => (readHex? [a, b, c, d]).map (·, rest)
  | _ => none

/-- The character of a code unit that stands alone; a surrogate has none. -/
def unitChar (n : Nat) : Char := if 0xD800 ≤ n ∧ n < 0xE000 then '\ufffd' else Char.ofNat n

/-- The character of a surrogate pair. -/
def pairChar (high low : Nat) : Char :=
  Char.ofNat (0x10000 + (high - 0xD800) * 0x400 + (low - 0xDC00))

/-- What an escape by code point stands for: one character, how many characters of the text it
takes behind the `u`, or the place of a bad one, counted likewise. A further character has to
follow. -/
def unicodeEscape (rest : List Char) : Except Nat (Char × Nat) :=
  match unit? rest with
  | none => .error 0
  | some (_, []) => .error 0
  | some (high, '\\' :: 'u' :: more) =>
    if 0xD800 ≤ high ∧ high < 0xDC00 ∧ 4 < more.length then
      match unit? more with
      | none => .error 6
      | some (low, _) =>
        if 0xDC00 ≤ low ∧ low < 0xE000 then .ok (pairChar high low, 10) else .ok (unitChar high, 4)
    else .ok (unitChar high, 4)
  | some (high, _) => .ok (unitChar high, 4)

/-- The characters of a string up to its closing quote; `opened` is the place of the opening one. -/
def readString (opened : Nat) (c : Cursor) (acc : List Char) :
    Except Misplaced (String × Cursor) :=
  match c with
  | ⟨_, []⟩ => .error ⟨.unterminated, opened⟩
  | ⟨place, '"' :: rest⟩ => .ok (String.ofList acc.reverse, ⟨place + 1, rest⟩)
  | ⟨_, ['\\']⟩ => .error ⟨.unterminated, opened⟩
  | ⟨place, '\\' :: 'u' :: rest⟩ =>
    match unicodeEscape rest with
    | .error offset => .error ⟨.unicodeEscape, place + 1 + offset⟩
    | .ok (ch, count) => readString opened ⟨place + 2 + count, rest.drop count⟩ (ch :: acc)
  | ⟨place, '\\' :: e :: rest⟩ =>
    match escaped? e with
    | none => .error ⟨.escape, place⟩
    | some ch => readString opened ⟨place + 2, rest⟩ (ch :: acc)
  | ⟨place, ch :: rest⟩ =>
    if ch.toNat < 32 then .error ⟨.control, place⟩
    else readString opened ⟨place + 1, rest⟩ (ch :: acc)
termination_by c.rest.length
decreasing_by all_goals simp_wf <;> omega

/-! ## Numbers and names -/

/-- Whether a character is one of `0` to `9`. -/
def isDigit (c : Char) : Bool := (asciiDigit? c).isSome

/-- The digits before the point: a single zero, or digits that begin with none. -/
def scanWhole? : List Char → Option (List Char × List Char)
  | '0' :: rest => some (['0'], rest)
  | cs =>
    let digits := cs.takeWhile isDigit
    if digits.isEmpty then none else some (digits, cs.dropWhile isDigit)

/-- The point and the digits behind it, if there are any. -/
def scanFraction : List Char → List Char × List Char
  | '.' :: rest =>
    let digits := rest.takeWhile isDigit
    if digits.isEmpty then ([], '.' :: rest) else ('.' :: digits, rest.dropWhile isDigit)
  | cs => ([], cs)

/-- The letter, sign and digits of an exponent, if they are complete. -/
def scanExponent : List Char → List Char × List Char
  | e :: rest =>
    let (sign, digits) :=
      match rest with
      | '+' :: more => (['+'], more)
      | '-' :: more => (['-'], more)
      | more => ([], more)
    let run := digits.takeWhile isDigit
    if (e == 'e' || e == 'E') && !run.isEmpty then (e :: sign ++ run, digits.dropWhile isDigit)
    else ([], e :: rest)
  | [] => ([], [])

/-- The lexeme of a number and whether it is a float, and the rest. -/
def scanNumber? (cs : List Char) : Option ((Bool × List Char) × List Char) := do
  let (sign, cs) := match cs with
    | '-' :: rest => (['-'], rest)
    | cs => ([], cs)
  let (whole, cs) ← scanWhole? cs
  let (fraction, cs) := scanFraction cs
  let (exponent, cs) := scanExponent cs
  return ((!(fraction.isEmpty && exponent.isEmpty), sign ++ whole ++ fraction ++ exponent), cs)

/-- The names of numbers, with the texts that they are read as. -/
def namedNumbers : List String := ["NaN", "Infinity", "-Infinity"]

section Reading

variable {ε α : Type} (b : Builder ε α)

/-- A value that is no string, list or object. -/
def readScalar (c : Cursor) : Except (Refusal ε) (α × Cursor) :=
  match dropWord? "null" c.rest, dropWord? "true" c.rest, dropWord? "false" c.rest with
  | some rest, _, _ => .ok (b.null, ⟨c.place + 4, rest⟩)
  | _, some rest, _ => .ok (b.bool true, ⟨c.place + 4, rest⟩)
  | _, _, some rest => .ok (b.bool false, ⟨c.place + 5, rest⟩)
  | _, _, _ =>
    match namedNumbers.findSome? fun name => (dropWord? name c.rest).map (name, ·) with
    | some (name, rest) => do
      let v ← (b.number true name.toList).mapError .refused
      return (v, ⟨c.place + name.length, rest⟩)
    | none =>
      match scanNumber? c.rest with
      | some ((isFloat, lexeme), rest) => do
        let v ← (b.number isFloat lexeme).mapError .refused
        return (v, ⟨c.place + lexeme.length, rest⟩)
      | none => .error (.misplaced ⟨.value, c.place⟩)

mutual

/-- A value. The fuel exceeds twice the number of characters of the text. -/
def readValue (fuel : Nat) (c : Cursor) : Except (Refusal ε) (α × Cursor) :=
  match fuel with
  | 0 => .error (.misplaced ⟨.value, c.place⟩)
  | fuel + 1 =>
    match c.rest with
    | '"' :: rest => do
      let (s, c) ← (readString c.place ⟨c.place + 1, rest⟩ []).mapError .misplaced
      return (b.text s, c)
    | '[' :: rest =>
      let c := Cursor.skip ⟨c.place + 1, rest⟩
      match c.rest with
      | ']' :: rest => .ok (b.list [], ⟨c.place + 1, rest⟩)
      | _ => do
        let (items, c) ← readItems fuel c
        return (b.list items, c)
    | '\x7b' :: rest =>
      let c := Cursor.skip ⟨c.place + 1, rest⟩
      do
        let (members, c) ← match c.rest with
          | '\x7d' :: rest => .ok ([], ⟨c.place + 1, rest⟩)
          | _ => readMembers fuel c
        let v ← (b.object members).mapError .refused
        return (v, c)
    | _ => readScalar b c

/-- The items of a list up to its closing bracket. -/
def readItems (fuel : Nat) (c : Cursor) : Except (Refusal ε) (List α × Cursor) :=
  match fuel with
  | 0 => .error (.misplaced ⟨.value, c.place⟩)
  | fuel + 1 => do
    let (v, c) ← readValue fuel c
    let c := c.skip
    match c.rest with
    | ']' :: rest => return ([v], ⟨c.place + 1, rest⟩)
    | ',' :: rest =>
      let (vs, c) ← readItems fuel (Cursor.skip ⟨c.place + 1, rest⟩)
      return (v :: vs, c)
    | _ => .error (.misplaced ⟨.comma, c.place⟩)

/-- The members of an object up to its closing brace. -/
def readMembers (fuel : Nat) (c : Cursor) :
    Except (Refusal ε) (List (String × α) × Cursor) :=
  match fuel with
  | 0 => .error (.misplaced ⟨.value, c.place⟩)
  | fuel + 1 =>
    match c.rest with
    | '"' :: rest => do
      let (name, c) ← (readString c.place ⟨c.place + 1, rest⟩ []).mapError .misplaced
      let c := c.skip
      match c.rest with
      | ':' :: rest =>
        let (v, c) ← readValue fuel (Cursor.skip ⟨c.place + 1, rest⟩)
        let c := c.skip
        match c.rest with
        | '\x7d' :: rest => return ([(name, v)], ⟨c.place + 1, rest⟩)
        | ',' :: rest =>
          let (members, c) ← readMembers fuel (Cursor.skip ⟨c.place + 1, rest⟩)
          return ((name, v) :: members, c)
        | _ => .error (.misplaced ⟨.comma, c.place⟩)
      | _ => .error (.misplaced ⟨.colon, c.place⟩)
    | _ => .error (.misplaced ⟨.name, c.place⟩)

end

/-- The value of a whole text, which may have blanks around it. -/
def read (source : List Char) : Except (Refusal ε) α :=
  match source with
  | '\ufeff' :: _ => .error (.misplaced ⟨.byteOrderMark, 0⟩)
  | _ => do
    let (v, c) ← readValue b (2 * source.length + 2) (Cursor.skip ⟨0, source⟩)
    let c := c.skip
    if c.rest.isEmpty then return v else .error (.misplaced ⟨.extra, c.place⟩)

end Reading

end Polystore.Json
