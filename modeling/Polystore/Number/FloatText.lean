import Polystore.Number.Binary64
import Polystore.Number.Integer

/-!
# Reading floating-point numbers

The text of a float is an optional sign and either a decimal with an optional exponent or the
name of an infinity or of the undefined number, in any case of letters.

* `Scientific`: a decimal as sign, coefficient and exponent, and `readScientific?`;
* `readFloat?`: the float of a text in ASCII characters without blanks;
* `readLooseFloat?`: spaces around the text, single underscores between digits and digits of any
  script are allowed too.
-/

namespace Polystore.Number

open Polystore.Text

/-- An exact decimal: the coefficient times a power of ten, with a sign. -/
structure Scientific where
  negative : Bool
  coefficient : Nat
  exponent : Int

def splitSign : List Char → Bool × List Char
  | '-' :: cs => (true, cs)
  | '+' :: cs => (false, cs)
  | cs => (false, cs)

/-- Split the ASCII digits in front off, as values. -/
def splitDigits (cs : List Char) : List Nat × List Char :=
  let isDigit := fun c => (asciiDigit? c).isSome
  ((cs.takeWhile isDigit).filterMap asciiDigit?, cs.dropWhile isDigit)

/-- The exponent behind a decimal: nothing, or a letter `e` with a signed run of digits. -/
def readExponent? : List Char → Option Int
  | [] => some 0
  | c :: cs =>
    if c == 'e' || c == 'E' then
      let (negative, cs) := splitSign cs
      match splitDigits cs with
      | ([], _) => none
      | (ds, []) => some (if negative then -(ofDigits ds : Int) else ofDigits ds)
      | (_, _ :: _) => none
    else none

/-- A decimal with an optional sign, point and exponent; a digit is needed before or behind the
point. -/
def readScientific? (cs : List Char) : Option Scientific := do
  let (negative, cs) := splitSign cs
  let (whole, cs) := splitDigits cs
  let (fraction, cs) :=
    match cs with
    | '.' :: more => splitDigits more
    | _ => ([], cs)
  if whole.isEmpty && fraction.isEmpty then none
  else
    let exponent ← readExponent? cs
    return ⟨negative, ofDigits (whole ++ fraction), exponent - fraction.length⟩

/-- The float of a text without blanks. -/
def readFloat? (cs : List Char) : Option Binary64 :=
  match readScientific? cs with
  | some d => some (.ofScientific d.negative d.coefficient d.exponent)
  | none =>
    let (negative, name) := splitSign cs
    let name := String.ofList (name.map Char.toLower)
    if name = "inf" ∨ name = "infinity" then some (.infinite negative)
    else if name = "nan" then some .nan
    else none

/-- Take out the underscores of a text, if each of them stands between two ASCII digits. -/
def dropUnderscores? : (before : Option Char) → List Char → Option (List Char)
  | _, [] => some []
  | before, '_' :: rest =>
    let isDigit := fun c : Char => (asciiDigit? c).isSome
    if before.any isDigit && rest.head?.any isDigit then dropUnderscores? (some '_') rest else none
  | _, c :: rest => (dropUnderscores? (some c) rest).map (c :: ·)

/-- A digit of any script as an ASCII digit. -/
def plainDigit (c : Char) : Char :=
  match digit? c with
  | some d => digitChar d
  | none => c

/-- The float of a text with spaces around it, underscores between its digits, and digits of any
script. -/
def readLooseFloat? (cs : List Char) : Option Binary64 := do
  readFloat? (← dropUnderscores? none ((trimSpace cs).map plainDigit))

end Polystore.Number
