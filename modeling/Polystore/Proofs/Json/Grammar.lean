import Polystore.Json.Reader
import Polystore.OrderedMap

/-!
# The grammar of JSON

What a text says is a tree. The grammar tells which texts spell a tree, without a reader: gaps may
stand around every bracket, comma and colon, and a string may spell a character in several ways.
The names of numbers that are no JSON are not part of it, and the strict reader refuses them.

* `Json.Tree`: what a text says;
* `Json.IsMagnitude`, `Json.IsNumber`: the lexemes of numbers;
* `Json.SpellsChar`, `Json.SpellsString`: strings;
* **`Json.Spells`**: the texts of a tree;
* `Json.strict`: the builder of trees.
-/

namespace Polystore.Json

open Number Text

/-- What a text says. A number with a fraction or an exponent is known by its lexeme. -/
inductive Tree
  | null
  | bool (b : Bool)
  | int (n : Int)
  | float (lexeme : String)
  | text (s : String)
  | list (items : List Tree)
  | object (members : List (String × Tree))

/-- Blanks between the parts of a text. -/
def IsGap (cs : List Char) : Prop := ∀ c ∈ cs, isGap c = true

theorem isGap_nil : IsGap [] := fun _ hc => absurd hc List.not_mem_nil

/-! ## Numbers -/

/-- At least one digit. -/
def AreDigits (cs : List Char) : Prop := cs ≠ [] ∧ ∀ c ∈ cs, isDigit c = true

/-- The digits before the point; the first is no zero, unless it stands alone. -/
def IsWhole (cs : List Char) : Prop := AreDigits cs ∧ (cs.head? = some '0' → cs = ['0'])

/-- The point and the digits behind it, if there are any. -/
inductive IsFraction : List Char → Prop
  | absent : IsFraction []
  | digits {ds : List Char} (h : AreDigits ds) : IsFraction ('.' :: ds)

/-- The letter, sign and digits of an exponent, if there is one. -/
inductive IsExponent : List Char → Prop
  | absent : IsExponent []
  | digits {e : Char} {sign ds : List Char} (he : e = 'e' ∨ e = 'E')
      (hsign : sign = [] ∨ sign = ['+'] ∨ sign = ['-']) (h : AreDigits ds) :
      IsExponent (e :: (sign ++ ds))

/-- Numbers without a sign. A number is a float if it has a fraction or an exponent. -/
inductive IsMagnitude : Bool → List Char → Prop
  | mk {whole fraction exponent : List Char} (hwhole : IsWhole whole)
      (hfraction : IsFraction fraction) (hexponent : IsExponent exponent) :
      IsMagnitude (!(fraction.isEmpty && exponent.isEmpty)) (whole ++ fraction ++ exponent)

/-- The lexemes of numbers. -/
inductive IsNumber : Bool → List Char → Prop
  | unsigned {isFloat : Bool} {ds : List Char} (h : IsMagnitude isFloat ds) : IsNumber isFloat ds
  | negative {isFloat : Bool} {ds : List Char} (h : IsMagnitude isFloat ds) :
      IsNumber isFloat ('-' :: ds)

/-- The integer of a lexeme. -/
def lexemeInt : List Char → Int
  | '-' :: ds => -(Nat.ofDigitChars 10 ds 0 : Int)
  | ds => Nat.ofDigitChars 10 ds 0

/-- The number of a lexeme. -/
def Tree.ofLexeme (isFloat : Bool) (lexeme : List Char) : Tree :=
  if isFloat then .float (String.ofList lexeme) else .int (lexemeInt lexeme)

/-! ## Strings -/

/-- The letters behind a backslash, with the characters that they stand for. -/
def shortEscapes : List (Char × Char) :=
  [('"', '"'), ('\\', '\\'), ('/', '/'), ('b', '\x08'), ('f', '\x0c'), ('n', '\n'), ('r', '\r'),
    ('t', '\t')]

/-- Four hexadecimal digits of a number. -/
def IsUnit (n : Nat) (hex : List Char) : Prop := hex.length = 4 ∧ readHex? hex = some n

/-- How a character may stand in a string: as it is, behind a backslash, by its code point, or by
the two halves of a surrogate pair. -/
inductive SpellsChar : Char → List Char → Prop
  | plain {c : Char} (hcontrol : 32 ≤ c.toNat) (hquote : c ≠ '"') (hslash : c ≠ '\\') :
      SpellsChar c [c]
  | short {c e : Char} (h : (e, c) ∈ shortEscapes) : SpellsChar c ['\\', e]
  | unit {c : Char} {hex : List Char} (h : IsUnit c.toNat hex) :
      SpellsChar c ('\\' :: 'u' :: hex)
  | pair {c : Char} {high low : Nat} {hex hex' : List Char} (hhigh : 0xD800 ≤ high ∧ high < 0xDC00)
      (hlow : 0xDC00 ≤ low ∧ low < 0xE000)
      (hc : c.toNat = 0x10000 + (high - 0xD800) * 0x400 + (low - 0xDC00))
      (h : IsUnit high hex) (h' : IsUnit low hex') :
      SpellsChar c ('\\' :: 'u' :: (hex ++ '\\' :: 'u' :: hex'))

/-- What stands between the quotes of a string. -/
inductive SpellsChars : List Char → List Char → Prop
  | nil : SpellsChars [] []
  | cons {c : Char} {cs text rest : List Char} (h : SpellsChar c text)
      (hrest : SpellsChars cs rest) : SpellsChars (c :: cs) (text ++ rest)

/-- The texts of a string, with the quotes. -/
inductive SpellsString : String → List Char → Prop
  | mk {s : String} {text : List Char} (h : SpellsChars s.toList text) :
      SpellsString s ('"' :: (text ++ ['"']))

/-! ## Trees -/

mutual

/-- The texts of a tree. -/
inductive Spells : Tree → List Char → Prop
  | null : Spells .null "null".toList
  | false : Spells (.bool false) "false".toList
  | true : Spells (.bool true) "true".toList
  | number {isFloat : Bool} {lexeme : List Char} (h : IsNumber isFloat lexeme) :
      Spells (.ofLexeme isFloat lexeme) lexeme
  | text {s : String} {cs : List Char} (h : SpellsString s cs) : Spells (.text s) cs
  | noItems {gap : List Char} (hgap : IsGap gap) : Spells (.list []) ('[' :: (gap ++ [']']))
  | list {items : List Tree} {gap cs : List Char} (hgap : IsGap gap) (h : SpellsItems items cs) :
      Spells (.list items) ('[' :: (gap ++ cs ++ [']']))
  | noMembers {gap : List Char} (hgap : IsGap gap) :
      Spells (.object []) ('\x7b' :: (gap ++ ['\x7d']))
  | object {members : List (String × Tree)} {gap cs : List Char} (hgap : IsGap gap)
      (h : SpellsMembers members cs) :
      Spells (.object (OrderedMap.ofList members)) ('\x7b' :: (gap ++ cs ++ ['\x7d']))

/-- The texts of one or more items, without the brackets. -/
inductive SpellsItems : List Tree → List Char → Prop
  | last {t : Tree} {cs gap : List Char} (h : Spells t cs) (hgap : IsGap gap) :
      SpellsItems [t] (cs ++ gap)
  | more {t : Tree} {items : List Tree} {cs gap gap' rest : List Char} (h : Spells t cs)
      (hgap : IsGap gap) (hgap' : IsGap gap') (hrest : SpellsItems items rest) :
      SpellsItems (t :: items) (cs ++ gap ++ ',' :: (gap' ++ rest))

/-- The texts of one or more members, without the braces. -/
inductive SpellsMembers : List (String × Tree) → List Char → Prop
  | last {name : String} {t : Tree} {quoted before after cs gap : List Char}
      (hname : SpellsString name quoted) (hbefore : IsGap before) (hafter : IsGap after)
      (h : Spells t cs) (hgap : IsGap gap) :
      SpellsMembers [(name, t)] (quoted ++ before ++ ':' :: (after ++ cs ++ gap))
  | more {name : String} {t : Tree} {members : List (String × Tree)}
      {quoted before after cs gap gap' rest : List Char} (hname : SpellsString name quoted)
      (hbefore : IsGap before) (hafter : IsGap after) (h : Spells t cs) (hgap : IsGap gap)
      (hgap' : IsGap gap') (hrest : SpellsMembers members rest) :
      SpellsMembers ((name, t) :: members)
        (quoted ++ before ++ ':' :: (after ++ cs ++ gap ++ ',' :: (gap' ++ rest)))

end

/-- The builder of trees. Names of numbers are refused, and of members with one name the last one
counts, at the place of the first. -/
def strict : Builder String Tree where
  null := .null
  bool := .bool
  number isFloat lexeme :=
    if String.ofList lexeme ∈ namedNumbers then .error (String.ofList lexeme)
    else .ok (.ofLexeme isFloat lexeme)
  text := .text
  list := .list
  object members := .ok (.object (OrderedMap.ofList members))

end Polystore.Json
