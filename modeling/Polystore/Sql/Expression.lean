import Polystore.Sql.Token

/-!
# Expressions of SQL

An expression is read from tokens by the power of its operators: a stronger operator takes its
operands first, and operators of one power group to the left. From weak to strong these are `OR`,
`AND`, equality, order, the ranges (`IN`, `BETWEEN`, `LIKE`, `IS`), bits and concatenation, sums,
products, and the minus in front.

* `Sql.Expression`;
* `Sql.Reader`, with `takeWord`, `takeSign`, `needWord`, `needSign`: reading from tokens;
* `Sql.name`, `Sql.path`, `Sql.otherName?`: names, names with dots between them, and other names;
* `Sql.joint?`: the operators between operands;
* `Sql.expression`, `Sql.expressions`.
-/

namespace Polystore.Sql

/-- An expression. -/
inductive Expression
  | number (cs : List Char)
  | text (cs : List Char)
  /-- A literal that is a word or a sign: a constant, a star or a place for a parameter. -/
  | literal (word : String)
  | path (names : List Name)
  /-- All columns of a table. -/
  | every (table : List Name)
  | call (function : List Char) (distinct : Bool) (arguments : List Expression)
  /-- An expression in parentheses. -/
  | group (e : Expression)
  | minus (e : Expression)
  | negation (e : Expression)
  | binary (sign : String) (left right : Expression)
  /-- Two conditions with `AND` or `OR` between them. -/
  | logic (word : String) (left right : Expression)
  | member (e : Expression) (items : List Expression)
  | between (e low high : Expression)
deriving Repr

/-! ## Reading from tokens -/

/-- A reader takes tokens from the front, or fails. -/
abbrev Reader (α : Type) : Type := StateT (List Token) Option α

/-- The next token, which stays where it is. -/
def peek? : Reader (Option Token) := fun ts => some (ts.head?, ts)

def next : Reader Token
  | t :: rest => some (t, rest)
  | [] => none

/-- Take the next token if it is of some kind, and say whether it is. -/
def takeIf (p : Token → Bool) : Reader Bool
  | t :: rest => if p t then some (true, rest) else some (false, t :: rest)
  | [] => some (false, [])

/-- Take a word if it comes next, and say whether it does. -/
def takeWord (word : String) : Reader Bool := takeIf (·.isWord word)

/-- Take a sign if it comes next, and say whether it does. -/
def takeSign (sign : String) : Reader Bool := takeIf (·.isSign sign)

/-- The tokens behind words that follow each other. -/
def dropWords? : List String → List Token → Option (List Token)
  | [], ts => some ts
  | word :: words, t :: ts => if t.isWord word then dropWords? words ts else none
  | _ :: _, [] => none

/-- Take words that follow each other if they come next, and say whether they do. -/
def takeWords (words : List String) : Reader Bool := fun ts =>
  match dropWords? words ts with
  | some rest => some (true, rest)
  | none => some (false, ts)

/-- Take a word, which has to come next. -/
def needWord (word : String) : Reader Unit := do guard (← takeWord word)

/-- Take a sign, which has to come next. -/
def needSign (sign : String) : Reader Unit := do guard (← takeSign sign)

/-! ## Names -/

def keywords : List String := [
  "select", "from", "where", "and", "or", "not", "in", "on", "as", "join", "inner", "outer",
  "cross", "having", "insert", "into", "values", "create", "drop", "alter", "union", "except",
  "intersect", "distinct", "between", "like", "ilike", "glob", "with", "using", "then", "else",
  "when", "for", "fetch", "grant", "returning", "qualify"]

/-- The words that stand behind an expression or a table without being a name for it. -/
def clauseWords : List String :=
  ["limit", "offset", "left", "right", "full", "natural", "set", "asc", "desc", "is"]

/-- The pairs of words that begin a clause. -/
def clausePairs : List (List String) := [["group", "by"], ["order", "by"]]

/-- The name that a token is, unless it is one of some words. -/
def Token.asName? (excluded : List String) : Token → Option Name
  | .word cs => if excluded.any (Token.isWord · (.word cs)) then none else some ⟨cs, false⟩
  | .name cs => some ⟨cs, true⟩
  | _ => none

/-- A name that is not one of some words. -/
def name (excluded : List String) : Reader Name := do (← next).asName? excluded

/-- The names behind a name, each behind a dot. -/
def dotted : List Token → List Name × List Token
  | .sign ['.'] :: t :: rest =>
    match t.asName? [] with
    | some n =>
      let (names, more) := dotted rest
      (n :: names, more)
    | none => ([], .sign ['.'] :: t :: rest)
  | ts => ([], ts)

def path : Reader (List Name) := do
  let first ← name keywords
  let more ← fun ts => some (dotted ts)
  return first :: more

/-- Another name for what stands in front: behind `AS`, or just behind. -/
def otherName? : Reader (Option Name) := do
  if ← takeWord "as" then
    match ← next with
    | .text cs => return some ⟨cs, true⟩
    | t => return some (← t.asName? ["select"])
  else
    let ts ← get
    if clausePairs.any fun words => (dropWords? words ts).isSome then return none
    else
      match ts.head?.bind (·.asName? (keywords ++ clauseWords)) with
      | some n =>
        set ts.tail
        return some n
      | none => return none

/-! ## Operators -/

/-- What stands between two operands. -/
inductive Joint
  | logic (word : String)
  | binary (sign : String)
  | member
  | between
  | is
deriving DecidableEq, Repr

/-- The signs of operators, with their power and how they are written. -/
def signJoints : List (String × Nat × String) := [
  ("=", 3, "="), ("==", 3, "="), ("<>", 3, "<>"), ("!=", 3, "<>"), ("<", 4, "<"), ("<=", 4, "<="),
  (">", 4, ">"), (">=", 4, ">="), ("&", 6, "&"), ("|", 6, "|"), ("^", 6, "^"), ("||", 6, "||"),
  ("+", 7, "+"), ("-", 7, "-"), ("*", 8, "*"), ("/", 8, "/"), ("%", 8, "%")]

/-- The words of operators, with their power. -/
def wordJoints : List (String × Nat × Joint) := [
  ("or", 1, .logic "OR"), ("and", 2, .logic "AND"), ("in", 5, .member), ("between", 5, .between),
  ("like", 5, .binary "LIKE"), ("ilike", 5, .binary "ILIKE"), ("glob", 5, .binary "GLOB"),
  ("is", 5, .is)]

/-- The power of the weakest operators. -/
def anyPower : Nat := 1

/-- The power of equalities, and of the operand of `NOT`. -/
def equalityPower : Nat := 3

/-- The power of the operators that `NOT` may stand in front of. -/
def rangePower : Nat := 5

/-- The operator that a token is, with its power. -/
def joint? (c : Convention) : Token → Option (Nat × Joint)
  | .word cs => wordJoints.lookup (String.ofList (cs.map Char.toLower))
  | .sign cs =>
    if c.logicSigns && cs == ['|', '|'] then some (1, .logic "OR")
    else if c.logicSigns && cs == ['&', '&'] then some (2, .logic "AND")
    else (signJoints.lookup (String.ofList cs)).map fun (power, sign) => (power, .binary sign)
  | _ => none

def constants : List (String × String) := [("null", "NULL"), ("true", "TRUE"), ("false", "FALSE")]

/-- The signs that an operand may begin with. -/
def operandSigns : List String := ["(", "*", "-", "+", "?", "."]

/-- Whether an expression may begin with a token. -/
def Token.startsExpression (t : Token) : Bool :=
  match t with
  | .word _ => t.isWord "not" || !keywords.any (t.isWord ·)
  | .sign _ => operandSigns.any (t.isSign ·)
  | _ => true

/-! ## Reading expressions -/

mutual

/-- An operand: a literal, a path, a call, a group, or an operand behind a sign. -/
def operandIn (c : Convention) (fuel : Nat) : Reader Expression :=
  match fuel with
  | 0 => failure
  | fuel + 1 => do
    match ← next with
    | .number cs => return .number cs
    | .text cs => return .text cs
    | .sign ['*'] => return .literal "*"
    | .sign ['?'] => return .literal "?"
    | .sign ['+'] => operandIn c fuel
    | .sign ['-'] => return .minus (← operandIn c fuel)
    | .sign ['.'] =>
      match ← next with
      | .number cs => return .number ('0' :: '.' :: cs)
      | _ => failure
    | .sign ['('] => do
      let e ← operationIn c fuel anyPower
      needSign ")"
      return .group e
    | t =>
      if t.isWord "not" then return .negation (← operationIn c fuel equalityPower)
      else
        match constants.find? (t.isWord ·.1) with
        | some (_, shown) => return .literal shown
        | none => namedIn c fuel t

/-- A call or a path that begins with a token. -/
def namedIn (c : Convention) (fuel : Nat) (t : Token) : Reader Expression :=
  match fuel with
  | 0 => failure
  | fuel + 1 => do
    let first ← t.asName? keywords
    if ← (if first.marked then pure false else takeSign "(") then
      let distinct ← takeWord "distinct"
      let arguments ← operationsIn c fuel anyPower
      needSign ")"
      return .call first.chars distinct arguments
    else
      let more ← fun ts => some (dotted ts)
      match ← get with
      | .sign ['.'] :: .sign ['*'] :: rest =>
        set rest
        return .every (first :: more)
      | _ => return .path (first :: more)

/-- An expression whose operators have at least a power. -/
def operationIn (c : Convention) (fuel power : Nat) : Reader Expression :=
  match fuel with
  | 0 => failure
  | fuel + 1 => do
    let left ← operandIn c fuel
    furtherIn c fuel power left

/-- The expression that begins with a left operand. -/
def furtherIn (c : Convention) (fuel power : Nat) (left : Expression) : Reader Expression :=
  match fuel with
  | 0 => failure
  | fuel + 1 => do
    let negated ← if power ≤ rangePower then takeWord "not" else pure false
    match (← peek?).bind (joint? c) with
    | some (strength, joint) =>
      if negated && (strength != rangePower || joint == .is) then failure
      else if strength < power then return left
      else
        let _ ← next
        let e ← joinedIn c fuel strength joint left
        furtherIn c fuel power (if negated then .negation e else e)
    | none => if negated then failure else return left

/-- What belongs to a left operand and an operator behind it. -/
def joinedIn (c : Convention) (fuel strength : Nat) (joint : Joint) (left : Expression) :
    Reader Expression :=
  match fuel with
  | 0 => failure
  | fuel + 1 => do
    match joint with
    | .logic word => return .logic word left (← operationIn c fuel (strength + 1))
    | .binary sign => return .binary sign left (← operationIn c fuel (strength + 1))
    | .member => do
      needSign "("
      let items ← operationsIn c fuel anyPower
      needSign ")"
      return .member left items
    | .between => do
      let low ← operationIn c fuel (strength + 1)
      needWord "and"
      return .between left low (← operationIn c fuel (strength + 1))
    | .is => do
      let negated ← takeWord "not"
      let e := Expression.binary "IS" left (← operationIn c fuel (strength + 1))
      return if negated then .negation e else e

/-- Expressions whose operators have at least a power, with commas between them; one that is
missing is left out. -/
def operationsIn (c : Convention) (fuel power : Nat) : Reader (List Expression) :=
  match fuel with
  | 0 => failure
  | fuel + 1 => do
    let first ←
      if (← peek?).any Token.startsExpression then pure [← operationIn c fuel power] else pure []
    if ← takeSign "," then return first ++ (← operationsIn c fuel power) else return first

end

/-- More steps than reading tokens takes. -/
def enough (ts : List Token) : Nat := 4 * ts.length + 8

def expression (c : Convention) : Reader Expression := do
  operationIn c (enough (← get)) anyPower

/-- Expressions with commas between them; one that is missing is left out. -/
def expressions (c : Convention) : Reader (List Expression) := do
  operationsIn c (enough (← get)) anyPower

/-- Assignments with commas between them. An assignment is an equality without `AND` and `OR`. -/
def assignments (c : Convention) : Reader (List Expression) := do
  operationsIn c (enough (← get)) equalityPower

end Polystore.Sql
