import Polystore.Failure

/-!
# Commands of key-value stores

A command line is a name with arguments, all of them words without blanks.

* `KeyValueCommand`, `KeyValueCommand.words`;
* `KeyValueCommand.parse`.
-/

namespace Polystore

/-- A command with its arguments. -/
structure KeyValueCommand where
  name : String
  arguments : List String
deriving DecidableEq, Repr

namespace KeyValueCommand

/-- The words of a command line, the name first. -/
def words (c : KeyValueCommand) : List String := c.name :: c.arguments

/-- The command of a text: its longest runs without blanks. -/
def parse (text : String) : Except CoreError KeyValueCommand :=
  match (Text.words text.toList).map String.ofList with
  | [] => .error (.malformed .noWords)
  | name :: arguments => .ok ⟨name, arguments⟩

end KeyValueCommand

end Polystore
