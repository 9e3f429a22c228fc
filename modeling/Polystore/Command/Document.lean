import Polystore.ExtendedJson
import Polystore.Failure

/-!
# Commands of document stores

A command names a collection and, behind the first point, an operation: `find( … )` with a filter
in extended JSON between the parentheses, or `count()`.

* `DocumentOperation`, `DocumentCommand`;
* `readFilter`: what stands behind `find(`;
* `DocumentCommand.parse`.
-/

namespace Polystore

open Text

/-- What is done with a collection. -/
inductive DocumentOperation
  | find (filter : ExtendedJson.Fields)
  | count
deriving Repr

/-- A collection and what is done with it. -/
structure DocumentCommand where
  collection : String
  operation : DocumentOperation
deriving Repr

/-- The name of a field; fields of filters are named by texts. -/
def fieldName (v : Value) : String := v.asText?.getD ""

/-- The filter of a text: no text at all, or an object in extended JSON. -/
def readFilter (source : List Char) : Except CommandFlaw ExtendedJson.Fields :=
  if source.isEmpty then .ok []
  else
    match ExtendedJson.read source with
    | .ok (.map entries) => .ok (entries.map fun entry => (fieldName entry.1, entry.2))
    | .ok _ => .error .filterShape
    | .error (.misplaced e) => .error (.filterText source e)
    | .error (.refused ()) => .error .filterValue

/-- The filter in front of the closing parenthesis that ends a text. -/
def readFilterCall (body : List Char) : Except CommandFlaw ExtendedJson.Fields :=
  match (trimRight body).reverse with
  | ')' :: front => readFilter (trim front.reverse)
  | _ => .error .openFind

namespace DocumentCommand

/-- The operation of a text, for a collection. -/
def parseOperation (collection command : List Char) : Except CoreError DocumentCommand :=
  match dropWord? "find(" command, dropWord? "count()" command with
  | some body, _ => do
    let filter ← (readFilterCall body).mapError .malformed
    return ⟨String.ofList collection, .find filter⟩
  | none, some _ => .ok ⟨String.ofList collection, .count⟩
  | none, none => .error (.unsupported (.documentCommand (String.ofList command)))

def parse (text : String) : Except CoreError DocumentCommand :=
  match cutFirst? '.' (trim text.toList) with
  | none => .error (.malformed .noCollection)
  | some (front, back) =>
    let collection := trim front
    if collection.isEmpty then .error (.malformed .noCollection)
    else parseOperation collection (trimLeft back)

end DocumentCommand

end Polystore
