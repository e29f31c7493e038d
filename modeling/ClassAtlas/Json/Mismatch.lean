/-
What is wrong with a JSON value that is not as expected, by cause, and the text for each cause.
-/
import ClassAtlas.Decimal.Shortest
import ClassAtlas.Json
import ClassAtlas.Text.Quoted
import ClassAtlas.Uri.Fault

namespace ClassAtlas.Json

/-- A value in words, for an error. -/
def inWords : Json → String
  | .null => "null"
  | .bool b => "boolean \x60" ++ toString b ++ "\x60"
  | .whole n => "integer \x60" ++ toString n ++ "\x60"
  | .real x => "floating point \x60" ++ Decimal.floatText x ++ "\x60"
  | .text s => "string " ++ Text.quoted s.toList
  | .array _ => "sequence"
  | .object _ => "map"

/-- Why a value is not as expected: it is of another type or not among the values of its type, both
in words; it has another number of items; an object lacks a field; a text is none of the choices;
none of several shapes with a common name fits; a text is no URI. -/
inductive Mismatch
  | type (found expected : String)
  | value (found expected : String)
  | length (n : Nat) (expected : String)
  | missing (field : String)
  | choice (found : String) (choices : List String)
  | alternative (name : String)
  | uri (cause : Uri.Fault) (text : String)
  deriving DecidableEq, Repr

namespace Mismatch

/-- The mismatch of a value of another type than expected. -/
def unexpected (v : Json) (expected : String) : Mismatch :=
  .type (inWords v) expected

/-- A name between grave accents. -/
def ticked (name : String) : String :=
  "\x60" ++ name ++ "\x60"

/-- Some choices in words. -/
def choicesInWords : List String → String
  | [] => "nothing"
  | [a] => ticked a
  | [a, b] => ticked a ++ " or " ++ ticked b
  | names => "one of " ++ ", ".intercalate (names.map ticked)

/-- The text of a mismatch. -/
def message : Mismatch → String
  | .type found expected => "invalid type: " ++ found ++ ", expected " ++ expected
  | .value found expected => "invalid value: " ++ found ++ ", expected " ++ expected
  | .length n expected => "invalid length " ++ toString n ++ ", expected " ++ expected
  | .missing field => "missing field " ++ ticked field
  | .choice found choices =>
    "unknown variant " ++ ticked found ++ ", expected " ++ choicesInWords choices
  | .alternative name => "data did not match any variant of untagged enum " ++ name
  | .uri cause given => cause.message ++ ": " ++ Text.quoted given.toList

end Mismatch

/-- What is expected of an array that is too long for what is read from it. -/
def fewerItems : String := "fewer elements in array"

end ClassAtlas.Json
