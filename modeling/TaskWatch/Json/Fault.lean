import TaskWatch.Numeric.Shortest
import TaskWatch.Text.Quoted
import TaskWatch.Time.Rfc3339

/-! What can be wrong with a JSON text.

    A text can end inside a value, can break the grammar, or can be a value that does not fit the
    record it is read into. Only the last kind has a wording of its own. -/

namespace TaskWatch.Json

open TaskWatch.Numeric

/-- What stood where a value of another form was wanted. -/
inductive Found where
  | null
  | bool (b : Bool)
  | integer (n : Int)
  | float (negative : Bool) (magnitude : Binary64)
  | text (s : String)
  | list
  | record
  deriving DecidableEq

/-- The name of what was found, with its value where that is short. -/
def Found.describe : Found → String
  | .null => "null"
  | .bool b => "boolean `" ++ (if b then "true" else "false") ++ "`"
  | .integer n => "integer `" ++ toString n ++ "`"
  | .float negative x =>
    "floating point `" ++ (if negative then "-" else "") ++ (Decimal.shortest x).text ++ "`"
  | .text s => "string " ++ Text.quoted s
  | .list => "sequence"
  | .record => "map"

/-- How a value fails to fit the record it is read into. -/
inductive Mismatch where
  | wrongType (found : Found) (wanted : String)
  | outOfRange (n : Int) (wanted : String)
  | unknownVariant (word : String) (known : List String)
  | missingField (name : String)
  | duplicateField (name : String)
  | tooFew (count : Nat) (wanted : String)
  | badTime (fault : Time.Fault)
  | noShape (wanted : String)
  deriving DecidableEq

/-- Words in a row, each between grave accents. -/
def listed (words : List String) : String :=
  ", ".intercalate (words.map (fun w => "`" ++ w ++ "`"))

/-- The wording of a mismatch. -/
def Mismatch.message : Mismatch → String
  | .wrongType found wanted => "invalid type: " ++ found.describe ++ ", expected " ++ wanted
  | .outOfRange n wanted => "invalid value: integer `" ++ toString n ++ "`, expected " ++ wanted
  | .unknownVariant word known => "unknown variant `" ++ word ++ "`, expected one of " ++ listed known
  | .missingField name => "missing field `" ++ name ++ "`"
  | .duplicateField name => "duplicate field `" ++ name ++ "`"
  | .tooFew count wanted => "invalid length " ++ toString count ++ ", expected " ++ wanted
  | .badTime fault => fault.message
  | .noShape wanted => "data did not match any variant of " ++ wanted

/-- What is wrong with a text. -/
inductive Fault where
  | ended
  | malformed
  | mismatch (m : Mismatch)
  deriving DecidableEq

/-- Reads a value from the front of a text. -/
abbrev Reader (α : Type) := List Char → Except Fault (α × List Char)

end TaskWatch.Json
