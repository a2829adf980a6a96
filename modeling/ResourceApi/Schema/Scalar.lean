import ResourceApi.Text.Blank
import ResourceApi.Text.Lower

/-!
Scalar types of resource fields.
-/

namespace ResourceApi

inductive ScalarType where
  | string | int32 | int64 | boolean | double | float
  deriving DecidableEq, Repr

namespace ScalarType

def all : List ScalarType := [.string, .int32, .int64, .boolean, .double, .float]

def name : ScalarType → String
  | .string => "string"
  | .int32 => "int32"
  | .int64 => "int64"
  | .boolean => "boolean"
  | .double => "double"
  | .float => "float"

def ofName? (name : String) : Option ScalarType := all.find? fun s => s.name == name

theorem ofName?_name (s : ScalarType) : ofName? s.name = some s := by cases s <;> decide

/-- The type a schema author means: blanks around the name and letter case do not count, and `bool` is short for
`boolean`. -/
def ofTypeName? (typeName : String) : Option ScalarType :=
  let name := Text.lower (Text.strip typeName)
  if name = "bool" then some .boolean else ofName? name

end ScalarType

end ResourceApi
