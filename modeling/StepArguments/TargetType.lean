import StepArguments.Value

/-! # Target types

The declared type of a step argument, and when a value can be used for it without a way through
text. -/

namespace StepArguments

/-- The declared type of a step argument. -/
inductive TargetType where
  | text
  | integer
  | float
  | boolean
  | bytes
  /-- Every value, as it is. -/
  | any
  | list (element : TargetType)
  | map
  /-- A value of the inner type; blank text means none. -/
  | optional (inner : TargetType)
  | table
  /-- A nested block of steps, which is never resolved. -/
  | steps
deriving DecidableEq, Inhabited

namespace TargetType

def name : TargetType → String
  | .text => "string"
  | .integer => "integer"
  | .float => "float"
  | .boolean => "boolean"
  | .bytes => "bytes"
  | .any => "any"
  | .list element => "list<" ++ element.name ++ ">"
  | .map => "map"
  | .optional inner => "optional<" ++ inner.name ++ ">"
  | .table => "table"
  | .steps => "sub-steps"

/-- Whether a value can be used for a type as it is. The elements of lists and maps are not looked
at. -/
def satisfiedBy : TargetType → Value → Bool
  | .any, _ => true
  | .text, .text _ => true
  | .integer, .integer _ => true
  | .float, .float _ => true
  | .boolean, .bool _ => true
  | .bytes, .bytes _ => true
  | .list _, .list _ => true
  | .map, .map _ => true
  | .table, .table _ _ => true
  | .optional _, .null => true
  | .optional inner, v => inner.satisfiedBy v
  | _, _ => false

end TargetType

end StepArguments
