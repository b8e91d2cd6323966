import StepArguments.Named

/-! # Values

A value is what a variable holds, an expression yields or a step argument is converted to. Maps
keep the order in which their keys were first put, and a table is a row of headers with rows of
named cells. -/

namespace StepArguments

/-- A value of a variable, an expression or a step argument. -/
inductive Value where
  /-- The absence of a value. -/
  | null
  | bool (b : Bool)
  | integer (i : Int64)
  | float (x : Float)
  | text (s : String)
  | bytes (bs : List UInt8)
  | list (items : List Value)
  /-- Named values, in the order in which the names were first put. -/
  | map (entries : List (String × Value))
  /-- Headers, and rows of cells named by them. -/
  | table (headers : List String) (rows : List (List (String × Value)))
deriving Inhabited

/-- Named values in the order in which the names were first put. -/
abbrev Bindings := Named Value

namespace Value

def isNull : Value → Bool
  | .null => true
  | _ => false

def isText : Value → Bool
  | .text _ => true
  | _ => false

def asText? : Value → Option String
  | .text s => some s
  | _ => none

/-- The value, unless it is the absent one. -/
def present? (v : Option Value) : Option Value :=
  v.filter (!·.isNull)

def kindName : Value → String
  | .null => "null"
  | .bool _ => "boolean"
  | .integer _ => "integer"
  | .float _ => "float"
  | .text _ => "string"
  | .bytes _ => "bytes"
  | .list _ => "list"
  | .map _ => "map"
  | .table _ _ => "table"

end Value

end StepArguments
