import StepArguments.Decimal.Read
import StepArguments.Json.Reader
import StepArguments.Table
import StepArguments.TargetType

/-! # Conversion of text

`convertText` reads a text as a value of a target type. Lists are JSON lists or items between
commas, maps are JSON objects, tables are in pipe form, and text itself converts to itself. -/

namespace StepArguments

/-- Why a text is no value of a type. -/
inductive ReadFault where
  | integer (fault : Decimal.IntegerFault)
  | float (fault : Decimal.FloatFault)
  | notBoolean
  | json (error : Json.Error)
  | notList
  | notMap

def ReadFault.message : ReadFault → String
  | .integer fault => fault.message
  | .float fault => fault.message
  | .notBoolean => "expected true or false"
  | .json error => error.message
  | .notList => "not a JSON array"
  | .notMap => "not a JSON object"

/-- Why a text cannot be converted. -/
inductive ConversionError where
  /-- The text is no value of the type. -/
  | unreadable (text : String) (target : TargetType) (fault : ReadFault)
  /-- The text is no table. -/
  | invalidTable (error : TableError)
  /-- No text converts to the type. -/
  | unsupported (target : TargetType)

def ConversionError.message : ConversionError → String
  | .unreadable text target fault =>
    "unable to convert '" ++ text ++ "' to " ++ target.name ++ ": " ++ fault.message
  | .invalidTable error => "invalid table: " ++ error.message
  | .unsupported target => "unsupported target type: " ++ target.name

/-- Reads one of the two truth values, in any mixture of cases. -/
def readBoolean? (s : List Char) : Option Bool :=
  let word := s.map Char.toLower
  if word = "true".toList then some true
  else if word = "false".toList then some false
  else none

def convertText (text : String) : TargetType → Except ConversionError Value
  | .text => .ok (.text text)
  | .any => .ok (.text text)
  | .steps => .ok (.text text)
  | .integer =>
    match Decimal.readInteger (Text.trimChars text.toList) with
    | .ok i => .ok (.integer i)
    | .error fault => .error (.unreadable text .integer (.integer fault))
  | .float =>
    match Decimal.readFloat (Text.trimChars text.toList) with
    | .ok x => .ok (.float x)
    | .error fault => .error (.unreadable text .float (.float fault))
  | .boolean =>
    match readBoolean? (Text.trimChars text.toList) with
    | some b => .ok (.bool b)
    | none => .error (.unreadable text .boolean .notBoolean)
  | .bytes => .ok (.bytes (Text.Utf8.encode text.toList))
  | .list element =>
    match Text.trimChars text.toList with
    | [] => .ok (.list [])
    | '[' :: _ =>
      match Json.parse text.toList with
      | .ok (.list items) => .ok (.list items)
      | .ok _ => .error (.unreadable text (.list element) .notList)
      | .error error => .error (.unreadable text (.list element) (.json error))
    | trimmed =>
      ((Text.splitAt ',' trimmed).mapM fun item =>
        convertText (String.ofList (Text.trimChars item)) element).map .list
  | .map =>
    match Json.parse text.toList with
    | .ok (.map entries) => .ok (.map entries)
    | .ok _ => .error (.unreadable text .map .notMap)
    | .error error => .error (.unreadable text .map (.json error))
  | .table =>
    match Table.parse text.toList with
    | .ok table => .ok table.value
    | .error error => .error (.invalidTable error)
  | .optional inner =>
    if Text.isBlankText text then .ok .null else convertText text inner

end StepArguments
