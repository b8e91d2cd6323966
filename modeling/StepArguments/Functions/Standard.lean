import StepArguments.Functions.Table
import StepArguments.Json.Text
import StepArguments.Text.Base64
import StepArguments.Text.Html
import StepArguments.Text.Pattern
import StepArguments.Text.Utf8
import StepArguments.Text.Words

/-! # The standard functions

Functions on text, the two Base64 functions, and the processors that an engine asks if nothing else
is said. -/

namespace StepArguments

/-- A choice among alternatives, which is made anew at each call: the place of one of so many, given
the expressions that were asked for before. -/
abbrev Choice := (earlier : List String) → (count : Nat) → Nat

/-- The item at a chosen place; the empty text if there is none. -/
def Choice.among (choice : Choice) (earlier items : List String) : String :=
  items.getD (choice earlier items.length % items.length) ""

/-- The text before the leftmost occurrence of a separator, or the whole text. -/
def substringBefore (text separator : String) : String :=
  match Text.cut? separator.toList text.toList with
  | some (before, _) => String.ofList before
  | none => text

/-- The text after the leftmost occurrence of a separator, or nothing. -/
def substringAfter (text separator : String) : String :=
  match Text.cut? separator.toList text.toList with
  | some (_, after) => String.ofList after
  | none => ""

/-- Reads Base64 text, blanks around it apart; bytes that are no text are replaced. -/
def decodeBase64 (argument : String) : Except ExpressionError String :=
  match Text.Base64.decode (Text.Utf8.encode (Text.trimChars argument.toList)) with
  | .ok bytes => .ok (String.ofList (Text.Utf8.decodeLossy bytes))
  | .error fault =>
    .error (.evaluation
      ("Unable to decode '" ++ argument ++ "' from Base64: " ++ fault.message))

def FunctionTable.mapping (table : FunctionTable) (name : String)
    (f : List Char → List Char) : FunctionTable :=
  table.unary name fun _ argument => .ok (.text (String.ofList (f argument.toList)))

def stringFunctions (choice : Choice) : FunctionTable :=
  FunctionTable.empty
    |>.mapping "trim" Text.trimChars
    |>.mapping "toLowerCase" Text.lowerChars
    |>.mapping "toUpperCase" Text.upperChars
    |>.mapping "capitalizeFirstWord" Text.capitalize
    |>.mapping "capitalizeWords" (Text.mapWords Text.capitalize)
    |>.mapping "capitalizeWordsFully" (fun s => Text.mapWords Text.capitalize (Text.lowerChars s))
    |>.mapping "uncapitalizeFirstWord" Text.uncapitalize
    |>.mapping "uncapitalizeWords" (Text.mapWords Text.uncapitalize)
    |>.mapping "escapeHTML" Text.Html.escape
    |>.mapping "escapeJSON" Json.inside
    |>.mapping "quoteRegExp" Text.Pattern.quote
    |>.variadic "anyOf" (fun earlier arguments => .ok (.text (choice.among earlier arguments)))
    |>.exactly "substringBefore" 2
      (fun _ arguments =>
        .ok (.text (substringBefore (arguments.getD 0 "") (arguments.getD 1 ""))))
    |>.exactly "substringAfter" 2
      (fun _ arguments =>
        .ok (.text (substringAfter (arguments.getD 0 "") (arguments.getD 1 ""))))

def encodingFunctions : FunctionTable :=
  FunctionTable.empty
    |>.mapping "encodeToBase64" (fun s => Text.Base64.encode (Text.Utf8.encode s))
    |>.unary "decodeFromBase64" (fun _ argument => (decodeBase64 argument).map .text)

def standardProcessors (choice : Choice) : List Processor :=
  [(stringFunctions choice).execute, encodingFunctions.execute, nullProcessor]

end StepArguments
