import StepArguments.Text.Blank
import StepArguments.Text.Utf8

/-! # The process environment

The variables of the process, as a snapshot. Their values are bytes, and one that is not UTF-8 has
no text. -/

namespace StepArguments

/-- A snapshot of the variables of the process. -/
structure Environment where
  entries : List (String × List UInt8)

namespace Environment

def empty : Environment := ⟨[]⟩

/-- Whether a variable of the process can have a name: a blank one cannot, nor one with an equals
sign or a NUL. -/
def allowsName (name : String) : Bool :=
  !Text.isBlankText name && !name.toList.any fun c => c == '=' || c == '\x00'

def get? (e : Environment) (name : String) : Option String :=
  if allowsName name then
    (e.entries.lookup name).bind fun bytes => (Text.Utf8.decode? bytes).map String.ofList
  else none

end Environment

end StepArguments
