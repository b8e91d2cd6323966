import StepArguments.Json.Record
import StepArguments.Settings
import StepArguments.Value.Display

/-! # Settings and configurations in JSON

The fields of settings and of configurations, and how settings are written. -/

namespace StepArguments

namespace Settings

def kind : String := "struct ResolverSettings"

def fields : List (Json.Field Settings) :=
  [{ name := "dryRun"
     read := fun _ s => (Json.readBoolean s).map fun (b, s) => (({ · with dryRun := b }), s) },
   { name := "maxDepth"
     read := fun _ s => (Json.readNatural s).map fun (n, s) => (({ · with maxDepth := n }), s) }]

def read (depth : Nat) : Json.Reader Settings :=
  Json.readRecord kind fields {} depth

def parse (text : String) : Except Json.Error Settings :=
  Json.readAll (read Json.depthLimit) text.toList

def json (s : Settings) : String :=
  let field (name : String) (value : List Char) := Json.quoted name.toList ++ ':' :: value
  String.ofList ('{' :: separated [',']
    [field "dryRun" (toString s.dryRun).toList, field "maxDepth" (Decimal.digitChars s.maxDepth)] ++
      ['}'])

end Settings

end StepArguments
