import StepArguments.Text.Blank
import StepArguments.Text.Search

/-! # Function calls

The content of an expression may be a call `name(arguments)`. Arguments are separated by commas;
`\,` is a comma inside an argument, and three quotes on either side keep an argument as it is. -/

namespace StepArguments

/-- A call of a function: its name, and the text between the outer parentheses. -/
structure Call where
  name : String
  arguments : String
deriving DecidableEq

namespace Call

def isNameChar (c : Char) : Bool :=
  c.isAlphanum || c == '_'

/-- Reads a call: a name up to the first parenthesis, and all text up to a parenthesis that ends
the expression. -/
def parse? (expression : String) : Option Call := do
  let (name, rest) ← Text.cut? ['('] expression.toList
  if name.isEmpty || !name.all isNameChar then none
  else if rest.getLast? = some ')' then
    some ⟨String.ofList name, String.ofList rest.dropLast⟩
  else none

/-- The argument that ends at a comma or with the text: the last one between three quotes, or else
the text without the blanks around it. The characters come last one first. -/
def finishArgument (current : List Char) (verbatim : Option (List Char)) : String :=
  String.ofList (verbatim.getD (Text.trimChars current.reverse))

/-- Splits a text into arguments, given what was read of the current one: its characters, the last
one first, and what stood in three quotes. -/
def splitFrom (current : List Char) (verbatim : Option (List Char)) (s : List Char) :
    List String :=
  match s with
  | [] => [finishArgument current verbatim]
  | c :: s =>
    match _h : (Text.after? ['"', '"', '"'] (c :: s)).bind (Text.cut? ['"', '"', '"']) with
    -- three quotes count only if three more close them
    | some (quoted, rest) => splitFrom current (some quoted) rest
    | none =>
      match _h : Text.after? ['\\', ','] (c :: s) with
      | some rest => splitFrom (',' :: current) verbatim rest
      | none =>
        if c = ',' then finishArgument current verbatim :: splitFrom [] none s
        else splitFrom (c :: current) verbatim s
termination_by s.length
decreasing_by
  · obtain ⟨t, ht, hcut⟩ := Option.bind_eq_some_iff.1 _h
    have h₁ := congrArg List.length (Text.after?_eq_some_iff.1 ht)
    have h₂ := congrArg List.length (Text.eq_of_cut? hcut)
    simp only [List.length_append, List.length_cons] at h₁ h₂ ⊢
    omega
  · have := congrArg List.length (Text.after?_eq_some_iff.1 _h)
    simp only [List.length_append, List.length_cons] at this ⊢
    omega
  · simp
  · simp

/-- Splits the text of a call into its arguments. A blank text holds one empty argument. -/
def splitArguments (arguments : String) : List String :=
  splitFrom [] none arguments.toList

end Call

end StepArguments
