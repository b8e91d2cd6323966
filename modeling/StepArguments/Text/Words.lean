import StepArguments.Text.Blank
import StepArguments.Text.Case

/-! # Words

A word is a longest run of characters that are not blank. `mapWords` changes the words of a text
and keeps every blank character in its place. -/

namespace StepArguments.Text

/-- The text with each word changed, given the start of the word under way, its last character
first. -/
def mapWordsFrom (f : List Char → List Char) (word : List Char) : List Char → List Char
  | [] => if word.isEmpty then [] else f word.reverse
  | c :: s =>
    if isBlank c then
      (if word.isEmpty then [] else f word.reverse) ++ c :: mapWordsFrom f [] s
    else mapWordsFrom f (c :: word) s

def mapWords (f : List Char → List Char) (s : List Char) : List Char :=
  mapWordsFrom f [] s

def capitalize : List Char → List Char
  | [] => []
  | c :: s => upperChar c ++ s

def uncapitalize : List Char → List Char
  | [] => []
  | c :: s => lowerChar c ++ s

end StepArguments.Text
