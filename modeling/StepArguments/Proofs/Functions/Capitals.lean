import StepArguments.Proofs.Functions.Standard

/-! # Capitals at the start of words

Three functions change the words of a text, each word by itself.  What they leave alone is said by the
pieces of the text before and after: the blank characters are the same ones, there are as many words,
and a word differs from the old one in its first character only (`execute_wordFunctions`).
`capitalizeWordsFully` starts from the text in lower case, whose words are those of the text itself,
each in lower case.
-/

namespace StepArguments

open Text (InPieces Piece ChangesFirst)

namespace Text

theorem changesFirst_capitalize (text : List Char) :
    ChangesFirst upperChar text (mapWords capitalize text) :=
  changesFirst_mapWords (fun _ _ => rfl) (fun _ hc => unbroken_upperChar hc) text

theorem changesFirst_uncapitalize (text : List Char) :
    ChangesFirst lowerChar text (mapWords uncapitalize text) :=
  changesFirst_mapWords (fun _ _ => rfl) (fun _ hc => unbroken_lowerChar hc) text

end Text

namespace FunctionTable

theorem get?_wordFunctions (choice : Choice) :
    (stringFunctions choice).get? (Text.lower "capitalizeWords") =
        some (.mapping "capitalizeWords" (Text.mapWords Text.capitalize)) ∧
      (stringFunctions choice).get? (Text.lower "capitalizeWordsFully") =
        some (.mapping "capitalizeWordsFully" fun s =>
          Text.mapWords Text.capitalize (Text.lowerChars s)) ∧
      (stringFunctions choice).get? (Text.lower "uncapitalizeWords") =
        some (.mapping "uncapitalizeWords" (Text.mapWords Text.uncapitalize)) :=
  ⟨get?_stringFunctions (f := .mapping "capitalizeWords" (Text.mapWords Text.capitalize))
      (by simp [textAssembly, Assembly.registered]),
    get?_stringFunctions
      (f := .mapping "capitalizeWordsFully" fun s =>
        Text.mapWords Text.capitalize (Text.lowerChars s))
      (by simp [textAssembly, Assembly.registered]),
    get?_stringFunctions (f := .mapping "uncapitalizeWords" (Text.mapWords Text.uncapitalize))
      (by simp [textAssembly, Assembly.registered])⟩

/-- A text is divided into blank characters and words in one way.  A change of its words changes
    nothing else, and the three functions that do so only change the first characters of words, two
    of them in the text itself and one in the text in lower case, which has its words in the same
    places. -/
theorem execute_wordFunctions (choice : Choice) (text : String) :
    ∃ row, InPieces text.toList row ∧ (∀ other, InPieces text.toList other → other = row) ∧
      (∀ f, Text.mapWords f text.toList = Piece.written (row.map (Piece.mapWord f))) ∧
      Text.mapWords id text.toList = text.toList ∧
      InPieces (Text.lower text).toList (row.map (Piece.mapWord Text.lowerChars)) ∧
      ∃ capitalized uncapitalized fully : String,
        (∀ earlier, (stringFunctions choice).execute earlier
            (Call.ofText "capitalizeWords" text) = .ok (some (.text capitalized))) ∧
          ChangesFirst Text.upperChar text.toList capitalized.toList ∧
          (∀ earlier, (stringFunctions choice).execute earlier
            (Call.ofText "uncapitalizeWords" text) = .ok (some (.text uncapitalized))) ∧
          ChangesFirst Text.lowerChar text.toList uncapitalized.toList ∧
          (∀ earlier, (stringFunctions choice).execute earlier
            (Call.ofText "capitalizeWordsFully" text) = .ok (some (.text fully))) ∧
          ChangesFirst Text.upperChar (Text.lower text).toList fully.toList := by
  obtain ⟨hWords, hFully, hBack⟩ := get?_wordFunctions choice
  have inPieces := Text.inPieces_pieces text.toList
  refine ⟨_, inPieces, fun _ => InPieces.eq_pieces, fun _ => Text.mapWords_eq inPieces,
    Text.mapWords_id text.toList, ?_, _, _, _,
    fun earlier => execute_of_mapping (by decide +kernel) hWords earlier text, ?_,
    fun earlier => execute_of_mapping (by decide +kernel) hBack earlier text, ?_,
    fun earlier => execute_of_mapping (by decide +kernel) hFully earlier text, ?_⟩
  · rw [Text.lower, String.toList_ofList]
    exact inPieces.lowerChars
  · rw [String.toList_ofList]
    exact Text.changesFirst_capitalize text.toList
  · rw [String.toList_ofList]
    exact Text.changesFirst_uncapitalize text.toList
  · rw [String.toList_ofList, Text.lower, String.toList_ofList]
    exact Text.changesFirst_capitalize (Text.lowerChars text.toList)

example : Text.mapWords Text.capitalize " ß\u2003ßß\t".toList = " SS\u2003SSß\t".toList := by
  decide +kernel

end FunctionTable

end StepArguments
