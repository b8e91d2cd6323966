import Mathlib.Data.List.Forall2
import StepArguments.Text.Words

/-! # Words and blank characters

A text is a row of pieces, each a blank character or a word.  A word goes on to the next blank
character or to the end of the text, so that no two words stand side by side (`InPieces`).  Every text
is such a row in exactly one way, the one that `pieces` finds (`inPieces_pieces`,
`InPieces.eq_pieces`).

`mapWords` changes the words of this row and nothing else (`mapWords_eq`).  If the changed words are
words again, the row of the new text is that of the old one with these words in it
(`InPieces.mapWords`).  So a function that only replaces the first character of a word leaves all
else of a text in its place (`changesFirst_mapWords`).
-/

namespace StepArguments.Text

/-- Characters none of which is blank, one at least. -/
structure Unbroken (s : List Char) : Prop where
  ne_nil : s ≠ []
  not_blank : ∀ c ∈ s, isBlank c = false

/-- Where a word can end: in front of a blank character, or at the end of the text. -/
def BlankFirst (text : List Char) : Prop :=
  ∀ c, text.head? = some c → isBlank c = true

/-- A part of a text. -/
inductive Piece where
  | blank (c : Char)
  | word (s : List Char)
deriving DecidableEq

namespace Piece

def chars : Piece → List Char
  | blank c => [c]
  | word s => s

/-- The piece with its word changed, if it is one. -/
def mapWord (f : List Char → List Char) : Piece → Piece
  | blank c => blank c
  | word s => word (f s)

/-- The same blank character, or a word with another start in place of its first character. -/
inductive ChangedFirst (change : Char → List Char) : (piece other : Piece) → Prop
  | blank {c : Char} : ChangedFirst change (blank c) (blank c)
  | word {c : Char} {s : List Char} : ChangedFirst change (word (c :: s)) (word (change c ++ s))

/-- The text of a row of pieces. -/
def written (pieces : List Piece) : List Char :=
  pieces.flatMap chars

/-- The pieces behind one more character that is not blank. It starts their first word, if they
    begin with one. -/
def startWord (c : Char) : List Piece → List Piece
  | word s :: pieces => word (c :: s) :: pieces
  | pieces => word [c] :: pieces

end Piece

open Piece (written mapWord startWord)

/-- A text is a row of pieces. -/
inductive InPieces : (text : List Char) → (pieces : List Piece) → Prop
  | nil : InPieces [] []
  | blank {c : Char} {text : List Char} {pieces : List Piece} : isBlank c = true →
      InPieces text pieces → InPieces (c :: text) (.blank c :: pieces)
  | word {s text : List Char} {pieces : List Piece} : Unbroken s → BlankFirst text →
      InPieces text pieces → InPieces (s ++ text) (.word s :: pieces)

/-- Two texts with the same pieces but for the first characters of their words. -/
def ChangesFirst (change : Char → List Char) (text other : List Char) : Prop :=
  ∃ row changed, InPieces text row ∧ InPieces other changed ∧
    List.Forall₂ (Piece.ChangedFirst change) row changed

/-- The pieces of a text. -/
def pieces : List Char → List Piece
  | [] => []
  | c :: text => if isBlank c then .blank c :: pieces text else startWord c (pieces text)

variable {c : Char} {s text : List Char} {row : List Piece} {f : List Char → List Char}

/-! ## The pieces of a text -/

theorem blankFirst_nil : BlankFirst [] := fun _ hHead => nomatch hHead

theorem blankFirst_cons : BlankFirst (c :: text) ↔ isBlank c = true := by
  simp [BlankFirst]

theorem Unbroken.singleton (hc : isBlank c = false) : Unbroken [c] :=
  ⟨List.cons_ne_nil c [], by simpa using hc⟩

theorem Unbroken.append (hs : Unbroken s) (hText : ∀ c ∈ text, isBlank c = false) :
    Unbroken (s ++ text) where
  ne_nil := List.append_ne_nil_of_left_ne_nil hs.ne_nil text
  not_blank := List.forall_mem_append.2 ⟨hs.not_blank, hText⟩

theorem Unbroken.not_blankFirst (hs : Unbroken s) : ¬ BlankFirst (s ++ text) := by
  obtain ⟨c, s, rfl⟩ := List.exists_cons_of_ne_nil hs.ne_nil
  rw [List.cons_append, blankFirst_cons, hs.not_blank c List.mem_cons_self]
  exact Bool.false_ne_true

theorem pieces_blank (hc : isBlank c = true) : pieces (c :: text) = .blank c :: pieces text :=
  if_pos hc

theorem pieces_of_not_blank (hc : isBlank c = false) :
    pieces (c :: text) = startWord c (pieces text) :=
  if_neg (by rw [hc]; exact Bool.false_ne_true)

theorem startWord_pieces (hText : BlankFirst text) :
    startWord c (pieces text) = .word [c] :: pieces text := by
  cases text with
  | nil => rfl
  | cons d text =>
    rw [pieces_blank (blankFirst_cons.1 hText)]
    rfl

theorem pieces_append (hs : Unbroken s) (hText : BlankFirst text) :
    pieces (s ++ text) = .word s :: pieces text := by
  obtain ⟨hNe, hBlank⟩ := hs
  induction s with
  | nil => exact absurd rfl hNe
  | cons c s ih =>
    obtain ⟨hc, hRest⟩ := List.forall_mem_cons.1 hBlank
    rw [List.cons_append, pieces_of_not_blank hc]
    cases s with
    | nil => exact startWord_pieces hText
    | cons d s => rw [ih (List.cons_ne_nil d s) hRest, startWord]

theorem InPieces.eq_pieces (inPieces : InPieces text row) : row = pieces text := by
  induction inPieces with
  | nil => rfl
  | blank hc _ ih => rw [pieces_blank hc, ih]
  | word hs hText _ ih => rw [pieces_append hs hText, ih]

/-- One more character in front that is not blank starts the first word or is a word by itself. -/
theorem InPieces.startWord (hc : isBlank c = false) (inPieces : InPieces text row) :
    InPieces (c :: text) (startWord c row) := by
  have hAlone : Unbroken [c] := .singleton hc
  cases inPieces with
  | nil => exact .word hAlone blankFirst_nil .nil
  | blank hd inPieces => exact .word hAlone (blankFirst_cons.2 hd) (.blank hd inPieces)
  | @word s _ _ hs hText inPieces =>
    -- the character and the word behind it are one word
    exact .word ⟨List.cons_ne_nil c s, List.forall_mem_cons.2 ⟨hc, hs.not_blank⟩⟩ hText inPieces

theorem inPieces_pieces (text : List Char) : InPieces text (pieces text) := by
  induction text with
  | nil => exact .nil
  | cons c text ih =>
    cases hc : isBlank c with
    | true => exact pieces_blank hc ▸ ih.blank hc
    | false => exact pieces_of_not_blank hc ▸ ih.startWord hc

example : pieces " a\u2003bc".toList =
    [.blank ' ', .word ['a'], .blank '\u2003', .word ['b', 'c']] := by decide +kernel

theorem InPieces.written_eq (inPieces : InPieces text row) : written row = text := by
  induction inPieces with
  | nil => rfl
  | blank _ _ ih => exact congrArg (_ :: ·) ih
  | word _ _ _ ih => exact congrArg (_ ++ ·) ih

/-! ## Changed words -/

theorem mapWordsFrom_append {word : List Char} (hs : ∀ c ∈ s, isBlank c = false) :
    mapWordsFrom f word (s ++ text) = mapWordsFrom f (s.reverse ++ word) text := by
  induction s generalizing word with
  | nil => rfl
  | cons c s ih =>
    obtain ⟨hc, hRest⟩ := List.forall_mem_cons.1 hs
    rw [List.cons_append, mapWordsFrom, hc, if_neg Bool.false_ne_true, ih hRest,
      List.reverse_cons, List.append_assoc, List.singleton_append]

/-- A word under way ends here. -/
theorem mapWordsFrom_of_blankFirst {word : List Char} (hWord : word ≠ [])
    (hText : BlankFirst text) :
    mapWordsFrom f word text = f word.reverse ++ mapWords f text := by
  have hEmpty : word.isEmpty = false := List.isEmpty_eq_false_iff.2 hWord
  cases text with
  | nil => simp [mapWordsFrom, mapWords, hEmpty]
  | cons c text => simp [mapWordsFrom, mapWords, hEmpty, blankFirst_cons.1 hText]

theorem mapWords_blank (hc : isBlank c = true) :
    mapWords f (c :: text) = c :: mapWords f text := by
  simp [mapWords, mapWordsFrom, hc]

theorem mapWords_word (hs : Unbroken s) (hText : BlankFirst text) :
    mapWords f (s ++ text) = f s ++ mapWords f text := by
  have hWord : s.reverse ++ [] ≠ [] := by simpa using hs.ne_nil
  rw [mapWords, mapWordsFrom_append hs.not_blank, mapWordsFrom_of_blankFirst hWord hText,
    List.append_nil, List.reverse_reverse]

theorem mapWords_eq (inPieces : InPieces text row) :
    mapWords f text = written (row.map (mapWord f)) := by
  induction inPieces with
  | nil => rfl
  | blank hc _ ih =>
    rw [mapWords_blank hc, ih]
    rfl
  | word hs hText _ ih =>
    rw [mapWords_word hs hText, ih]
    rfl

theorem mapWords_id (text : List Char) : mapWords id text = text := by
  have hSame : mapWord id = id := by
    funext piece
    cases piece <;> rfl
  have inPieces := inPieces_pieces text
  rw [mapWords_eq inPieces, hSame, List.map_id, inPieces.written_eq]

theorem blankFirst_mapWords (inPieces : InPieces text row) (hText : BlankFirst text) :
    BlankFirst (mapWords f text) := by
  cases inPieces with
  | nil => exact blankFirst_nil
  | blank hc _ => exact mapWords_blank hc ▸ blankFirst_cons.2 hc
  | word hs _ _ => exact absurd hText hs.not_blankFirst

/-- Words that stay words stay in their places. -/
theorem InPieces.mapWords (hf : ∀ s, Unbroken s → Unbroken (f s)) (inPieces : InPieces text row) :
    InPieces (mapWords f text) (row.map (mapWord f)) := by
  induction inPieces with
  | nil => exact .nil
  | blank hc _ ih => exact mapWords_blank hc ▸ ih.blank hc
  | word hs hText inPieces ih =>
    rw [mapWords_word hs hText]
    exact .word (hf _ hs) (blankFirst_mapWords inPieces hText) ih

theorem changesFirst_mapWords {change : Char → List Char}
    (hf : ∀ c s, f (c :: s) = change c ++ s)
    (hChange : ∀ c, isBlank c = false → Unbroken (change c)) (text : List Char) :
    ChangesFirst change text (mapWords f text) := by
  have hWord (s : List Char) (hs : Unbroken s) : Unbroken (f s) := by
    obtain ⟨c, s, rfl⟩ := List.exists_cons_of_ne_nil hs.ne_nil
    obtain ⟨hc, hRest⟩ := List.forall_mem_cons.1 hs.not_blank
    rw [hf]
    exact (hChange c hc).append hRest
  obtain ⟨row, inPieces⟩ : ∃ row, InPieces text row := ⟨_, inPieces_pieces text⟩
  refine ⟨row, row.map (mapWord f), inPieces, inPieces.mapWords hWord, ?_⟩
  induction inPieces with
  | nil => exact .nil
  | blank _ _ ih => exact .cons .blank ih
  | word hs _ _ ih =>
    obtain ⟨c, s, rfl⟩ := List.exists_cons_of_ne_nil hs.ne_nil
    refine .cons ?_ ih
    rw [mapWord, hf]
    exact .word

end StepArguments.Text
