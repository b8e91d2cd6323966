import StepArguments.Markup.Placeholder

/-! # Templates

A template is the reading of a text as its placeholders, done once and before anything is replaced:
the text in front of the first placeholder, the key of that placeholder, itself read as a template,
and the template of what follows.  `chars_ofChars` says that nothing is lost by the reading, and
`ofChars_of_not_opens` that a key without an opener is read as plain text, so that the scanner's
question whether a key is to be resolved needs no place in what is said of templates.
-/

namespace StepArguments

/-- A text read as its placeholders. -/
inductive Template where
  /-- Text without placeholders. -/
  | text (s : List Char)
  /-- Text in front of a placeholder, its key, and what follows it. -/
  | placeholder (before : List Char) (key rest : Template)
deriving DecidableEq

namespace Template

/-- The placeholders of a text, those in their keys as well. -/
def ofChars (s : List Char) : Template :=
  match _h : Placeholder.cut? s with
  | none => .text s
  | some p => .placeholder p.before (ofChars p.inside) (ofChars p.after)
termination_by s.length
decreasing_by
  · exact Placeholder.length_inside_lt _h
  · exact Placeholder.length_after_lt _h

def chars : Template → List Char
  | .text s => s
  | .placeholder before key rest => before ++ '$' :: '{' :: key.chars ++ '}' :: rest.chars

/-! ## Reading a text -/

theorem ofChars_of_cut?_eq_none {s : List Char} (h : Placeholder.cut? s = none) :
    ofChars s = .text s := by
  rw [ofChars]
  split
  · rfl
  · rename_i p hp
    rw [h] at hp
    cases hp

theorem ofChars_of_cut?_eq_some {s : List Char} {p : Cut} (h : Placeholder.cut? s = some p) :
    ofChars s = .placeholder p.before (ofChars p.inside) (ofChars p.after) := by
  rw [ofChars]
  split
  · rename_i hp
    rw [h] at hp
    cases hp
  · rename_i q hq
    rw [h] at hq
    cases hq
    rfl

@[simp] theorem ofChars_nil : ofChars [] = .text [] :=
  ofChars_of_cut?_eq_none rfl

theorem chars_ofChars (s : List Char) : (ofChars s).chars = s := by
  induction s using ofChars.induct with
  | case1 s h => rw [ofChars_of_cut?_eq_none h, chars]
  | case2 s p h ihKey ihRest =>
    rw [ofChars_of_cut?_eq_some h, chars, ihKey, ihRest]
    simp [Placeholder.eq_of_cut? h]

theorem ofChars_eq_text_nil_iff {s : List Char} : ofChars s = .text [] ↔ s = [] := by
  constructor
  · intro h
    rw [← chars_ofChars s, h, chars]
  · rintro rfl
    exact ofChars_nil

/-! ## Keys without openers -/

theorem cut?_eq_none_of_not_opens {s : List Char} (h : Placeholder.opens s = false) :
    Placeholder.cut? s = none := by
  fun_induction Placeholder.opens s with
  | case1 => simp at h
  | case2 c s hc ih =>
    rw [Placeholder.cut?, ih h, Option.map_none]
    exact hc
  | case3 => rfl

theorem ofChars_of_not_opens {s : List Char} (h : Placeholder.opens s = false) :
    ofChars s = .text s :=
  ofChars_of_cut?_eq_none (cut?_eq_none_of_not_opens h)

end Template

end StepArguments
