import StepArguments.Markup.Span

/-! # Placeholders

A placeholder is `${` with a key and the brace that closes it; further `${` inside the key are
closed first. A `${` that nothing closes is plain text, and so is a brace that closes nothing. -/

namespace StepArguments.Placeholder

/-! ## Cuts -/

/-- The text up to the brace that closes `depth` nested openers and one more, and the text after
that brace. -/
def close? : (depth : Nat) → List Char → Option (List Char × List Char)
  | _, [] => none
  | depth, '$' :: '{' :: s => (close? (depth + 1) s).map fun (key, after) => ('$' :: '{' :: key, after)
  | 0, '}' :: s => some ([], s)
  | depth + 1, '}' :: s => (close? depth s).map fun (key, after) => ('}' :: key, after)
  | depth, c :: s => (close? depth s).map fun (key, after) => (c :: key, after)

def cut? : List Char → Option Cut
  | [] => none
  | '$' :: '{' :: s =>
    match close? 0 s with
    | some (key, after) => some ⟨[], key, after⟩
    | none => (cut? s).map (Cut.behind ['$', '{'])
  | c :: s => (cut? s).map (Cut.behind [c])

/-! ## What a cut divides -/

theorem eq_of_close? {depth : Nat} {s key after : List Char}
    (h : close? depth s = some (key, after)) : s = key ++ '}' :: after := by
  fun_induction close? depth s generalizing key after with
  | case1 => simp at h
  | case2 depth s ih =>
    obtain ⟨⟨key, after⟩, hs, heq⟩ := Option.map_eq_some_iff.1 h
    obtain ⟨rfl, rfl⟩ := Prod.mk.inj heq
    simpa using ih hs
  | case3 s =>
    obtain ⟨rfl, rfl⟩ := Prod.mk.inj (Option.some.inj h)
    rfl
  | case4 depth s ih =>
    obtain ⟨⟨key, after⟩, hs, heq⟩ := Option.map_eq_some_iff.1 h
    obtain ⟨rfl, rfl⟩ := Prod.mk.inj heq
    simpa using ih hs
  | case5 depth c s _ _ _ ih =>
    obtain ⟨⟨key, after⟩, hs, heq⟩ := Option.map_eq_some_iff.1 h
    obtain ⟨rfl, rfl⟩ := Prod.mk.inj heq
    simpa using ih hs

theorem eq_of_cut? {s : List Char} {p : Cut} (h : cut? s = some p) :
    s = p.before ++ '$' :: '{' :: p.inside ++ '}' :: p.after := by
  fun_induction cut? s generalizing p with
  | case1 => simp at h
  | case2 s key after hclose =>
    obtain rfl := Option.some.inj h
    simp [eq_of_close? hclose]
  | case3 s _ ih =>
    obtain ⟨p, hs, rfl⟩ := Option.map_eq_some_iff.1 h
    simpa [Cut.behind] using ih hs
  | case4 c s _ ih =>
    obtain ⟨p, hs, rfl⟩ := Option.map_eq_some_iff.1 h
    simpa [Cut.behind] using ih hs

theorem length_inside_lt {s : List Char} {p : Cut} (h : cut? s = some p) :
    p.inside.length < s.length := by
  have := congrArg List.length (eq_of_cut? h)
  simp only [List.length_append, List.length_cons] at this
  omega

theorem length_after_lt {s : List Char} {p : Cut} (h : cut? s = some p) :
    p.after.length < s.length := by
  have := congrArg List.length (eq_of_cut? h)
  simp only [List.length_append, List.length_cons] at this
  omega

/-! ## All placeholders -/

/-- Whether a text holds an opener, closed or not. -/
def opens : List Char → Bool
  | '$' :: '{' :: _ => true
  | _ :: s => opens s
  | [] => false

/-- All placeholders of a text that lie in no other one, in order; each cut divides the text after
the one before it. -/
def cuts (s : List Char) : List Cut :=
  match _h : cut? s with
  | none => []
  | some p => p :: cuts p.after
termination_by s.length
decreasing_by exact length_after_lt _h

theorem cuts_of_cut?_eq_none {s : List Char} (h : cut? s = none) : cuts s = [] := by
  rw [cuts]
  split
  · rfl
  · rename_i p hp
    rw [h] at hp
    cases hp

theorem cuts_of_cut?_eq_some {s : List Char} {p : Cut} (h : cut? s = some p) :
    cuts s = p :: cuts p.after := by
  rw [cuts]
  split
  · rename_i hp
    rw [h] at hp
    cases hp
  · rename_i q hq
    obtain rfl : p = q := Option.some.inj (h.symm.trans hq)
    rfl

end Placeholder

/-- A placeholder found in a text: where it stands, and its key. -/
structure Placeholder where
  span : Span
  key : String
deriving DecidableEq

namespace Placeholder

/-! ## Spans -/

/-- A cut of the text from a byte offset on, in the bytes of the whole text. -/
def ofCut (offset : Nat) (c : Cut) : Placeholder :=
  let first := offset + Text.Utf8.size c.before
  ⟨⟨first, first + Text.Utf8.size c.inside + 3⟩, String.ofList c.inside⟩

def find? (text : String) (offset : Nat) : Option Placeholder := do
  let rest ← Text.Utf8.drop? offset text.toList
  (cut? rest).map (ofCut offset)

/-- The placeholders of the cuts of a text, which starts at a byte offset. -/
def ofCuts (offset : Nat) : List Cut → List Placeholder
  | [] => []
  | c :: cuts =>
    let p := ofCut offset c
    p :: ofCuts p.span.last cuts

/-- All placeholders of a text that lie in no other one, in order. -/
def all (text : String) : List Placeholder :=
  ofCuts 0 (cuts text.toList)

def occurs (text : String) : Bool :=
  (find? text 0).isSome

def keys (text : String) : List String :=
  (all text).map (·.key)

theorem map_key_ofCuts (offset : Nat) (cuts : List Cut) :
    (ofCuts offset cuts).map (·.key) = cuts.map fun c => String.ofList c.inside := by
  induction cuts generalizing offset with
  | nil => rfl
  | cons c cuts ih => rw [ofCuts, List.map_cons, ih, List.map_cons, ofCut]

theorem keys_eq (text : String) :
    keys text = (cuts text.toList).map fun c => String.ofList c.inside :=
  map_key_ofCuts 0 _

end StepArguments.Placeholder
