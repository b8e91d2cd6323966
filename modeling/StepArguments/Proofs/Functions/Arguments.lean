import Mathlib.Data.List.Forall2
import StepArguments.Functions.Call
import StepArguments.Value.Display

/-! # Arguments, written and split

There are two ways to write an argument so that it comes back as it is: between three quotes, and
with a backslash before each of its commas.  Either may have blanks around it, and both may stand
next to each other in one call (`splitArguments_separated`).

What is read of an argument collects in two places, of which the quoted one counts.  A plain part
of a text goes into the first (`splitFrom_escapeCommas`) and a quoted one into the second
(`splitFrom_quoted`), whatever comes next, as long as no quotes or commas form where two parts
meet.  So each written argument leaves behind what ends as that argument (`Writes.splitFrom`).
-/

namespace StepArguments.Call

variable {current argument rest written : List Char} {verbatim : Option (List Char)} {c : Char}

/-! ## Writing -/

def threeQuotes : List Char := ['"', '"', '"']

/-- A plain argument is written with a backslash before each comma. -/
def escapeCommas (argument : List Char) : List Char :=
  argument.flatMap fun c => if c = ',' then ['\\', ','] else [c]

/-- The ways to write an argument, with blanks on either side. -/
inductive Writes : (written argument : List Char) → Prop
  | quoted {before argument after : List Char} :
      (∀ c ∈ before, Text.isBlank c = true) → (∀ c ∈ after, Text.isBlank c = true) →
      ¬ threeQuotes <:+: argument → argument.getLast? ≠ some '"' →
      Writes (before ++ (threeQuotes ++ argument ++ threeQuotes) ++ after) argument
  | plain {before argument after : List Char} :
      (∀ c ∈ before, Text.isBlank c = true) → (∀ c ∈ after, Text.isBlank c = true) →
      Text.trimChars argument = argument → ¬ threeQuotes <:+: argument →
      argument.getLast? ≠ some '\\' → Writes (before ++ escapeCommas argument ++ after) argument

theorem escapeCommas_comma (argument : List Char) :
    escapeCommas (',' :: argument) = '\\' :: ',' :: escapeCommas argument := rfl

theorem escapeCommas_cons (hComma : c ≠ ',') (argument : List Char) :
    escapeCommas (c :: argument) = c :: escapeCommas argument := by
  rw [escapeCommas, List.flatMap_cons, if_neg hComma]
  rfl

theorem escapeCommas_eq_self (hCommas : ',' ∉ argument) : escapeCommas argument = argument := by
  induction argument with
  | nil => rfl
  | cons c argument ih =>
    rw [List.mem_cons, not_or] at hCommas
    rw [escapeCommas_cons (Ne.symm hCommas.1), ih hCommas.2]

/-! ## Steps of splitting -/

theorem splitFrom_nil : splitFrom current verbatim [] = [finishArgument current verbatim] := by
  rw [splitFrom]

theorem splitFrom_cons : splitFrom current verbatim (c :: rest) =
    match (Text.after? threeQuotes (c :: rest)).bind (Text.cut? threeQuotes) with
    | some (quoted, rest) => splitFrom current (some quoted) rest
    | none =>
      match Text.after? ['\\', ','] (c :: rest) with
      | some rest => splitFrom (',' :: current) verbatim rest
      | none =>
        if c = ',' then finishArgument current verbatim :: splitFrom [] none rest
        else splitFrom (c :: current) verbatim rest := by
  rw [splitFrom]
  split
  · rename_i hQuoted
    rw [threeQuotes, hQuoted]
  · rename_i hPlain
    rw [threeQuotes, hPlain]
    split
    · rename_i hEscaped
      simp only [hEscaped]
    · rename_i hAlone
      simp only [hAlone]

/-- A character at which no quotes begin and that is neither a comma nor a backslash before one. -/
theorem splitFrom_char (hQuotes : ¬ threeQuotes <+: c :: rest) (hComma : c ≠ ',')
    (hEscape : c = '\\' → rest.head? ≠ some ',') :
    splitFrom current verbatim (c :: rest) = splitFrom (c :: current) verbatim rest := by
  have hAlone : ¬ ['\\', ','] <+: c :: rest := by
    rintro ⟨later, hLater⟩
    obtain ⟨rfl, rfl⟩ := List.cons.inj hLater
    exact hEscape rfl rfl
  rw [splitFrom_cons, Text.after?_eq_none_iff.2 hQuotes, Text.after?_eq_none_iff.2 hAlone]
  exact if_neg hComma

theorem splitFrom_escaped :
    splitFrom current verbatim ('\\' :: ',' :: rest) =
      splitFrom (',' :: current) verbatim rest := by
  rw [splitFrom_cons]
  rfl

theorem splitFrom_comma : splitFrom current verbatim (',' :: rest) =
    finishArgument current verbatim :: splitFrom [] none rest := by
  rw [splitFrom_cons]
  rfl

theorem splitFrom_threeQuotes {quoted text : List Char}
    (hClose : Text.cut? threeQuotes text = some (quoted, rest)) :
    splitFrom current verbatim (threeQuotes ++ text) = splitFrom current (some quoted) rest := by
  have hOpen : (Text.after? threeQuotes (threeQuotes ++ text)).bind (Text.cut? threeQuotes) =
      some (quoted, rest) := hClose
  rw [threeQuotes, List.cons_append] at hOpen ⊢
  rw [splitFrom_cons, threeQuotes, hOpen]

/-! ## Where parts meet -/

/-- Three quotes begin in a text that has none in it only if its end and what follows make them. -/
theorem not_threeQuotes_prefix (hArgument : argument ≠ []) (hNone : ¬ threeQuotes <:+: argument)
    (hEnd : argument.getLast? = some '"' → rest.head? ≠ some '"') :
    ¬ threeQuotes <+: argument ++ rest := by
  intro hPrefix
  rcases List.prefix_or_prefix_of_prefix hPrefix (List.prefix_append argument rest) with
    hInside | ⟨later, hLater⟩
  · exact hNone hInside.isInfix
  · have hQuote : ∀ c ∈ argument ++ later, c = '"' := by
      rw [hLater]
      simp [threeQuotes]
    have hLast : argument.getLast? = some '"' := by
      rw [List.getLast?_eq_some_getLast hArgument]
      exact congrArg some (hQuote _ (List.mem_append_left later (List.getLast_mem hArgument)))
    rw [← hLater, List.prefix_append_right_inj] at hPrefix
    cases later with
    | nil =>
      rw [List.append_nil] at hLater
      exact hNone (hLater ▸ List.infix_refl _)
    | cons c later =>
      obtain rfl : c = '"' := hQuote c (by simp)
      obtain ⟨more, rfl⟩ := hPrefix
      exact hEnd hLast rfl

/-- Patterns without commas and backslashes begin where they do without the backslashes. -/
theorem prefix_of_prefix_escapeCommas {pattern : List Char} (hComma : ',' ∉ pattern)
    (hBackslash : '\\' ∉ pattern) (hPrefix : pattern <+: escapeCommas argument ++ rest) :
    pattern <+: argument ++ rest := by
  induction pattern generalizing argument with
  | nil => exact List.nil_prefix
  | cons p pattern ih =>
    rw [List.mem_cons, not_or] at hComma hBackslash
    cases argument with
    | nil => exact hPrefix
    | cons c argument =>
      by_cases hc : c = ','
      · subst hc
        rw [escapeCommas_comma] at hPrefix
        exact absurd (List.cons_prefix_cons.1 hPrefix).1.symm hBackslash.1
      · rw [escapeCommas_cons hc] at hPrefix
        obtain ⟨rfl, hLater⟩ := List.cons_prefix_cons.1 hPrefix
        exact List.cons_prefix_cons.2 ⟨rfl, ih hComma.2 hBackslash.2 hLater⟩

/-- No comma comes first where a plain argument goes on. -/
theorem head?_escapeCommas_append (hRest : argument = [] → rest.head? ≠ some ',') :
    (escapeCommas argument ++ rest).head? ≠ some ',' := by
  cases argument with
  | nil => exact hRest rfl
  | cons c argument =>
    by_cases hc : c = ','
    · subst hc
      simp [escapeCommas_comma]
    · simp [escapeCommas_cons hc, hc]

/-! ## Parts of an argument -/

/-- A plain part goes to what is read of the argument, as it was before its commas were escaped. -/
theorem splitFrom_escapeCommas (hNone : ¬ threeQuotes <:+: argument)
    (hQuote : argument.getLast? = some '"' → rest.head? ≠ some '"')
    (hBackslash : argument.getLast? = some '\\' → rest.head? ≠ some ',') :
    splitFrom current verbatim (escapeCommas argument ++ rest) =
      splitFrom (argument.reverse ++ current) verbatim rest := by
  induction argument generalizing current with
  | nil => rfl
  | cons c argument ih =>
    have hLater : ¬ threeQuotes <:+: argument :=
      fun hInside => hNone (hInside.trans (List.suffix_cons c argument).isInfix)
    have hEnd {d : Char} (hLast : argument.getLast? = some d) :
        (c :: argument).getLast? = some d := by
      rw [List.getLast?_cons, hLast, Option.getD_some]
    have hRest := @ih (c :: current) hLater (fun hLast => hQuote (hEnd hLast))
      fun hLast => hBackslash (hEnd hLast)
    rw [List.reverse_cons, List.append_assoc, List.singleton_append, ← hRest]
    by_cases hComma : c = ','
    · subst hComma
      rw [escapeCommas_comma, List.cons_append, List.cons_append, splitFrom_escaped]
    · have hStart := not_threeQuotes_prefix (List.cons_ne_nil c argument) hNone hQuote
      rw [escapeCommas_cons hComma, List.cons_append]
      apply splitFrom_char _ hComma
      · rintro rfl
        apply head?_escapeCommas_append
        rintro rfl
        exact hBackslash rfl
      · intro hPrefix
        rw [← List.cons_append, ← escapeCommas_cons hComma] at hPrefix
        exact hStart (prefix_of_prefix_escapeCommas (by decide) (by decide) hPrefix)

theorem splitFrom_blanks (hBlank : ∀ c ∈ argument, Text.isBlank c = true) :
    splitFrom current verbatim (argument ++ rest) =
      splitFrom (argument.reverse ++ current) verbatim rest := by
  have hNot {c : Char} (hc : Text.isBlank c = false) : c ∉ argument := by
    intro hMem
    rw [hBlank c hMem] at hc
    cases hc
  have hNone : ¬ threeQuotes <:+: argument :=
    fun hInside => hNot (by decide) (hInside.mem (List.mem_cons_self (a := '"')))
  have hLast {c : Char} (hc : Text.isBlank c = false) : argument.getLast? ≠ some c :=
    fun hSome => hNot hc (List.mem_of_getLast? hSome)
  have hWritten : escapeCommas argument = argument := escapeCommas_eq_self (hNot (by decide))
  have hSplit := @splitFrom_escapeCommas current argument rest verbatim hNone
    (fun hSome => absurd hSome (hLast (by decide))) fun hSome => absurd hSome (hLast (by decide))
  rwa [hWritten] at hSplit

/-- A quoted part takes the place of whatever was quoted before, and nothing in it is read. -/
theorem splitFrom_quoted (hNone : ¬ threeQuotes <:+: argument)
    (hEnd : argument.getLast? ≠ some '"') :
    splitFrom current verbatim (threeQuotes ++ (argument ++ threeQuotes ++ rest)) =
      splitFrom current (some argument) rest := by
  apply splitFrom_threeQuotes
  apply Text.cut?_append_pattern
  rintro before after rfl hAfter
  rw [List.append_assoc]
  apply not_threeQuotes_prefix hAfter
  · exact fun hInside => hNone (hInside.trans (List.suffix_append before after).isInfix)
  · intro hLast
    rw [List.getLast?_append, hLast] at hEnd
    exact absurd rfl hEnd

/-! ## Arguments of a call -/

/-- Up to a comma or the end of the text a written argument leaves what ends as the argument. -/
theorem Writes.splitFrom (writes : Writes written argument)
    (hRest : ∀ c, rest.head? = some c → c = ',') :
    ∃ current verbatim, Call.splitFrom [] none (written ++ rest) =
        Call.splitFrom current verbatim rest ∧
      finishArgument current verbatim = String.ofList argument := by
  cases writes with
  | @quoted before argument after hBefore hAfter hNone hEnd =>
    refine ⟨after.reverse ++ (before.reverse ++ []), some argument, ?_, rfl⟩
    rw [List.append_assoc, List.append_assoc, splitFrom_blanks hBefore, List.append_assoc,
      List.append_assoc, ← List.append_assoc argument, splitFrom_quoted hNone hEnd,
      splitFrom_blanks hAfter]
  | @plain before argument after hBefore hAfter hTrimmed hNone hEnd =>
    have hQuote : (after ++ rest).head? ≠ some '"' := by
      intro hHead
      cases after with
      | nil => exact absurd (hRest _ hHead) (by decide)
      | cons c after =>
        obtain rfl : c = '"' := Option.some.inj hHead
        exact absurd (hAfter '"' List.mem_cons_self) (by decide)
    refine ⟨after.reverse ++ (argument.reverse ++ (before.reverse ++ [])), none, ?_, ?_⟩
    · rw [List.append_assoc, List.append_assoc, splitFrom_blanks hBefore,
        splitFrom_escapeCommas hNone (fun _ => hQuote) fun hLast => absurd hLast hEnd,
        splitFrom_blanks hAfter]
    · rw [finishArgument, Option.getD_none]
      simp only [List.append_nil, List.reverse_append, List.reverse_reverse]
      rw [Text.trimChars_append_blank hAfter, Text.trimChars_blank_append hBefore, hTrimmed]

theorem splitFrom_separated {writings arguments : List (List Char)}
    (writes : List.Forall₂ Writes writings arguments) (hSome : arguments ≠ []) :
    Call.splitFrom [] none (separated [','] writings) = arguments.map String.ofList := by
  induction writes with
  | nil => exact absurd rfl hSome
  | @cons written argument writings arguments first later ih =>
    cases later with
    | nil =>
      obtain ⟨current, verbatim, hSplit, hFinish⟩ := @Writes.splitFrom _ [] _ first (by simp)
      rw [List.append_nil, splitFrom_nil, hFinish] at hSplit
      exact hSplit
    | @cons next _ writings _ _ _ =>
      have hText : separated [','] (written :: next :: writings) =
          written ++ ',' :: separated [','] (next :: writings) := by
        simp [separated]
      obtain ⟨current, verbatim, hSplit, hFinish⟩ :=
        @Writes.splitFrom _ (',' :: separated [','] (next :: writings)) _ first (by simp)
      rw [hText, hSplit, splitFrom_comma, hFinish, ih (List.cons_ne_nil _ _)]
      rfl

/-- Arguments that are written with commas between them are what a call splits them into: none is
    joined with the next one or divided, and each is the text that was written. -/
theorem splitArguments_separated (writings arguments : List (List Char))
    (writes : List.Forall₂ Writes writings arguments) (hSome : arguments ≠ []) :
    splitArguments (String.ofList (separated [','] writings)) = arguments.map String.ofList := by
  rw [splitArguments, String.toList_ofList]
  exact splitFrom_separated writes hSome

/-- A backslash before a comma, blanks, commas and a backslash between quotes, quotes on their own,
    an empty argument between blanks, and a quote that comes first between quotes. -/
def patternWritings : List String :=
  [" a\\\\,\"b\t", "\"\"\" x, \\\"\"\"  ", "\"\"", "  ", "\"\"\"\"(,\"\"\""]

def patternArguments : List String :=
  ["a\\,\"b", " x, \\", "\"\"", "", "\"(,"]

theorem splitArguments_separated_patterns :
    List.Forall₂ Writes (patternWritings.map String.toList) (patternArguments.map String.toList) ∧
      splitArguments " a\\\\,\"b\t,\"\"\" x, \\\"\"\"  ,\"\",  ,\"\"\"\"(,\"\"\"" =
        patternArguments := by
  have space : ∀ c ∈ [' '], Text.isBlank c = true := by simp
  have tab : ∀ c ∈ ['\t'], Text.isBlank c = true := List.forall_mem_singleton.2 (by decide)
  have empty : ∀ c ∈ ([] : List Char), Text.isBlank c = true := List.forall_mem_nil _
  have first : Writes " a\\\\,\"b\t".toList "a\\,\"b".toList :=
    @Writes.plain [' '] "a\\,\"b".toList ['\t'] space tab (by decide) (by decide) (by decide)
  have second : Writes "\"\"\" x, \\\"\"\"  ".toList " x, \\".toList :=
    @Writes.quoted [] " x, \\".toList [' ', ' '] empty (by simp) (by decide) (by decide)
  have third : Writes "\"\"".toList "\"\"".toList :=
    @Writes.plain [] "\"\"".toList [] empty empty (by decide) (by decide) (by decide)
  have fourth : Writes "  ".toList "".toList :=
    @Writes.plain [' '] [] [' '] space space (by decide) (by decide) (by decide)
  have fifth : Writes "\"\"\"\"(,\"\"\"".toList "\"(,".toList :=
    @Writes.quoted [] "\"(,".toList [] empty empty (by decide) (by decide)
  have writes : List.Forall₂ Writes (patternWritings.map String.toList)
      (patternArguments.map String.toList) :=
    .cons first (.cons second (.cons third (.cons fourth (.cons fifth .nil))))
  have hSplit := splitArguments_separated _ _ writes (by simp [patternArguments])
  rw [List.map_map, Function.comp_def] at hSplit
  simp only [String.ofList_toList, List.map_id'] at hSplit
  exact ⟨writes, hSplit⟩

end StepArguments.Call
