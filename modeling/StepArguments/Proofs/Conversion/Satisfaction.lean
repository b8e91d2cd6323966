import StepArguments.Conversion

/-! # Converted values fit their type

What `convertText` reads a text as can be used for the type as it is (`satisfiedBy_of_convertText`),
with the one exception of a block of steps: its text is kept, and no value satisfies that type.  The
elements of a list are not looked at by `TargetType.satisfiedBy`; those of a list between commas fit
their type nonetheless (`exists_items_of_convertText`), as each of them is converted by itself.
-/

namespace StepArguments

/-! ## Types and values -/

namespace TargetType

/-- The type inside all the optional ones around it. -/
def innermost : TargetType → TargetType
  | .optional inner => inner.innermost
  | target => target

/-- The cells of a table do not count for its type. -/
theorem satisfiedBy_table (target : TargetType) (headers headers' : List String)
    (rows rows' : List Bindings) :
    target.satisfiedBy (.table headers rows) = target.satisfiedBy (.table headers' rows') := by
  induction target with
  | optional inner ih => exact ih
  | _ => rfl

theorem satisfiedBy_optional {inner : TargetType} {value : Value}
    (hInner : inner.satisfiedBy value = true) : (optional inner).satisfiedBy value = true := by
  cases value with
  | null => rfl
  | _ => exact hInner

end TargetType

/-! ## Items -/

theorem exists_of_map_eq_ok {α β ε : Type} {f : α → β} {attempt : Except ε α} {result : β}
    (h : attempt.map f = .ok result) : ∃ a, attempt = .ok a ∧ f a = result := by
  cases attempt with
  | error error => cases h
  | ok a => exact ⟨a, rfl, Except.ok.inj h⟩

theorem exists_mem_of_mapM_eq_ok {α β ε : Type} {f : α → Except ε β} {items : List α}
    {results : List β} (h : items.mapM f = .ok results) :
    results.length = items.length ∧ ∀ result ∈ results, ∃ item ∈ items, f item = .ok result := by
  induction items generalizing results with
  | nil =>
    obtain rfl : [] = results := Except.ok.inj h
    simp
  | cons item items ih =>
    rw [List.mapM_cons] at h
    cases hFirst : f item with
    | error error =>
      rw [hFirst] at h
      cases h
    | ok first =>
      cases hRest : items.mapM f with
      | error error =>
        rw [hFirst, hRest] at h
        cases h
      | ok rest =>
        obtain ⟨hLength, hItems⟩ := ih hRest
        rw [hFirst, hRest] at h
        obtain rfl : first :: rest = results := Except.ok.inj h
        refine ⟨by simp [hLength], List.forall_mem_cons.2 ⟨⟨item, by simp, hFirst⟩, ?_⟩⟩
        intro result hResult
        obtain ⟨other, hOther, hValue⟩ := hItems result hResult
        exact ⟨other, List.mem_cons_of_mem item hOther, hValue⟩

theorem convertText_list_of_items {text : String} {element : TargetType}
    (hItems : Text.trimChars text.toList ≠ [])
    (hOpening : (Text.trimChars text.toList).head? ≠ some '[') :
    convertText text (.list element) =
      ((Text.splitAt ',' (Text.trimChars text.toList)).mapM fun item =>
        convertText (String.ofList (Text.trimChars item)) element).map .list := by
  rw [convertText]
  split
  · rename_i hEmpty
    exact absurd hEmpty hItems
  · rename_i hBracket
    rw [hBracket] at hOpening
    exact absurd rfl hOpening
  · rfl

/-! ## Satisfaction -/

theorem satisfiedBy_of_convertText {text : String} {target : TargetType} {value : Value}
    (hTarget : target.innermost ≠ .steps) (hConvert : convertText text target = .ok value) :
    target.satisfiedBy value = true := by
  induction target generalizing text value with
  | text =>
    obtain rfl := Except.ok.inj hConvert
    rfl
  | any => rfl
  | steps => exact absurd rfl hTarget
  | integer | float | boolean | table =>
    rw [convertText] at hConvert
    split at hConvert
    · obtain rfl := Except.ok.inj hConvert
      rfl
    · cases hConvert
  | bytes =>
    obtain rfl := Except.ok.inj hConvert
    rfl
  | list element _ =>
    rw [convertText] at hConvert
    split at hConvert
    · obtain rfl := Except.ok.inj hConvert
      rfl
    · split at hConvert
      · obtain rfl := Except.ok.inj hConvert
        rfl
      · cases hConvert
      · cases hConvert
    · obtain ⟨items, -, rfl⟩ := exists_of_map_eq_ok hConvert
      rfl
  | map =>
    rw [convertText] at hConvert
    split at hConvert
    · obtain rfl := Except.ok.inj hConvert
      rfl
    · cases hConvert
    · cases hConvert
  | optional inner ih =>
    rw [convertText] at hConvert
    split at hConvert
    · obtain rfl := Except.ok.inj hConvert
      rfl
    · exact TargetType.satisfiedBy_optional (ih hTarget hConvert)

/-- A text of items between commas converts to a list of as many elements, each of which satisfies
    the type of the elements. -/
theorem exists_items_of_convertText {text : String} {element : TargetType} {value : Value}
    (hElement : element.innermost ≠ .steps) (hItems : Text.trimChars text.toList ≠ [])
    (hOpening : (Text.trimChars text.toList).head? ≠ some '[')
    (hConvert : convertText text (.list element) = .ok value) :
    ∃ items, value = .list items ∧
      items.length = (Text.splitAt ',' (Text.trimChars text.toList)).length ∧
      ∀ item ∈ items, element.satisfiedBy item = true := by
  rw [convertText_list_of_items hItems hOpening] at hConvert
  obtain ⟨items, hValues, rfl⟩ := exists_of_map_eq_ok hConvert
  obtain ⟨hLength, hEach⟩ := exists_mem_of_mapM_eq_ok hValues
  refine ⟨items, rfl, hLength, fun item hItem => ?_⟩
  obtain ⟨piece, -, hPiece⟩ := hEach item hItem
  exact satisfiedBy_of_convertText hElement hPiece

end StepArguments
