import StepArguments.Proofs.Variables.Navigation

/-! # Text behind an index

Behind the bracket that closes an index a path ends or goes on with a dot.  Any other text there is
meant to spoil the path, but it is dropped, and the path is read as if it ended with the index
(`Path.Trails.parse?_eq`).  A second index is such a text: a name with two of them gives the whole
list that the first one picks (`Store.resolve?_twice`).

`dropsNothing_iff` says which paths and keys are spared, and `not_dropsNothing` gives two that are
not.
-/

namespace StepArguments

namespace Path

variable {path root digits text : List Char}

/-- A path that goes on, up to its first colon, with a text behind the index of its root, and this
    text does not start with a dot. -/
structure Trails (path root digits text : List Char) : Prop where
  written : path.takeWhile (· != ':') = root ++ '[' :: digits ++ ']' :: text
  undivided : ∀ c ∈ root, c ≠ '[' ∧ c ≠ '.'
  closed : ']' ∉ digits
  notEmpty : text ≠ []
  noDot : text.head? ≠ some '.'

/-- The text has no part in what is read. -/
theorem Trails.parse?_eq (trails : Trails path root digits text) :
    parse? path =
      if root = [] then none
      else (Decimal.readIndex? digits).map fun index => ⟨root, some index, none⟩ := by
  have hColon : ':' ∉ root ++ ('[' :: digits ++ ']' :: text) := by
    rw [← List.append_assoc, ← trails.written]
    intro hMem
    simpa using List.mem_takeWhile_imp hMem
  have hParse := parse?_append hColon trails.undivided (by simp)
  rw [readIndex?_bracket trails.closed] at hParse
  rw [← parse?_takeWhile, trails.written, List.append_assoc, hParse]
  cases Decimal.readIndex? digits with
  | none => rfl
  | some index => simp [readRest_of_no_dot trails.noDot]

/-- The intended rule: text without a dot behind an index spoils the path. -/
def RefusesText (path : List Char) : Prop :=
  ∀ root digits text, Trails path root digits text → parse? path = none

/-- Text behind an index is refused only along with the rest of the path. -/
theorem refusesText_iff : RefusesText path ↔
    ∀ root digits text, Trails path root digits text →
      root = [] ∨ Decimal.readIndex? digits = none := by
  have hNone {root digits text : List Char} (trails : Trails path root digits text) :
      parse? path = none ↔ root = [] ∨ Decimal.readIndex? digits = none := by
    rw [trails.parse?_eq]
    by_cases hRoot : root = [] <;> simp [hRoot]
  constructor
  · intro rule root digits text trails
    exact (hNone trails).1 (rule root digits text trails)
  · intro hSpoilt root digits text trails
    exact (hNone trails).2 (hSpoilt root digits text trails)

end Path

namespace Resolved

theorem orEnvironment_inj {key : String} {scope : Scope} {e : Environment}
    {found other : Option Value} (hScope : scope ≠ .environment) :
    orEnvironment key scope e found = orEnvironment key scope e other ↔ found = other := by
  have hLayer {value : Value} : some ⟨key, value, scope⟩ ≠
      (e.get? key).map fun text => (⟨key, .text text, .environment⟩ : Resolved) := by
    intro hSame
    obtain ⟨text, -, hText⟩ := Option.map_eq_some_iff.1 hSame.symm
    injection hText with _ _ hEnvironment
    exact hScope hEnvironment.symm
  refine ⟨fun hSame => ?_, congrArg _⟩
  cases found <;> cases other
  · rfl
  · exact absurd hSame.symm hLayer
  · exact absurd hSame hLayer
  · simpa [orEnvironment] using hSame

end Resolved

/-- No list is one of its own items. -/
theorem Value.list_not_mem (row : List Value) : Value.list row ∉ row := by
  intro hMem
  have hSmaller := List.sizeOf_lt_of_mem hMem
  simp at hSmaller

/-! ## Two indexes -/

/-- A name with two indexes behind it. -/
def Key.twice (name : String) (i j : Nat) : String :=
  String.ofList (name.toList ++ indexChars i ++ indexChars j)

variable {name : String} {i j : Nat} {rows : List (List Value)}

theorem Key.not_mem_colon_twice (plain : Key.Plain name) (i j : Nat) :
    ':' ∉ (Key.twice name i j).toList := by
  simp [twice, not_mem_colon_indexChars, plain.not_mem_colon]

theorem Path.trails_twice (plain : Key.Plain name) (i j : Nat) :
    Trails (Key.twice name i j).toList name.toList (Decimal.digitChars i) (indexChars j) where
  written := by
    rw [takeWhile_colon (Key.not_mem_colon_twice plain i j)]
    simp [Key.twice, indexChars]
  undivided c hc := (plain c hc).2.symm
  closed := Decimal.not_mem_digitChars (by decide) i
  notEmpty := by simp [indexChars]
  noDot := by simp [indexChars]

theorem Path.parse?_twice (plain : Key.Plain name) (i j : Nat) :
    parse? (Key.twice name i j).toList =
      if name ≠ "" ∧ i < 2 ^ 64 then some ⟨name.toList, some i, none⟩ else none := by
  rw [(trails_twice plain i j).parse?_eq, Decimal.readIndex?_digitChars]
  by_cases hName : name = ""
  · simp [hName]
  · by_cases hSmall : i < 2 ^ 64 <;> simp only [hSmall] <;> simp [hName]

/-- What the first of two indexes picks from the value of a name.  The empty name leads nowhere, nor
    does an index beyond 64 bits. -/
def pickFirst? (name : String) (i : Nat) (value : Value) : Option Value :=
  if name ≠ "" ∧ i < 2 ^ 64 then Value.itemAt? (some i) value else none

theorem pickFirst?_list : pickFirst? name i (.list (rows.map .list)) =
    if name ≠ "" ∧ i < 2 ^ 64 then rows[i]?.map .list else none := by
  have hItem : Value.itemAt? (some i) (.list (rows.map .list)) = rows[i]?.map .list := by
    rw [Value.itemAt?, List.getElem?_map]
    cases rows[i]? <;> rfl
  rw [pickFirst?, hItem]

theorem pickFirst?_eq_none_iff : pickFirst? name i (.list (rows.map .list)) = none ↔
    name = "" ∨ 2 ^ 64 ≤ i ∨ rows.length ≤ i := by
  rw [pickFirst?_list]
  by_cases hRead : name ≠ "" ∧ i < 2 ^ 64
  · obtain ⟨hName, hSmall⟩ := hRead
    rw [if_pos ⟨hName, hSmall⟩, Option.map_eq_none_iff, List.getElem?_eq_none_iff]
    simp only [hName, Nat.not_le.2 hSmall, false_or]
  · have hUnread : name = "" ∨ 2 ^ 64 ≤ i := by grind
    simp only [if_neg hRead, ← or_assoc, hUnread, true_or]

theorem Bindings.find?_twice {bindings : Bindings} (plain : Key.Plain name)
    (unbound : bindings.value? (Key.twice name i j) = none) :
    bindings.find? (.parse (Key.twice name i j)) =
      (bindings.value? name).bind (pickFirst? name i) := by
  have hKey := Key.not_mem_colon_twice plain i j
  have hParse := Path.parse?_twice plain i j
  by_cases hRead : name ≠ "" ∧ i < 2 ^ 64
  · -- the way ends with the item, whatever the second index is
    rw [if_pos hRead] at hParse
    rw [bindings.find?_of_no_rest hKey hParse, unbound, Option.none_or]
    apply Option.bind_congr
    intro value _
    exact (if_pos hRead).symm
  · rw [if_neg hRead] at hParse
    rw [find?_of_not_mem bindings hKey, unbound, Option.none_or, follow?_of_parse?_eq_none hParse]
    cases bindings.value? name with
    | none => rfl
    | some value => exact (if_neg hRead).symm

namespace Store

variable {s : Store} {e : Environment} {scope : Scope}

/-- Of two indexes the second one is dropped. -/
theorem resolve?_twice (plain : Key.Plain name)
    (bound : s.BoundOnce name scope (.list (rows.map .list)))
    (unbound : ∀ bindings ∈ s.contents, bindings.value? (Key.twice name i j) = none) :
    s.resolve? e (Key.twice name i j) =
      Resolved.orEnvironment (Key.twice name i j) scope e
        (pickFirst? name i (.list (rows.map .list))) := by
  apply resolve?_eq_orEnvironment (Key.not_mem_colon_twice plain i j)
  apply bound.inLayers?_of_reads
  exact fun bindings hLayer => Bindings.find?_twice plain (unbound bindings hLayer)

/-- The intended rule: a key with two indexes gives the item that the second one picks from the
    list that the first one picks.  Without such an item it is left to the environment. -/
def PicksTwice (s : Store) (e : Environment) (name : String) (scope : Scope)
    (rows : List (List Value)) (i j : Nat) : Prop :=
  s.resolve? e (Key.twice name i j) =
    Resolved.orEnvironment (Key.twice name i j) scope e
      (Value.present? (rows[i]?.bind fun row => row[j]?))

theorem BoundOnce.scope_ne_environment {value : Value} (bound : s.BoundOnce name scope value) :
    scope ≠ .environment := by
  obtain ⟨inner, bindings, outer, hLayers, -⟩ := bound
  have hMem : (scope, bindings) ∈ s.layers := by simp [hLayers]
  have hScope : scope ∈ Scope.ofLayers := mem_ofLayers hMem
  rintro rfl
  simp [Scope.ofLayers] at hScope

theorem picksTwice_iff (plain : Key.Plain name)
    (bound : s.BoundOnce name scope (.list (rows.map .list)))
    (unbound : ∀ bindings ∈ s.contents, bindings.value? (Key.twice name i j) = none) :
    s.PicksTwice e name scope rows i j ↔
      (name = "" ∨ 2 ^ 64 ≤ i ∨ rows.length ≤ i) ∧
        Value.present? (rows[i]?.bind fun row => row[j]?) = none := by
  rw [PicksTwice, resolve?_twice plain bound unbound,
    Resolved.orEnvironment_inj bound.scope_ne_environment, ← pickFirst?_eq_none_iff]
  constructor
  · intro hSame
    cases hPicked : pickFirst? name i (.list (rows.map .list)) with
    | none => exact ⟨rfl, hSame ▸ hPicked⟩
    | some value =>
      -- a list would be one of its own items
      obtain ⟨row, hRow, rfl⟩ : ∃ row, rows[i]? = some row ∧ .list row = value := by
        rw [pickFirst?_list, Option.ite_none_right_eq_some] at hPicked
        exact Option.map_eq_some_iff.1 hPicked.2
      rw [hPicked, hRow, Option.bind_some] at hSame
      obtain ⟨hItem, -⟩ := Value.present?_eq_some_iff.1 hSame.symm
      exact absurd (List.mem_of_getElem? hItem) (Value.list_not_mem row)
  · rintro ⟨hPicked, hItem⟩
    rw [hPicked, hItem]

/-- Text behind an index is refused only where the path is refused without it.  Of two indexes the
    first one alone decides on the answer, which is right only where neither of them picks
    anything. -/
theorem dropsNothing_iff (e : Environment) (plain : Key.Plain name)
    (bound : s.BoundOnce name scope (.list (rows.map .list)))
    (unbound : ∀ bindings ∈ s.contents, bindings.value? (Key.twice name i j) = none) :
    (∀ path, Path.RefusesText path ↔
      ∀ root digits text, Path.Trails path root digits text →
        root = [] ∨ Decimal.readIndex? digits = none) ∧
      s.resolve? e (Key.twice name i j) = Resolved.orEnvironment (Key.twice name i j) scope e
        (pickFirst? name i (.list (rows.map .list))) ∧
      (s.PicksTwice e name scope rows i j ↔
        (name = "" ∨ 2 ^ 64 ≤ i ∨ rows.length ≤ i) ∧
          Value.present? (rows[i]?.bind fun row => row[j]?) = none) :=
  ⟨fun _ => Path.refusesText_iff, resolve?_twice plain bound unbound,
    picksTwice_iff plain bound unbound⟩

/-- Two lists of numbers under one name. -/
def matrix : List (List Value) :=
  [[.integer 1, .integer 2], [.integer 3]]

def matrixStore : Store where
  story := [("m", .list (matrix.map .list))]

theorem boundOnce_matrix : matrixStore.BoundOnce "m" .story (.list (matrix.map .list)) := by
  refine .within [(.scenario, [])] [("m", .list (matrix.map .list))] [(.batch, [])] rfl rfl nofun ?_
  simp

theorem value?_matrixStore (key : String) (hKey : key ≠ "m") :
    ∀ bindings ∈ matrixStore.contents, bindings.value? key = none := by
  simp [contents_eq, matrixStore, Bindings.value?, Value.present?, Named.get?_cons, hKey]

/-- There is no third list, and so no number in it. -/
theorem dropsNothing_matrix :
    Key.Plain "m" ∧ matrixStore.PicksTwice .empty "m" .story matrix 2 0 := by
  have plain : Key.Plain "m" := by simp [Key.Plain]
  have unbound := value?_matrixStore (Key.twice "m" 2 0) (by decide)
  obtain ⟨-, -, hRule⟩ := dropsNothing_iff .empty plain boundOnce_matrix unbound
  exact ⟨plain, hRule.2 ⟨.inr (.inr (by simp [matrix])), rfl⟩⟩

/-- The second index of a key gives the whole list, and so does a letter in its place. -/
theorem not_dropsNothing :
    ¬ Path.RefusesText "m[0]x".toList ∧ ¬ matrixStore.PicksTwice .empty "m" .story matrix 0 1 := by
  constructor
  · intro rule
    have trails : Path.Trails "m[0]x".toList ['m'] ['0'] ['x'] := by
      constructor <;> simp
    have hNone := rule _ _ _ trails
    have hRead : Path.parse? "m[0]x".toList = some ⟨['m'], some 0, none⟩ := rfl
    rw [hRead] at hNone
    cases hNone
  · intro rule
    have plain : Key.Plain "m" := by simp [Key.Plain]
    have unbound := value?_matrixStore (Key.twice "m" 0 1) (by decide)
    have hList : matrixStore.resolve? .empty (Key.twice "m" 0 1) =
        some ⟨Key.twice "m" 0 1, .list [.integer 1, .integer 2], .story⟩ := by
      rw [resolve?_twice plain boundOnce_matrix unbound]
      rfl
    have hItem : Resolved.orEnvironment (Key.twice "m" 0 1) .story .empty
        (Value.present? (matrix[0]?.bind fun row => row[1]?)) =
          some ⟨Key.twice "m" 0 1, .integer 2, .story⟩ := rfl
    rw [PicksTwice, hList, hItem] at rule
    simp at rule

end Store

end StepArguments
