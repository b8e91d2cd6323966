import Mathlib.Data.List.Basic
import StepArguments.Proofs.Variables.Merged

/-! # Keys with a default

A default changes nothing about a key that a layer answers.  It takes part in each of the three
look-ups in a layer: the key is looked up with it and without it, and it stands behind the path that
is followed.  But a path ends at its first colon (`Path.parse?_append_default`), and so a layer that
does not bind the whole text has with the default what it has without it
(`Bindings.find?_withDefault`).  `resolve?_conservative` says what this comes to for a store.
-/

namespace StepArguments

/-- The text of a key with a default behind it. -/
def Key.withDefault (name default : String) : String :=
  name ++ ":" ++ default

variable {name default key : String} {bindings : Bindings} {path other : List Char}

namespace Key

theorem toList_withDefault (name default : String) :
    (withDefault name default).toList = name.toList ++ ':' :: default.toList := by
  simp [withDefault]

/-- Only the first colon counts; further ones belong to the default. -/
theorem parse_withDefault (hName : ':' ∉ name.toList) (default : String) :
    parse (withDefault name default) = ⟨withDefault name default, name, some default⟩ := by
  rw [parse, toList_withDefault, Text.cut?_append hName]
  simp

end Key

/-! ## One layer -/

namespace Bindings

/-- A path that ends at its root gives what the index picks. -/
theorem find?_of_no_rest {root : String} {index : Option Nat} (bindings : Bindings)
    (hKey : ':' ∉ key.toList)
    (hPath : Path.parse? key.toList = some ⟨root.toList, index, none⟩) :
    bindings.find? (.parse key) =
      (bindings.value? key).or ((bindings.value? root).bind (Value.itemAt? index)) := by
  have hItem (value : Value) :
      (Value.itemAt? index value).bind (Value.fieldAt? none) = Value.itemAt? index value :=
    Option.bind_fun_some _
  rw [find?_of_not_mem bindings hKey, follow?_of_parse?_eq_some hPath, String.ofList_toList]
  simp only [hItem]

theorem follow?_congr (hPath : Path.parse? path = Path.parse? other) :
    bindings.follow? path = bindings.follow? other := by
  cases hParse : Path.parse? path with
  | none =>
    rw [follow?_of_parse?_eq_none hParse, follow?_of_parse?_eq_none (hPath ▸ hParse)]
  | some p =>
    rw [follow?_of_parse?_eq_some hParse, follow?_of_parse?_eq_some (hPath ▸ hParse)]

/-- A layer has for a key with a default what it has for the key without it. -/
theorem find?_withDefault (hName : ':' ∉ name.toList)
    (hLiteral : bindings.value? (Key.withDefault name default) = none) :
    bindings.find? (.parse (Key.withDefault name default)) = bindings.find? (.parse name) := by
  have hPath : bindings.follow? (Key.withDefault name default).toList =
      bindings.follow? name.toList := by
    rw [Key.toList_withDefault]
    exact follow?_congr (Path.parse?_append_default hName)
  rw [find?_of_not_mem bindings hName, Key.parse_withDefault hName, find?, hLiteral, hPath]
  rfl

end Bindings

/-! ## All layers -/

namespace Resolved

/-- The answer to a key without a default: a value of a layer, or else the text of the
    environment. -/
def orEnvironment (key : String) (scope : Scope) (e : Environment) : Option Value → Option Resolved
  | some value => some ⟨key, value, scope⟩
  | none => (e.get? key).map fun text => ⟨key, .text text, .environment⟩

/-- The answer to a key with a default: a value of a layer, or else the default. -/
def orDefault (key : String) (scope : Scope) (default : String) : Option Value → Resolved
  | some value => ⟨key, value, scope⟩
  | none => ⟨key, .text default, .default⟩

end Resolved

namespace Store

variable {s : Store} {e : Environment} {scope : Scope} {value : Value} {found : Option Value}

/-- Layers that have the same for two keys answer both alike. -/
theorem inLayers?_congr {key other : Key}
    (hSame : ∀ bindings ∈ s.contents, bindings.find? key = bindings.find? other) :
    s.inLayers? key = s.inLayers? other := by
  rw [inLayers?_eq, inLayers?_eq, ← List.head?_filterMap, ← List.head?_filterMap]
  congr 1
  apply List.filterMap_congr
  intro layer hLayer
  rw [hSame layer.2 (List.mem_map_of_mem hLayer)]

/-- What the layers have for a key without a default is left to nothing but the environment. -/
theorem resolve?_eq_orEnvironment (hKey : ':' ∉ key.toList)
    (hLayers : s.inLayers? (.parse key) = found.map (·, scope)) :
    s.resolve? e key = Resolved.orEnvironment key scope e found := by
  rw [resolve?, hLayers, Key.parse_of_not_mem hKey]
  cases found <;> rfl

/-- Behind a default nothing is left to the environment. -/
theorem resolve?_eq_orDefault (hName : ':' ∉ name.toList)
    (hLiteral : ∀ bindings ∈ s.contents, bindings.value? (Key.withDefault name default) = none)
    (hLayers : s.inLayers? (.parse name) = found.map (·, scope)) :
    s.resolve? e (Key.withDefault name default) =
      some (Resolved.orDefault (Key.withDefault name default) scope default found) := by
  have hSame : s.inLayers? (.parse (Key.withDefault name default)) = found.map (·, scope) := by
    rw [← hLayers]
    apply inLayers?_congr
    exact fun bindings hLayer => Bindings.find?_withDefault hName (hLiteral bindings hLayer)
  rw [resolve?, hSame, Key.parse_withDefault hName]
  cases found <;> rfl

/-- If no layer binds the text of a key with its default, the default changes no answer that a layer
    gives without it.  Where no layer gives one the default is the answer, whatever the environment
    has. -/
theorem resolve?_conservative (s : Store) (e : Environment) {name default : String}
    (hName : ':' ∉ name.toList)
    (hLiteral : ∀ bindings ∈ s.contents, bindings.value? (Key.withDefault name default) = none) :
    (∀ value, ∀ scope ∈ Scope.ofLayers, s.resolve? e name = some ⟨name, value, scope⟩ →
      s.resolve? e (Key.withDefault name default) =
        some ⟨Key.withDefault name default, value, scope⟩) ∧
      ((¬ ∃ value, ∃ scope ∈ Scope.ofLayers, s.resolve? e name = some ⟨name, value, scope⟩) →
        s.resolve? e (Key.withDefault name default) =
          some ⟨Key.withDefault name default, .text default, .default⟩) := by
  constructor
  · intro value scope hScope hAnswer
    have hLayers : s.inLayers? (.parse name) = (some value).map (·, scope) :=
      inLayers?_eq_some_iff.2 ⟨hScope, hAnswer⟩
    exact resolve?_eq_orDefault hName hLiteral hLayers
  · intro hUnanswered
    have hLayers : s.inLayers? (.parse name) = none := by
      rw [Option.eq_none_iff_forall_ne_some]
      rintro ⟨value, scope⟩ hAnswer
      exact hUnanswered ⟨value, scope, inLayers?_eq_some_iff.1 hAnswer⟩
    -- the scope is not looked at where there is no value
    have hNone : s.inLayers? (.parse name) = none.map (·, Scope.batch) := hLayers
    exact resolve?_eq_orDefault hName hLiteral hNone

/-- A list with one item in the scenario, to whose name a step binds the absent value. -/
def shelf : Store where
  frames := [[("rows", .null)]]
  scenario := [("rows", .list [.text "ink"])]

/-- A process with variables whose names are texts of keys. -/
def process : Environment where
  entries := [("rows[1]", Text.Utf8.encode "blue".toList),
    ("rows[1]:none:at all", Text.Utf8.encode "red".toList)]

theorem inLayers?_shelf : shelf.inLayers? (.parse "rows[0]") = some (.text "ink", .scenario) ∧
    shelf.inLayers? (.parse "rows[1]") = none := by
  have hFind (key : String) (i : Nat) (hKey : ':' ∉ key.toList)
      (hPath : Path.parse? key.toList = some ⟨"rows".toList, some i, none⟩) (bindings : Bindings) :=
    bindings.find?_of_no_rest hKey hPath
  constructor
  · rw [inLayers?_eq]
    simp only [hFind "rows[0]" 0 (by simp) rfl]
    rfl
  · rw [inLayers?_eq]
    simp only [hFind "rows[1]" 1 (by simp) rfl]
    rfl

/-- The default is not used for the item that is there, and it comes before the environment for the
    one that is not. -/
theorem resolve?_conservative_shelf :
    (shelf.resolve? process "rows[0]" = some ⟨"rows[0]", .text "ink", .scenario⟩ ∧
      shelf.resolve? process (Key.withDefault "rows[0]" "none") =
        some ⟨Key.withDefault "rows[0]" "none", .text "ink", .scenario⟩) ∧
      shelf.resolve? process (Key.withDefault "rows[1]" "none:at all") =
        some ⟨Key.withDefault "rows[1]" "none:at all", .text "none:at all", .default⟩ := by
  obtain ⟨hFirst, hSecond⟩ := inLayers?_shelf
  obtain ⟨hScope, hAnswer⟩ := inLayers?_eq_some_iff.1 hFirst
  have hLiteral (key : String) (hKey : key ≠ "rows") :
      ∀ bindings ∈ shelf.contents, bindings.value? key = none := by
    simp [contents_eq, shelf, Bindings.value?, Value.present?, Named.get?_cons, hKey]
  refine ⟨⟨hAnswer, ?_⟩, ?_⟩
  · have hDefault := hLiteral (Key.withDefault "rows[0]" "none") (by simp [Key.withDefault])
    obtain ⟨hKept, -⟩ := resolve?_conservative shelf process (by simp) hDefault
    exact hKept _ _ hScope hAnswer
  · have hDefault := hLiteral (Key.withDefault "rows[1]" "none:at all")
      (by simp [Key.withDefault])
    obtain ⟨-, hLeft⟩ := resolve?_conservative shelf process (by simp) hDefault
    apply hLeft
    rintro ⟨value, scope, hScope, hLayer⟩
    have hFound := inLayers?_eq_some_iff.2 ⟨hScope, hLayer⟩
    rw [hSecond] at hFound
    cases hFound

end Store

end StepArguments
