import StepArguments.Proofs.Variables.Defaults

/-! # Compound keys navigate values

A route leads from a root through lists and maps: it is a root and fields, each a name and perhaps an
index.  It is written `root[i].field[j].field`, and looking this text up in a store comes to walking
along the route through the value of the root (`resolve?_route`).

The text is read anew at each field, and what is left of it is looked up as a name before it is
divided.  This finds nothing where names hold neither dots nor brackets (`Value.WholeNames`), but
for the name of the last field, which is found by itself in either way
(`Bindings.or_follow?_routeChars`).  The walk then follows by induction over the fields
(`Value.fieldAt?_routeRest`).
-/

namespace StepArguments

/-! ## Routes -/

/-- A stop on the way through a value: a name, and perhaps an index into what is bound to it. -/
structure Stop where
  name : String
  index : Option Nat := none
  plain : Key.Plain name := by simp [Key.Plain]
  named : name ≠ "" := by simp
  inRange : ∀ i ∈ index, i < 2 ^ 64 := by simp

/-- A way through a value that does more than to name its root. -/
structure Route where
  root : Stop
  fields : List Stop
  compound : root.index.isSome = true ∨ fields ≠ [] := by simp

def indexChars (i : Nat) : List Char :=
  '[' :: Decimal.digitChars i ++ [']']

def Stop.chars (stop : Stop) : List Char :=
  stop.name.toList ++ stop.index.elim [] indexChars

/-- Fields as they are written behind a root. -/
def fieldsChars (fields : List Stop) : List Char :=
  fields.flatMap fun field => '.' :: field.chars

def routeChars (root : Stop) (fields : List Stop) : List Char :=
  root.chars ++ fieldsChars fields

/-- What a route leaves to read after its root. -/
def routeRest : List Stop → Option (List Char)
  | [] => none
  | field :: fields => some (routeChars field fields)

def Route.written (route : Route) : String :=
  String.ofList (routeChars route.root route.fields)

/-! ## Walks -/

namespace Value

/-- What there is at the end of some fields.  A field of anything but a map is this value itself. -/
def walk? : List Stop → Value → Option Value
  | [], value => some value
  | field :: fields, .map entries =>
    (Bindings.value? entries field.name).bind fun entry =>
      (itemAt? field.index entry).bind (walk? fields)
  | _ :: _, value => some value

end Value

/-- What there is at the end of a route through the value of its root. -/
def Route.walk? (route : Route) (value : Value) : Option Value :=
  (Value.itemAt? route.root.index value).bind (Value.walk? route.fields)

/-! ## Names that no path divides -/

/-- A name that is no path: it holds neither a dot nor a bracket. -/
def Key.Whole (name : String) : Prop :=
  '.' ∉ name.toList ∧ '[' ∉ name.toList

def Bindings.WholeNames (bindings : Bindings) : Prop :=
  ∀ name ∈ bindings.names, Key.Whole name

/-- No map in a value has a name that is a path. -/
def Value.WholeNames (value : Value) : Prop :=
  ∀ entries : Bindings, (Value.map entries).Within value → entries.WholeNames

variable {bindings : Bindings} {value part : Value} {root field : Stop} {fields : List Stop}
  {name : String}

theorem Value.WholeNames.of_within (whole : value.WholeNames) (within : part.Within value) :
    part.WholeNames :=
  fun entries hEntries => whole entries (hEntries.trans within)

theorem Value.wholeNames_map {entries : Bindings} (names : entries.WholeNames)
    (values : ∀ entry ∈ entries, entry.2.WholeNames) : (Value.map entries).WholeNames := by
  intro inner hWithin
  cases hWithin with
  | self => exact names
  | entry hEntry hDeeper => exact values _ (Named.mem_of_get? hEntry) inner hDeeper

theorem Value.wholeNames_list {items : List Value} (whole : ∀ item ∈ items, item.WholeNames) :
    (Value.list items).WholeNames := by
  intro inner hWithin
  cases hWithin with
  | item hItem hDeeper => exact whole _ (List.mem_of_getElem? hItem) inner hDeeper

theorem Value.wholeNames_null : Value.null.WholeNames := by
  intro entries hWithin
  cases hWithin

theorem Value.wholeNames_text (text : String) : (Value.text text).WholeNames := by
  intro entries hWithin
  cases hWithin

theorem Bindings.WholeNames.value?_eq_none (whole : bindings.WholeNames)
    (hName : ¬ Key.Whole name) : bindings.value? name = none := by
  have hUnbound : name ∉ bindings.names := fun hMem => hName (whole name hMem)
  rw [value?, Named.get?_eq_none_of_not_mem hUnbound]
  rfl

/-! ## The text of a route -/

theorem not_mem_colon_indexChars (i : Nat) : ':' ∉ indexChars i := by
  have hDigits : ':' ∉ Decimal.digitChars i := Decimal.not_mem_digitChars (by decide) i
  simp [indexChars, hDigits]

theorem Stop.not_mem_colon (stop : Stop) : ':' ∉ stop.chars := by
  cases hIndex : stop.index <;>
    simp [Stop.chars, hIndex, not_mem_colon_indexChars, stop.plain.not_mem_colon]

theorem not_mem_colon_routeChars (root : Stop) (fields : List Stop) :
    ':' ∉ routeChars root fields := by
  simp [routeChars, fieldsChars, Stop.not_mem_colon]

theorem Stop.toList_ne_nil (stop : Stop) : stop.name.toList ≠ [] := by
  simpa using stop.named

theorem routeChars_ne_nil (root : Stop) (fields : List Stop) : routeChars root fields ≠ [] := by
  simp [routeChars, Stop.chars, root.named]

/-- An index is written with a bracket, and a field with a dot. -/
theorem not_whole_routeChars (compound : root.index.isSome = true ∨ fields ≠ []) :
    ¬ Key.Whole (String.ofList (routeChars root fields)) := by
  rintro ⟨hDot, hBracket⟩
  rw [String.toList_ofList] at hDot hBracket
  rcases compound with hIndex | hFields
  · obtain ⟨i, hIndex⟩ := Option.isSome_iff_exists.1 hIndex
    simp [routeChars, Stop.chars, hIndex, indexChars] at hBracket
  · obtain ⟨field, later, rfl⟩ := List.exists_cons_of_ne_nil hFields
    simp [routeChars, fieldsChars] at hDot

theorem Route.toList_written (route : Route) :
    route.written.toList = routeChars route.root route.fields :=
  String.toList_ofList

theorem Route.not_mem_colon (route : Route) : ':' ∉ route.written.toList := by
  rw [toList_written]
  exact not_mem_colon_routeChars route.root route.fields

theorem Route.not_whole (route : Route) : ¬ Key.Whole route.written :=
  not_whole_routeChars route.compound

theorem Key.not_whole_withDefault (hName : ¬ Key.Whole name) (default : String) :
    ¬ Key.Whole (Key.withDefault name default) := by
  rintro ⟨hDot, hBracket⟩
  rw [toList_withDefault, List.mem_append, not_or] at hDot hBracket
  exact hName ⟨hDot.1, hBracket.1⟩

/-! ## Reading a route -/

theorem readRest_fieldsChars (fields : List Stop) :
    Path.readRest (fieldsChars fields) = routeRest fields := by
  cases fields with
  | nil => rfl
  | cons field fields => exact Path.readRest_dot (routeChars_ne_nil field fields)

theorem head?_fieldsChars {c : Char} (hHead : (fieldsChars fields).head? = some c) : c = '.' := by
  cases fields with
  | nil => cases hHead
  | cons field fields => exact (Option.some.inj hHead).symm

theorem readIndex?_root (root : Stop) (fields : List Stop) :
    Path.readIndex? (root.index.elim [] indexChars ++ fieldsChars fields) =
      some (root.index, fieldsChars fields) := by
  cases hIndex : root.index with
  | none =>
    apply Path.readIndex?_of_no_bracket
    intro hBracket
    exact absurd (head?_fieldsChars hBracket) (by decide)
  | some i =>
    have hDigits : ']' ∉ Decimal.digitChars i := Decimal.not_mem_digitChars (by decide) i
    have hSmall : i < 2 ^ 64 := root.inRange i hIndex
    simp only [Option.elim_some, indexChars, List.append_assoc, List.singleton_append]
    rw [Path.readIndex?_bracket hDigits, Decimal.readIndex?_digitChars, if_pos hSmall]
    rfl

theorem head?_behind_name {c : Char}
    (hHead : (root.index.elim [] indexChars ++ fieldsChars fields).head? = some c) :
    c = '[' ∨ c = '.' := by
  cases hIndex : root.index with
  | none =>
    rw [hIndex] at hHead
    exact .inr (head?_fieldsChars hHead)
  | some i =>
    rw [hIndex] at hHead
    exact .inl (Option.some.inj hHead).symm

/-- What is read first of a written route is its root, and the rest is written like a route. -/
theorem parse?_routeChars (root : Stop) (fields : List Stop) :
    Path.parse? (routeChars root fields) =
      some ⟨root.name.toList, root.index, routeRest fields⟩ := by
  have hColon := not_mem_colon_routeChars root fields
  have hName : ∀ c ∈ root.name.toList, c ≠ '[' ∧ c ≠ '.' := fun c hc => (root.plain c hc).2.symm
  rw [routeChars, Stop.chars, List.append_assoc] at hColon ⊢
  rw [Path.parse?_append hColon hName fun c => head?_behind_name, if_neg root.toList_ne_nil,
    readIndex?_root, Option.map_some]
  simp only [readRest_fieldsChars]

/-! ## Following a route -/

theorem Bindings.follow?_routeChars (bindings : Bindings) (root : Stop) (fields : List Stop) :
    bindings.follow? (routeChars root fields) =
      (bindings.value? root.name).bind fun value =>
        (Value.itemAt? root.index value).bind (Value.fieldAt? (routeRest fields)) := by
  rw [follow?_of_parse?_eq_some (parse?_routeChars root fields), String.ofList_toList]

/-- To look the text of a route up as a name adds nothing. -/
theorem Bindings.or_follow?_routeChars (whole : bindings.WholeNames) (root : Stop)
    (fields : List Stop) :
    (bindings.value? (String.ofList (routeChars root fields))).or
        (bindings.follow? (routeChars root fields)) =
      bindings.follow? (routeChars root fields) := by
  by_cases compound : root.index.isSome = true ∨ fields ≠ []
  · rw [whole.value?_eq_none (not_whole_routeChars compound), Option.none_or]
  · -- a route that ends at its root is the name of the root
    obtain ⟨hIndex, rfl⟩ : root.index = none ∧ fields = [] := by simpa using compound
    have hName : String.ofList (routeChars root []) = root.name := by
      simp [routeChars, Stop.chars, hIndex, fieldsChars]
    have hFollow : bindings.follow? (routeChars root []) = bindings.value? root.name := by
      rw [follow?_routeChars, hIndex]
      cases bindings.value? root.name <;> rfl
    rw [hName, hFollow, Option.or_self]

/-- To read what a route leaves behind its root is to walk along its fields. -/
theorem Value.fieldAt?_routeRest (whole : value.WholeNames) (fields : List Stop) :
    fieldAt? (routeRest fields) value = walk? fields value := by
  induction fields generalizing value with
  | nil => rfl
  | cons field fields ih =>
    cases value with
    | map entries =>
      have wholeEntries : Bindings.WholeNames entries := whole entries .self
      rw [routeRest, fieldAt?, Bindings.or_follow?_routeChars wholeEntries,
        Bindings.follow?_routeChars, walk?]
      -- what the field leads to lies within the map, so its names are whole as well
      apply Option.bind_congr
      intro entry hEntry
      apply Option.bind_congr
      intro item hItem
      obtain ⟨hBound, hPresent⟩ := Value.present?_eq_some_iff.1 hEntry
      have hWithin : item.Within (.map entries) :=
        .entry hBound (within_of_itemAt? hPresent hItem).2
      exact ih (whole.of_within hWithin)
    | _ => rfl

/-- A layer has at a route what there is at its end, if it binds the root. -/
theorem Bindings.find?_route (whole : bindings.WholeNames) (route : Route)
    (wholeRoot : ∀ value, bindings.value? route.root.name = some value → value.WholeNames) :
    bindings.find? (.parse route.written) =
      (bindings.value? route.root.name).bind route.walk? := by
  rw [find?_of_not_mem bindings route.not_mem_colon, whole.value?_eq_none route.not_whole,
    Option.none_or, route.toList_written, follow?_routeChars]
  apply Option.bind_congr
  intro value hValue
  apply Option.bind_congr
  intro item hItem
  have hPresent := (Value.present?_eq_some_iff.1 hValue).2
  have hWithin := (Value.within_of_itemAt? hPresent hItem).2
  exact Value.fieldAt?_routeRest ((wholeRoot value hValue).of_within hWithin) route.fields

/-! ## Navigating a store -/

namespace Store

/-- Just one layer of the store binds a name, and it binds it to a value. -/
inductive BoundOnce (s : Store) (name : String) (scope : Scope) (value : Value) : Prop
  | within (inner : List (Scope × Bindings)) (bindings : Bindings)
      (outer : List (Scope × Bindings)) (layers : s.layers = inner ++ (scope, bindings) :: outer)
      (bound : bindings.get? name = some value) (present : value ≠ .null)
      (elsewhere : ∀ layer ∈ inner ++ outer, layer.2.get? name = none) : BoundOnce s name scope value

variable {s : Store} {scope : Scope} {key : Key}

theorem BoundOnce.eq_of_value? {other : Value} (bound : s.BoundOnce name scope value)
    (hLayer : bindings ∈ s.contents) (hValue : bindings.value? name = some other) :
    other = value := by
  obtain ⟨inner, here, outer, hLayers, hBound, -, hElsewhere⟩ := bound
  obtain ⟨layer, hMem, rfl⟩ := List.mem_map.1 hLayer
  obtain ⟨hOther, -⟩ := Value.present?_eq_some_iff.1 hValue
  rw [hLayers, List.mem_append, List.mem_cons] at hMem
  rcases hMem with hInner | rfl | hOuter
  · rw [hElsewhere layer (List.mem_append_left outer hInner)] at hOther
    cases hOther
  · exact Option.some.inj (hOther.symm.trans hBound)
  · rw [hElsewhere layer (List.mem_append_right inner hOuter)] at hOther
    cases hOther

/-- What all layers read off the value of a name is read off the only one that there is. -/
theorem BoundOnce.inLayers?_of_reads (bound : s.BoundOnce name scope value) (read : Value → Option Value)
    (hRead : ∀ bindings ∈ s.contents, bindings.find? key = (bindings.value? name).bind read) :
    s.inLayers? key = (read value).map (·, scope) := by
  obtain ⟨inner, bindings, outer, hLayers, hBound, hPresent, hElsewhere⟩ := bound
  have hFind (layer : Scope × Bindings) (hLayer : layer ∈ s.layers) :
      layer.2.find? key = (layer.2.value? name).bind read :=
    hRead layer.2 (List.mem_map_of_mem hLayer)
  have hHere : bindings.find? key = read value := by
    rw [hFind (scope, bindings) (by simp [hLayers]), Bindings.value?,
      Value.present?_eq_some_iff.2 ⟨hBound, hPresent⟩, Option.bind_some]
  have hOther (layer : Scope × Bindings) (hLayer : layer ∈ inner ++ outer) :
      (layer.2.find? key).map (·, layer.1) = none := by
    have hMem : layer ∈ s.layers := by
      rw [hLayers]
      exact List.mem_append.2 ((List.mem_append.1 hLayer).imp_right (List.mem_cons_of_mem _))
    rw [hFind layer hMem, Bindings.value?, hElsewhere layer hLayer]
    rfl
  have hInner : inner.findSome? (fun layer => (layer.2.find? key).map (·, layer.1)) = none :=
    List.findSome?_eq_none_iff.2 fun layer hLayer => hOther layer (List.mem_append_left _ hLayer)
  have hOuter : outer.findSome? (fun layer => (layer.2.find? key).map (·, layer.1)) = none :=
    List.findSome?_eq_none_iff.2 fun layer hLayer => hOther layer (List.mem_append_right _ hLayer)
  rw [inLayers?_eq, hLayers, List.findSome?_append, hInner, Option.none_or, List.findSome?_cons,
    hHere, hOuter]
  cases read value <;> rfl

/-- The text of a route gives what a walk along it through the value of its root gives, and else the
    default behind it.  Without a default it is left to the environment. -/
theorem resolve?_route (s : Store) (e : Environment) (route : Route)
    (bound : s.BoundOnce route.root.name scope value)
    (whole : ∀ bindings ∈ s.contents, bindings.WholeNames) (wholeValue : value.WholeNames) :
    s.resolve? e route.written =
        Resolved.orEnvironment route.written scope e (route.walk? value) ∧
      ∀ default, s.resolve? e (Key.withDefault route.written default) =
        some (Resolved.orDefault (Key.withDefault route.written default) scope default
          (route.walk? value)) := by
  have hLayers : s.inLayers? (.parse route.written) = (route.walk? value).map (·, scope) := by
    apply bound.inLayers?_of_reads
    intro bindings hLayer
    apply Bindings.find?_route (whole bindings hLayer)
    intro root hRoot
    obtain rfl := bound.eq_of_value? hLayer hRoot
    exact wholeValue
  constructor
  · exact resolve?_eq_orEnvironment route.not_mem_colon hLayers
  · intro default
    apply resolve?_eq_orDefault route.not_mem_colon _ hLayers
    intro bindings hLayer
    exact (whole bindings hLayer).value?_eq_none (Key.not_whole_withDefault route.not_whole default)

/-- An order whose items are nothing, a map and a text. -/
def basket : Store where
  frames := [[("unit", .text "piece")]]
  story := [("order", .map [("items", .list [.null, .map [("size", .text "small")], .text "pen"])])]

/-- The way to the size of an item of the order. -/
def sizeOfItem (i : Nat) (hi : i < 2 ^ 64 := by decide) : Route where
  root := { name := "order" }
  fields := [{ name := "items", index := some i, inRange := by simpa using hi }, { name := "size" }]

/-- The first item is absent, the second one has a size, and a text is its own field. -/
theorem resolve?_route_basket :
    (sizeOfItem 1).written = "order.items[1].size" ∧
      basket.resolve? .empty (Key.withDefault (sizeOfItem 0).written "none") =
        some ⟨Key.withDefault (sizeOfItem 0).written "none", .text "none", .default⟩ ∧
      basket.resolve? .empty (sizeOfItem 1).written =
        some ⟨(sizeOfItem 1).written, .text "small", .story⟩ ∧
      basket.resolve? .empty (sizeOfItem 2).written =
        some ⟨(sizeOfItem 2).written, .text "pen", .story⟩ := by
  have bound : basket.BoundOnce "order" .story
      (.map [("items", .list [.null, .map [("size", .text "small")], .text "pen"])]) := by
    refine .within [(.step, [("unit", .text "piece")]), (.scenario, [])]
      [("order", .map [("items", .list [.null, .map [("size", .text "small")], .text "pen"])])]
      [(.batch, [])] rfl rfl (by simp) ?_
    simp [Named.get?_cons]
  have whole : ∀ bindings ∈ basket.contents, bindings.WholeNames := by
    simp [contents_eq, basket, Bindings.WholeNames, Named.names, Key.Whole]
  have wholeValue : (Value.map
      [("items", .list [.null, .map [("size", .text "small")], .text "pen"])]).WholeNames := by
    have wholeSize : (Value.map [("size", .text "small")]).WholeNames :=
      Value.wholeNames_map (by simp [Bindings.WholeNames, Named.names, Key.Whole])
        (by simp [Value.wholeNames_text])
    have wholeItems : (Value.list [.null, .map [("size", .text "small")], .text "pen"]).WholeNames :=
      Value.wholeNames_list (by simp [Value.wholeNames_null, wholeSize, Value.wholeNames_text])
    exact Value.wholeNames_map (by simp [Bindings.WholeNames, Named.names, Key.Whole])
      (by simp [wholeItems])
  have hRoute (i : Nat) (hi : i < 2 ^ 64) :=
    resolve?_route basket .empty (sizeOfItem i hi) bound whole wholeValue
  exact ⟨rfl, (hRoute 0 _).2 "none", (hRoute 1 _).1, (hRoute 2 _).1⟩

end Store

end StepArguments
