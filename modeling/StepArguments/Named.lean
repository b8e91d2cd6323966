/-! # Named items

Items under names, in the order in which the names were first put. `get?_put` describes `put`
through `get?`, and `get?_putAll` does so for many entries, of which the last one under a name
counts. A name occurs once in everything that `ofPairs` builds (`nodup_names_ofPairs`), which changes
nothing where that is so already (`ofPairs_eq_self`); its names and what is under each of them then
say all about it (`eq_of_names_eq`). -/

namespace StepArguments

/-- Items under names, in the order in which the names were first put. -/
abbrev Named (α : Type) := List (String × α)

namespace Named

variable {α : Type}

/-- Puts an item under a name. A name that is there already keeps its place and takes the item. -/
def put (name : String) (item : α) : Named α → Named α
  | [] => [(name, item)]
  | (n, a) :: items =>
    if n = name then (n, item) :: items else (n, a) :: put name item items

/-- Puts items under names in order, later ones over earlier ones. -/
def putAll (items : Named α) (entries : List (String × α)) : Named α :=
  entries.foldl (fun items (name, item) => items.put name item) items

def ofPairs (entries : List (String × α)) : Named α :=
  putAll [] entries

/-- The item under a name, if there is one. -/
def get? (items : Named α) (name : String) : Option α :=
  items.lookup name

/-- The names, in their order. -/
def names (items : Named α) : List String :=
  items.map (·.1)

def sorted (items : Named α) : Named α :=
  items.mergeSort fun a b => a.1 ≤ b.1

/-! ## Putting and getting -/

@[simp] theorem get?_nil (name : String) : get? ([] : Named α) name = none := rfl

theorem get?_cons (n name : String) (a : α) (items : Named α) :
    get? ((n, a) :: items) name = if name = n then some a else items.get? name := by
  by_cases h : name = n
  · simp [get?, h]
  · simp [get?, List.lookup_cons, h, beq_eq_false_iff_ne.2 h]

theorem get?_put (items : Named α) (name other : String) (item : α) :
    (items.put name item).get? other = if other = name then some item else items.get? other := by
  induction items with
  | nil => simp [put, get?_cons]
  | cons entry items ih =>
    obtain ⟨n, a⟩ := entry
    rw [put]
    split
    · rename_i hn
      subst hn
      by_cases h : other = n <;> simp [get?_cons, h]
    · rename_i hn
      by_cases h : other = n
      · subst h; simp [get?_cons, hn]
      · simp [get?_cons, h, ih]

/-! ## Names -/

theorem mem_names_put (items : Named α) (name other : String) (item : α) :
    other ∈ (items.put name item).names ↔ other = name ∨ other ∈ items.names := by
  induction items with
  | nil => simp [put, names]
  | cons entry items ih =>
    obtain ⟨n, a⟩ := entry
    simp only [names] at ih ⊢
    rw [put]
    split
    · rename_i hn; subst hn; simp
    · simp only [List.map_cons, List.mem_cons, ih]
      exact ⟨fun h => h.elim (fun h => .inr (.inl h)) fun h => h.elim .inl fun h => .inr (.inr h),
        fun h => h.elim (fun h => .inr (.inl h)) fun h => h.elim .inl fun h => .inr (.inr h)⟩

theorem mem_names_iff (items : Named α) (name : String) :
    name ∈ items.names ↔ (items.get? name).isSome := by
  induction items with
  | nil => simp [names]
  | cons entry items ih =>
    obtain ⟨n, a⟩ := entry
    rw [get?_cons, names, List.map_cons, List.mem_cons]
    by_cases h : name = n
    · simp [h]
    · simpa [h, names] using ih

theorem get?_eq_none_of_not_mem {items : Named α} {name : String} (h : name ∉ items.names) :
    items.get? name = none :=
  Option.not_isSome_iff_eq_none.1 fun hSome => h ((mem_names_iff items name).2 hSome)

theorem mem_of_get? {items : Named α} {name : String} {item : α}
    (hGet : items.get? name = some item) : (name, item) ∈ items := by
  induction items with
  | nil => cases hGet
  | cons entry items ih =>
    obtain ⟨n, a⟩ := entry
    rw [get?_cons] at hGet
    by_cases hName : name = n
    · rw [if_pos hName] at hGet
      simp_all
    · rw [if_neg hName] at hGet
      exact List.mem_cons_of_mem _ (ih hGet)

theorem get?_of_mem {items : Named α} (distinct : items.names.Nodup) {name : String} {item : α}
    (hMem : (name, item) ∈ items) : items.get? name = some item := by
  induction items with
  | nil => cases hMem
  | cons entry items ih =>
    obtain ⟨n, a⟩ := entry
    obtain ⟨hn, hItems⟩ := List.nodup_cons.1 distinct
    rw [get?_cons]
    cases hMem with
    | head => exact if_pos rfl
    | tail _ hLater =>
      -- the name stands further on, so it is not the first one as well
      have hOther : name ≠ n := by
        rintro rfl
        exact hn (List.mem_map.2 ⟨(name, item), hLater, rfl⟩)
      rw [if_neg hOther, ih hItems hLater]

theorem get?_map_names (names : List String) (f : String → α) (name : String) :
    Named.get? (names.map fun n => (n, f n)) name = if name ∈ names then some (f name) else none := by
  induction names with
  | nil => rfl
  | cons n names ih =>
    rw [List.map_cons, get?_cons, ih]
    by_cases hName : name = n
    · subst hName
      simp
    · simp [hName]

/-- A new name comes last. -/
theorem names_put_of_get?_eq_none {items : Named α} {name : String}
    (h : items.get? name = none) (item : α) :
    (items.put name item).names = items.names ++ [name] := by
  induction items with
  | nil => rfl
  | cons entry items ih =>
    obtain ⟨n, a⟩ := entry
    rw [get?_cons] at h
    split at h
    · cases h
    · rename_i hne
      simpa [put, Ne.symm hne, names] using ih h

theorem nodup_names_put {items : Named α} (h : items.names.Nodup) (name : String) (item : α) :
    (items.put name item).names.Nodup := by
  induction items with
  | nil => simp [put, names]
  | cons entry items ih =>
    obtain ⟨n, a⟩ := entry
    have ⟨hn, hitems⟩ := List.nodup_cons.1 h
    rw [put]
    split
    · exact List.nodup_cons.2 ⟨hn, hitems⟩
    · rename_i hne
      refine List.nodup_cons.2 ⟨fun hmem => ?_, ih hitems⟩
      rcases (mem_names_put items name n item).1 hmem with rfl | hmem
      · exact hne rfl
      · exact hn hmem

theorem nodup_names_putAll {items : Named α} (h : items.names.Nodup)
    (entries : List (String × α)) : (items.putAll entries).names.Nodup := by
  induction entries generalizing items with
  | nil => exact h
  | cons entry entries ih => exact ih (nodup_names_put h entry.1 entry.2)

theorem nodup_names_ofPairs (entries : List (String × α)) : (ofPairs entries).names.Nodup :=
  @nodup_names_putAll α [] List.nodup_nil entries

/-! ## Putting many -/

theorem get?_append (items more : Named α) (name : String) :
    Named.get? (items ++ more) name = (items.get? name).or (more.get? name) := by
  induction items with
  | nil => rfl
  | cons entry items ih =>
    obtain ⟨n, a⟩ := entry
    show Named.get? ((n, a) :: (items ++ more)) name = _
    rw [get?_cons, get?_cons, ih]
    by_cases h : name = n <;> simp [h]

/-- Of entries that are put under one name the last counts, and each of them before what was there. -/
theorem get?_putAll (items entries : Named α) (name : String) :
    (items.putAll entries).get? name = (Named.get? entries.reverse name).or (items.get? name) := by
  induction entries generalizing items with
  | nil => rfl
  | cons entry entries ih =>
    obtain ⟨n, a⟩ := entry
    show ((items.put n a).putAll entries).get? name = _
    rw [ih, get?_put, List.reverse_cons, get?_append, get?_cons, Option.or_assoc]
    by_cases h : name = n <;> simp [h]

theorem get?_ofPairs (entries : Named α) (name : String) :
    (ofPairs entries).get? name = Named.get? entries.reverse name := by
  rw [ofPairs, get?_putAll, get?_nil, Option.or_none]

theorem mem_names_ofPairs (entries : Named α) (name : String) :
    name ∈ (ofPairs entries).names ↔ name ∈ entries.names := by
  rw [mem_names_iff, get?_ofPairs, ← mem_names_iff]
  simp [names]

/-- Where no name occurs twice the order does not matter. -/
theorem get?_reverse {items : Named α} (distinct : items.names.Nodup) (name : String) :
    Named.get? items.reverse name = items.get? name := by
  induction items with
  | nil => rfl
  | cons entry items ih =>
    obtain ⟨n, a⟩ := entry
    obtain ⟨hn, hItems⟩ := List.nodup_cons.1 distinct
    rw [List.reverse_cons, get?_append, ih hItems, get?_cons, get?_cons]
    by_cases h : name = n
    · subst h
      have hNone : Named.get? items name = none := get?_eq_none_of_not_mem hn
      simp [hNone]
    · simp [h]

/-! ## Putting items under distinct names -/

/-- A new name comes last, with its item. -/
theorem put_of_not_mem {items : Named α} {name : String} (h : name ∉ items.names) (item : α) :
    items.put name item = items ++ [(name, item)] := by
  induction items with
  | nil => rfl
  | cons entry items ih =>
    obtain ⟨n, a⟩ := entry
    simp only [names, List.map_cons, List.mem_cons, not_or] at h
    rw [put, if_neg (Ne.symm h.1), ih h.2, List.cons_append]

theorem putAll_eq_append {items entries : Named α} (distinct : (names (items ++ entries)).Nodup) :
    items.putAll entries = items ++ entries := by
  induction entries generalizing items with
  | nil => exact (List.append_nil items).symm
  | cons entry entries ih =>
    obtain ⟨n, a⟩ := entry
    have hNew : n ∉ items.names := by
      simp only [names, List.map_append, List.map_cons] at distinct ⊢
      exact fun hMem => (List.nodup_append.1 distinct).2.2 n hMem n List.mem_cons_self rfl
    have hPut := put_of_not_mem hNew a
    have hLater : (names ((items.put n a) ++ entries)).Nodup := by
      simpa [hPut] using distinct
    show (items.put n a).putAll entries = _
    rw [ih hLater, hPut, List.append_assoc, List.singleton_append]

/-- Entries under distinct names are what is there when they have been put. -/
theorem ofPairs_eq_self {entries : Named α} (distinct : entries.names.Nodup) :
    ofPairs entries = entries :=
  putAll_eq_append distinct

/-! ## Equality -/

theorem names_put_congr {β : Type} {items : Named α} {others : Named β}
    (h : items.names = others.names) (name : String) (a : α) (b : β) :
    (items.put name a).names = (others.put name b).names := by
  induction items generalizing others with
  | nil =>
    obtain rfl := List.map_eq_nil_iff.1 h.symm
    rfl
  | cons entry items ih =>
    cases others with
    | nil => cases h
    | cons other others =>
      obtain ⟨n, c⟩ := entry
      obtain ⟨m, d⟩ := other
      obtain ⟨hName, hRest⟩ := List.cons.inj h
      obtain rfl : n = m := hName
      rw [put, put]
      by_cases hn : n = name
      · rw [if_pos hn, if_pos hn]
        exact congrArg (n :: ·) hRest
      · rw [if_neg hn, if_neg hn]
        exact congrArg (n :: ·) (ih hRest)

/-- The names of what is put decide on the names in the end. -/
theorem names_ofPairs_congr {β : Type} {entries : Named α} {others : Named β}
    (h : entries.names = others.names) : (ofPairs entries).names = (ofPairs others).names := by
  have hPutAll {items : Named α} {items' : Named β} (hItems : items.names = items'.names) :
      (items.putAll entries).names = (items'.putAll others).names := by
    induction entries generalizing others items items' with
    | nil =>
      obtain rfl := List.map_eq_nil_iff.1 h.symm
      exact hItems
    | cons entry entries ih =>
      cases others with
      | nil => cases h
      | cons other others =>
        obtain ⟨n, c⟩ := entry
        obtain ⟨m, d⟩ := other
        obtain ⟨hName, hRest⟩ := List.cons.inj h
        obtain rfl : n = m := hName
        exact ih hRest (names_put_congr hItems n c d)
  exact hPutAll rfl

/-- Items are determined by their names, in order, and what is under each of them. -/
theorem eq_of_names_eq {items others : Named α} (hNames : items.names = others.names)
    (distinct : items.names.Nodup) (h : ∀ name, items.get? name = others.get? name) :
    items = others := by
  induction items generalizing others with
  | nil => exact (List.map_eq_nil_iff.1 hNames.symm).symm
  | cons entry items ih =>
    cases others with
    | nil => cases hNames
    | cons other others =>
      obtain ⟨n, a⟩ := entry
      obtain ⟨m, b⟩ := other
      obtain ⟨hName, hRest⟩ := List.cons.inj hNames
      obtain rfl : n = m := hName
      obtain ⟨hn, hItems⟩ := List.nodup_cons.1 distinct
      have hHere := h n
      rw [get?_cons, get?_cons, if_pos rfl, if_pos rfl] at hHere
      obtain rfl := Option.some.inj hHere
      have hLater : ∀ name, Named.get? items name = Named.get? others name := by
        intro name
        by_cases hName : name = n
        · subst hName
          have hOthers : name ∉ Named.names others := fun hMem => hn (hRest ▸ hMem)
          rw [get?_eq_none_of_not_mem hn, get?_eq_none_of_not_mem hOthers]
        · have hElse := h name
          rwa [get?_cons, get?_cons, if_neg hName, if_neg hName] at hElse
      rw [ih hRest hItems hLater]

/-! ## Items -/

theorem forall_put {P : α → Prop} {items : Named α} {name : String} {item : α}
    (hItems : ∀ entry ∈ items, P entry.2) (hItem : P item) :
    ∀ entry ∈ items.put name item, P entry.2 := by
  induction items with
  | nil => simpa [put] using hItem
  | cons entry items ih =>
    obtain ⟨hEntry, hRest⟩ := List.forall_mem_cons.1 hItems
    rw [put]
    split
    · exact List.forall_mem_cons.2 ⟨hItem, hRest⟩
    · exact List.forall_mem_cons.2 ⟨hEntry, ih hRest⟩

theorem forall_putAll {P : α → Prop} {items : Named α} {entries : List (String × α)}
    (hItems : ∀ entry ∈ items, P entry.2) (hEntries : ∀ entry ∈ entries, P entry.2) :
    ∀ entry ∈ items.putAll entries, P entry.2 := by
  induction entries generalizing items with
  | nil => exact hItems
  | cons entry entries ih =>
    obtain ⟨hEntry, hRest⟩ := List.forall_mem_cons.1 hEntries
    exact ih (forall_put hItems hEntry) hRest

/-- What holds of every item that is put holds of every item that is there in the end. -/
theorem forall_ofPairs {P : α → Prop} {entries : List (String × α)}
    (hEntries : ∀ entry ∈ entries, P entry.2) : ∀ entry ∈ ofPairs entries, P entry.2 :=
  forall_putAll (by simp) hEntries

end Named

end StepArguments
