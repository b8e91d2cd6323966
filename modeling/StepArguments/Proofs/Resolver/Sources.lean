import StepArguments.Proofs.Resolver.Spellings
import StepArguments.Proofs.Resolver.Steadiness
import StepArguments.Proofs.Variables.Merged
import StepArguments.Variables.Source

/-! # Plain and layered sources

A call reads of its source nothing but the values of the keys that it looks up, so two sources that
agree on these keys cannot be told apart, whatever the providers do (`resolve_congr`).

For plain keys the layers of a store come to nothing: a key that is a name has no default to fall
back on, leads into no value, and is passed over by every layer that does not bind it.  A store that
holds some bindings in one of its scopes then has what the bindings by themselves have, up to the
environment (`get?_holding`), and a lock changes no value.  `resolve_of_holds` says so of whole texts.
-/

namespace StepArguments

/-! ## Stores with one layer -/

namespace Store

variable {bindings : Bindings} {scope : Scope} {e : Environment} {key : String}

/-- A store that holds some bindings in one scope and nothing else, for the step in a single frame.
    The scopes that cannot be written stand for the batch. -/
def holding (bindings : Bindings) : Scope → Store
  | .step => { frames := [bindings] }
  | .scenario => { scenario := bindings }
  | .story => { story := bindings }
  | .batch | .default | .environment => { batch := bindings }

theorem put_holding (name : String) (value : Value) :
    (holding bindings scope).put scope name value = holding (bindings.put name value) scope := by
  cases scope <;> rfl

/-- Such a store comes about by putting one variable after the other into the scope. -/
theorem run_holding (entries : List (String × Value)) :
    (holding bindings scope).run (entries.map fun entry => .put scope entry.1 entry.2) =
      holding (bindings.putAll entries) scope := by
  induction entries generalizing bindings with
  | nil => rfl
  | cons entry entries ih =>
    rw [List.map_cons, run_cons, change, put_holding, ih]
    rfl

theorem inLayers?_holding (bindings : Bindings) (scope : Scope) (plain : Key.Plain key) :
    ((holding bindings scope).inLayers? (.parse key)).map Prod.fst = bindings.value? key := by
  have hEmpty : Bindings.value? [] key = none := rfl
  simp only [inLayers?_eq, Bindings.find?_of_plain _ plain]
  cases scope <;> cases hValue : bindings.value? key <;> simp [holding, layers, hEmpty, hValue]

theorem get?_holding (plain : Key.Plain key) (hAbsent : e.get? key = none) :
    (holding bindings scope).get? e key = bindings.value? key := by
  rw [get?, resolve?, ← inLayers?_holding bindings scope plain]
  cases (holding bindings scope).inLayers? (.parse key) with
  | some answer => rfl
  | none =>
    rw [plain.parse, hAbsent]
    rfl

end Store

/-! ## Sources of the same bindings -/

namespace Source

/-- The sources that have some bindings and nothing else but an environment: the bindings by
    themselves, a store that holds them in one of its scopes, and either of them behind locks. -/
inductive Holds (bindings : Bindings) (e : Environment) : Source → Prop
  | plain : Holds bindings e (.plain bindings)
  | layered (scope : Scope) : Holds bindings e (.layered (.holding bindings scope) e)
  | locked {source : Source} : Holds bindings e source → Holds bindings e (.locked source)

variable {bindings : Bindings} {e : Environment} {source : Source}

theorem Holds.get?_eq (holds : source.Holds bindings e) {key : String} (plain : Key.Plain key)
    (hAbsent : e.get? key = none) : source.get? key = bindings.value? key := by
  induction holds with
  | plain => rfl
  | layered scope => exact Store.get?_holding plain hAbsent
  | locked _ ih => exact ih

/-- What placeholders are resolved with, given a source and dynamic variables. -/
def resolver (source : Source) (dynamic : Dynamic) : Resolver where
  find? := source.get?
  dynamic := dynamic

end Source

/-! ## Whole texts -/

namespace Resolver

variable {r other : Resolver} {h : History} {key text : String}

theorem lookup_congr (hDynamic : other.dynamic = r.dynamic) (hKey : other.find? key = r.find? key)
    (m : Memory) : other.lookup key m = r.lookup key m := by
  rw [lookup, lookup, hKey, hDynamic]

/-- Filling a template looks up some keys, and only their values matter. -/
theorem exists_asks_fill_congr (hDynamic : other.dynamic = r.dynamic) (t : Template) (m : Memory) :
    ∃ keys, r.Asks keys m.history (r.fill t m).2.history ∧
      ((∀ key ∈ keys, other.find? key = r.find? key) →
        other.fill t m = r.fill t m ∧ other.native? t m = r.native? t m) := by
  induction t generalizing m with
  | text s => exact ⟨[], .refl r m.history, fun _ => ⟨rfl, rfl⟩⟩
  | placeholder before keyTemplate rest ihKey ihRest =>
    obtain ⟨keyKeys, asksKey, sameKey⟩ := ihKey m
    rcases hFill : r.fill keyTemplate m with ⟨key, keyMemory⟩
    have asksLookup := r.lookup_asks (String.ofList key) keyMemory
    rcases hLookup : r.lookup (String.ofList key) keyMemory with ⟨answer, memory⟩
    obtain ⟨restKeys, asksRest, sameRest⟩ := ihRest memory
    rw [hFill] at asksKey sameKey
    rw [hLookup] at asksLookup
    refine ⟨keyKeys ++ ([String.ofList key] ++ restKeys), ?_, fun agree => ?_⟩
    · rw [fill_placeholder hFill hLookup]
      exact asksKey.trans (asksLookup.trans asksRest)
    · -- up to the look-up both have the same memory, so they look the same key up
      rw [List.forall_mem_append, List.forall_mem_append, List.forall_mem_singleton] at agree
      obtain ⟨agreeKey, hSame, agreeRest⟩ := agree
      obtain ⟨hFillOther, -⟩ := sameKey agreeKey
      obtain ⟨hRest, hRestNative⟩ := sameRest agreeRest
      have hLookupOther := (lookup_congr hDynamic hSame keyMemory).trans hLookup
      rw [fill_placeholder hFill hLookup, fill_placeholder hFillOther hLookupOther,
        native?_placeholder hFill hLookup, native?_placeholder hFillOther hLookupOther, hRest,
        hRestNative]
      exact ⟨rfl, rfl⟩

/-- Resolvers that have the same dynamic variables, and the same values for the keys that one of them
    looks up, do the same. -/
theorem resolve_congr (hDynamic : other.dynamic = r.dynamic)
    (agree : ∀ key ∈ r.lookedUp text h, other.find? key = r.find? key) :
    other.resolve text h = r.resolve text h := by
  obtain ⟨keys, asks, same⟩ :=
    exists_asks_fill_congr hDynamic (.ofChars text.toList) { history := h }
  have asksText := (r.resolve_eq_found_meaning text h).2
  rw [← history_memoryAfter, memoryAfter] at asksText
  obtain rfl := asks.unique asksText
  obtain ⟨hFill, hNative⟩ := same agree
  simp only [resolve, resolveFrom_eq, hFill, hNative]

end Resolver

namespace Source

variable {bindings : Bindings} {e : Environment} {first second : Source}

/-- Sources that hold the same bindings, be it plainly, in a layer or behind a lock, resolve a text
    alike if the keys that are looked up on the way are plain and not in the environment.  From the
    same point of a run on the same happens as well, whatever the providers do, and under steady
    providers the value is the same at all points. -/
theorem resolve_of_holds (holdsFirst : first.Holds bindings e) (holdsSecond : second.Holds bindings e)
    (dynamic : Dynamic) (text : String) (now : History)
    (plain : ∀ key ∈ (first.resolver dynamic).lookedUp text now,
      Key.Plain key ∧ e.get? key = none) :
    (second.resolver dynamic).resolve text now = (first.resolver dynamic).resolve text now ∧
      ∀ h later, dynamic.Steady h → h <:+ now → h <:+ later →
        ((second.resolver dynamic).resolve text later).1 =
          ((first.resolver dynamic).resolve text now).1 := by
  have hSame :
      (second.resolver dynamic).resolve text now = (first.resolver dynamic).resolve text now := by
    refine Resolver.resolve_congr rfl fun key hKey => ?_
    obtain ⟨hPlain, hAbsent⟩ := plain key hKey
    exact (holdsSecond.get?_eq hPlain hAbsent).trans (holdsFirst.get?_eq hPlain hAbsent).symm
  refine ⟨hSame, fun h later steady since sinceLater => ?_⟩
  rw [← hSame, Resolver.resolve_of_steady (r := second.resolver dynamic) steady sinceLater,
    Resolver.resolve_of_steady (r := second.resolver dynamic) steady since]

/-- A name under an empty one, a name that is bound to the absent value, and a number under a name
    with a blank. -/
def signpost : Bindings :=
  [("", .text "größe"), ("größe", .null), ("shoe größe", .integer 42)]

/-- A process that has variables of other names. -/
def elsewhere : Environment where
  entries := [("HOME", Text.Utf8.encode "/".toList), ("größe:0", [])]

/-- A variable that is reached by the alias of its name. -/
def visitor : Dynamic where
  registry := [("user-name", .constant (.text "Ann"))]

theorem resolve_of_holds_signpost :
    let text := "${userName}: ${shoe ${}}, ${größe}, ${${}}"
    let locked : Source := .locked (.layered (.holding signpost .step) elsewhere)
    Holds signpost elsewhere (.plain signpost) ∧ Holds signpost elsewhere locked ∧
      (∀ key ∈ ((Source.plain signpost).resolver visitor).lookedUp text [],
        Key.Plain key ∧ elsewhere.get? key = none) ∧
      visitor.Steady [] ∧
      ((locked.resolver visitor).resolve text [.provider "user-name"]).1.display =
        "Ann: 42, ${größe}, ${größe}" := by
  intro text locked
  have holdsLocked : Holds signpost elsewhere locked := .locked (.layered .step)
  have hKeys : ((Source.plain signpost).resolver visitor).lookedUp text [] =
      ["userName", "", "shoe größe", "größe", "", "größe"] := by
    decide +kernel
  have plain : ∀ key ∈ ((Source.plain signpost).resolver visitor).lookedUp text [],
      Key.Plain key ∧ elsewhere.get? key = none := by
    rw [hKeys]
    have hPlain : ∀ key ∈ ["userName", "", "shoe größe", "größe", "", "größe"], Key.Plain key := by
      simp [Key.Plain]
    have hAbsent : ∀ key ∈ ["userName", "", "shoe größe", "größe", "", "größe"],
        elsewhere.get? key = none := by
      decide +kernel
    exact fun key hKey => ⟨hPlain key hKey, hAbsent key hKey⟩
  have steady : visitor.Steady [] := Dynamic.steady_of_constant (by simp [visitor]) []
  obtain ⟨-, hLater⟩ := resolve_of_holds .plain holdsLocked visitor text [] plain
  refine ⟨.plain, holdsLocked, plain, steady, ?_⟩
  rw [hLater [] [.provider "user-name"] steady (List.suffix_refl []) List.nil_suffix]
  decide +kernel

end Source

end StepArguments
