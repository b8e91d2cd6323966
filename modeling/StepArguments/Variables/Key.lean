import StepArguments.Decimal.Read
import StepArguments.Text.Search

/-! # Variable keys

A key is the text between `${` and `}`. It may end in a default after its first colon, and may lead
through lists and maps: `name[0].field:default`. -/

namespace StepArguments

/-- A key, with what its first colon divides. -/
structure Key where
  /-- The key as it is written. -/
  written : String
  /-- The key up to its first colon. -/
  name : String
  /-- The text after the first colon. -/
  default? : Option String
deriving DecidableEq

def Key.parse (key : String) : Key :=
  match Text.cut? [':'] key.toList with
  | some (name, default) => ⟨key, String.ofList name, some (String.ofList default)⟩
  | none => ⟨key, key, none⟩

def Key.hasDefault (k : Key) : Bool :=
  k.default?.isSome

theorem Key.default?_parse_of_colon {key : String} {name default : List Char}
    (hKey : key.toList = name ++ ':' :: default) (hName : ':' ∉ name) :
    (parse key).default? = some (String.ofList default) := by
  rw [parse, hKey, Text.cut?_append hName]

theorem Key.parse_of_not_mem {key : String} (hKey : ':' ∉ key.toList) :
    parse key = ⟨key, key, none⟩ := by
  rw [parse, Text.cut?_eq_none_of_not_mem hKey]

theorem Key.default?_parse_of_not_mem {key : String} (hKey : ':' ∉ key.toList) :
    (parse key).default? = none := by
  rw [parse_of_not_mem hKey]

/-- The first step of a way through nested values: a name, an index into the list it holds, and the
way on from there. -/
structure Path where
  root : List Char
  index : Option Nat
  rest : Option (List Char)
deriving DecidableEq

namespace Path

/-- An index in brackets at the start of a text, and what follows it. Without a bracket there is no
index; an open bracket or an index that is no number spoils the path. -/
def readIndex? : List Char → Option (Option Nat × List Char)
  | '[' :: s => do
    let (digits, rest) ← Text.cut? [']'] s
    let index ← Decimal.readIndex? digits
    some (some index, rest)
  | s => some (none, s)

def readRest : List Char → Option (List Char)
  | '.' :: c :: s => some (c :: s)
  | _ => none

/-- Reads the first step of a path up to its first colon. The name of the root reaches to a bracket
or a dot and must not be empty. -/
def parse? (path : List Char) : Option Path :=
  -- the default does not belong to the path
  let path := path.takeWhile (· != ':')
  let root := path.takeWhile fun c => c != '[' && c != '.'
  if root.isEmpty then none
  else
    (readIndex? (path.dropWhile fun c => c != '[' && c != '.')).map fun (index, rest) =>
      ⟨root, index, readRest rest⟩

theorem length_of_readRest {s rest : List Char} (h : readRest s = some rest) :
    rest.length < s.length := by
  unfold readRest at h
  split at h
  · injection h with h
    subst h
    simp
  · contradiction

theorem length_of_readIndex? {s rest : List Char} {index : Option Nat}
    (h : readIndex? s = some (index, rest)) : rest.length ≤ s.length := by
  unfold readIndex? at h
  split at h
  · simp only [Option.bind_eq_bind, Option.bind_eq_some_iff] at h
    obtain ⟨⟨digits, rest'⟩, hcut, index', -, heq⟩ := h
    injection heq with heq
    injection heq with _ heq
    subst heq
    have := congrArg List.length (Text.eq_of_cut? hcut)
    simp only [List.length_append, List.length_cons] at this ⊢
    omega
  · injection h with h
    injection h with _ h
    exact h ▸ Nat.le_refl _

theorem length_takeWhile_le {α : Type} (p : α → Bool) (s : List α) :
    (s.takeWhile p).length ≤ s.length :=
  (List.takeWhile_sublist p).length_le

theorem length_dropWhile_le {α : Type} (p : α → Bool) (s : List α) :
    (s.dropWhile p).length ≤ s.length :=
  (List.dropWhile_sublist p).length_le

theorem length_rest_lt {path rest : List Char} {p : Path}
    (h : parse? path = some p) (hrest : p.rest = some rest) : rest.length < path.length := by
  simp only [parse?] at h
  split at h
  · contradiction
  · obtain ⟨⟨index, s⟩, hindex, rfl⟩ := Option.map_eq_some_iff.1 h
    exact Nat.lt_of_lt_of_le (length_of_readRest hrest)
      (Nat.le_trans (length_of_readIndex? hindex)
        (Nat.le_trans (length_dropWhile_le _ _) (length_takeWhile_le _ _)))

end Path

end StepArguments
