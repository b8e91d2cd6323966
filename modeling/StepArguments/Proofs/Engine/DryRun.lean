import StepArguments.Proofs.Engine.Satisfaction
import StepArguments.Proofs.Evaluator.Settling
import StepArguments.Proofs.Resolver.NativeValue
import StepArguments.Proofs.Resolver.Recall

/-! # Dry runs

A dry run does what an engine does that has the same store but neither dynamic variables nor
processors (`convert_dry`).  The two take different ways: the dry engine asks no provider and leaves
the expressions of a text alone, and reports both; the bare one looks for providers where there are
none, and goes over every text with both strategies until it has seen that nothing changes.

The engines are run side by side.  `History.Mirrors` relates their histories: since both began, the
same happened in them, but for the reports of the dry run, and no provider or processor was asked.
Every part of an engine gives both of them the same result and keeps their histories related.
-/

namespace StepArguments

/-! ## Histories side by side -/

/-- Whether an event is the report that a dry run left something alone. -/
def Event.skips : Event → Bool
  | .report (.dynamicSkipped _) | .report (.expressionsSkipped _) => true
  | _ => false

/-- Whether an event is a question to a provider or a processor. -/
def Event.evaluates : Event → Bool
  | .provider _ | .processor .. => true
  | _ => false

/-- Since both began, a dry run and a bare one had the same events, but for the reports of what the
    dry run left alone, and none of them asked a provider or a processor. -/
def History.Mirrors (h dry bare : History) : Prop :=
  ∃ events, dry = events ++ h ∧ bare = (events.filter fun event => !event.skips) ++ h ∧
    ∀ event ∈ events, event.evaluates = false

namespace History.Mirrors

variable {h h₁ h₂ : History} {event : Event}

theorem refl (h : History) : h.Mirrors h h :=
  ⟨[], rfl, rfl, by simp⟩

theorem both (mirrors : h.Mirrors h₁ h₂) (hSkips : event.skips = false)
    (hEvaluates : event.evaluates = false) : h.Mirrors (event :: h₁) (event :: h₂) := by
  obtain ⟨events, rfl, rfl, hEvents⟩ := mirrors
  refine ⟨event :: events, rfl, ?_, List.forall_mem_cons.2 ⟨hEvaluates, hEvents⟩⟩
  rw [List.filter_cons_of_pos (by rw [hSkips]; rfl), List.cons_append]

theorem skip (mirrors : h.Mirrors h₁ h₂) (hSkips : event.skips = true)
    (hEvaluates : event.evaluates = false) : h.Mirrors (event :: h₁) h₂ := by
  obtain ⟨events, rfl, rfl, hEvents⟩ := mirrors
  refine ⟨event :: events, rfl, ?_, List.forall_mem_cons.2 ⟨hEvaluates, hEvents⟩⟩
  rw [List.filter_cons_of_neg (by simp [hSkips])]

end History.Mirrors

/-- What a dry and a bare computation come to: the same value, with related histories. -/
def Agree {α : Type} (h : History) (dry bare : α × History) : Prop :=
  dry.1 = bare.1 ∧ h.Mirrors dry.2 bare.2

/-- A dry and a bare computation with a bound both end within it, and agree. -/
def AgreeInTime {α : Type} (h : History) (dry bare : Option (α × History)) : Prop :=
  ∃ dryEnd bareEnd, dry = some dryEnd ∧ bare = some bareEnd ∧ Agree h dryEnd bareEnd

variable {h h₁ h₂ : History}

/-! ## Placeholders -/

theorem Dynamic.lookup_of_dryRun {d : Dynamic} (hDry : d.dryRun = true) (name : String)
    (h : History) : d.lookup name h = (none, .report (.dynamicSkipped name) :: h) := by
  rw [lookup, if_pos hDry]

theorem Dynamic.lookup_empty (name : String) (h : History) :
    ({} : Dynamic).lookup name h = (none, h) := by
  have hReach : Registry.reach? [] name = none := by simp [Registry.reach?]
  rw [lookup, if_neg Bool.false_ne_true, hReach]

/-- The memories of a dry and a bare call: they know the same, and their histories are related. -/
structure Memory.Mirrors (h : History) (m₁ m₂ : Memory) : Prop where
  known : m₁.known = m₂.known
  history : h.Mirrors m₁.history m₂.history

namespace Resolver

variable {m₁ m₂ : Memory}

/-- The resolver in a dry run. -/
def dry (r : Resolver) : Resolver :=
  { r with dynamic := { r.dynamic with dryRun := true } }

/-- The resolver without dynamic variables. -/
def bare (r : Resolver) : Resolver where
  find? := r.find?

theorem lookup_mirrors (r : Resolver) (key : String) (mirrors : Memory.Mirrors h m₁ m₂) :
    (r.dry.lookup key m₁).1 = (r.bare.lookup key m₂).1 ∧
      Memory.Mirrors h (r.dry.lookup key m₁).2 (r.bare.lookup key m₂).2 := by
  have looked : h.Mirrors (.lookup key :: m₁.history) (.lookup key :: m₂.history) :=
    mirrors.history.both rfl rfl
  cases hFind : r.find? key with
  | some value =>
    have hDry : r.dry.find? key = some value := hFind
    have hBare : r.bare.find? key = some value := hFind
    rw [lookup_of_stored hDry, lookup_of_stored hBare]
    exact ⟨rfl, mirrors.known, looked⟩
  | none =>
    have hDry : r.dry.find? key = none := hFind
    have hBare : r.bare.find? key = none := hFind
    cases hKnown : m₁.known.get? key with
    | some answer =>
      rw [lookup_of_remembered hDry hKnown, lookup_of_remembered hBare (mirrors.known ▸ hKnown)]
      exact ⟨rfl, mirrors.known, looked⟩
    | none =>
      have hSkipped := Dynamic.lookup_of_dryRun (d := r.dry.dynamic) rfl key
        (.lookup key :: m₁.history)
      have hNobody : r.bare.dynamic.lookup key (.lookup key :: m₂.history) = _ :=
        Dynamic.lookup_empty key _
      rw [lookup_of_new hDry hKnown, lookup_of_new hBare (mirrors.known ▸ hKnown), hSkipped,
        hNobody]
      exact ⟨rfl, congrArg (Named.put key none) mirrors.known, looked.skip rfl rfl⟩

theorem fill_mirrors (r : Resolver) (t : Template) (mirrors : Memory.Mirrors h m₁ m₂) :
    (r.dry.fill t m₁).1 = (r.bare.fill t m₂).1 ∧ r.dry.native? t m₁ = r.bare.native? t m₂ ∧
      Memory.Mirrors h (r.dry.fill t m₁).2 (r.bare.fill t m₂).2 := by
  induction t generalizing m₁ m₂ with
  | text s => exact ⟨rfl, rfl, mirrors⟩
  | placeholder before keyTemplate rest ihKey ihRest =>
    obtain ⟨hKey, -, keyMirrors⟩ := ihKey mirrors
    rcases hFill₁ : r.dry.fill keyTemplate m₁ with ⟨key, keyMemory₁⟩
    rcases hFill₂ : r.bare.fill keyTemplate m₂ with ⟨key', keyMemory₂⟩
    rw [hFill₁, hFill₂] at hKey keyMirrors
    obtain rfl : key = key' := hKey
    obtain ⟨hAnswer, memoryMirrors⟩ := r.lookup_mirrors (String.ofList key) keyMirrors
    rcases hLookup₁ : r.dry.lookup (String.ofList key) keyMemory₁ with ⟨answer, memory₁⟩
    rcases hLookup₂ : r.bare.lookup (String.ofList key) keyMemory₂ with ⟨answer', memory₂⟩
    rw [hLookup₁, hLookup₂] at hAnswer memoryMirrors
    obtain rfl : answer = answer' := hAnswer
    obtain ⟨hRest, hNative, restMirrors⟩ := ihRest memoryMirrors
    rw [fill_placeholder hFill₁ hLookup₁, fill_placeholder hFill₂ hLookup₂,
      native?_placeholder hFill₁ hLookup₁, native?_placeholder hFill₂ hLookup₂, hRest, hNative]
    exact ⟨rfl, rfl, restMirrors⟩

theorem resolve_agree (r : Resolver) (text : String) (mirrors : h.Mirrors h₁ h₂) :
    Agree h (r.dry.resolve text h₁) (r.bare.resolve text h₂) := by
  have initial : Memory.Mirrors h { history := h₁ } { history := h₂ } := ⟨rfl, mirrors⟩
  obtain ⟨hText, hNative, filled⟩ := r.fill_mirrors (.ofChars text.toList) initial
  refine ⟨?_, ?_⟩
  · rw [resolve_fst, resolve_fst, hNative, hText]
  · simpa only [resolve, resolveFrom_eq] using filled.history

end Resolver

/-! ## Expressions -/

namespace Evaluator

variable {e : Evaluator}

/-- Without processors a pass puts every expression back where it was. -/
theorem pass_of_no_processors (hNone : e.processors = []) (strategy : Strategy) (first : Bool)
    (done s : List Char) (h : History) :
    e.pass strategy first done s h = (.ok (.text (String.ofList (done.reverse ++ s))), h) := by
  -- the text that is done and the rest together are the same text in every step of the walk
  induction s using Expression.cuts.induct strategy generalizing first done with
  | case1 s hCut => exact pass_of_cut?_eq_none hCut
  | case2 s m hCut ih =>
    have hApply : e.apply (String.ofList m.inside) h = (.ok none, h) := by rw [apply, hNone]; rfl
    rw [pass_of_cut?_eq_some hCut, hApply]
    simp only [ih]
    rw [List.reverse_append, List.reverse_reverse, List.append_assoc,
      ← Expression.eq_writtenAs_of_cut? hCut]

theorem settle_of_no_processors (hNone : e.processors = []) (strategy : Strategy) (passes : Nat)
    (text : String) (h : History) :
    e.settle strategy (passes + 1) text h = some (.ok (.text text), h) := by
  rw [settle, pass_of_no_processors hNone]
  simp

theorem evaluate_of_no_processors (hNone : e.processors = []) (live : e.dryRun = false)
    (passes : Nat) (text : String) (h : History) :
    e.evaluate (passes + 1) text h = some (.ok (.text text), h) := by
  have hReluctant := settle_of_no_processors hNone .reluctant passes text h
  have hGreedy := settle_of_no_processors hNone .greedy passes text h
  rw [evaluate, live, if_neg Bool.false_ne_true, alternate_succ_of_texts hReluctant hGreedy,
    if_pos rfl]
  rfl

end Evaluator

namespace Engine

variable {target : TargetType}

/-! ## The two engines -/

/-- The engine in a dry run. -/
def dry (e : Engine) : Engine :=
  { e with settings := { e.settings with dryRun := true } }

/-- The engine with the same store, depth and converter that evaluates, but has neither dynamic
    variables, built-in or not, nor processors. -/
def bare (e : Engine) : Engine :=
  build {
    settings := { maxDepth := e.settings.maxDepth }
    store := e.store
    environment := e.environment
    converter := e.converter }

theorem pass_agree (e : Engine) (passes : Nat) (target : TargetType) (text : String)
    (mirrors : h.Mirrors h₁ h₂) :
    AgreeInTime h (e.dry.pass (passes + 1) target text h₁)
      (e.bare.pass (passes + 1) target text h₂) := by
  have resolved := e.resolver.resolve_agree text mirrors
  rcases hDry : e.resolver.dry.resolve text h₁ with ⟨value, dryLater⟩
  rcases hBare : e.resolver.bare.resolve text h₂ with ⟨value', bareLater⟩
  rw [hDry, hBare] at resolved
  obtain ⟨hValue, later⟩ := resolved
  obtain rfl : value = value' := hValue
  have hDryResolve : e.dry.resolver.resolve text h₁ = (value, dryLater) := hDry
  have hBareResolve : e.bare.resolver.resolve text h₂ = (value, bareLater) := hBare
  simp only [pass, hDryResolve, hBareResolve]
  by_cases hNull : value.asText? = some nullExpression
  · rw [if_pos hNull, if_pos hNull]
    exact ⟨_, _, rfl, rfl, rfl, later⟩
  · rw [if_neg hNull, if_neg hNull]
    by_cases hText : target = .text ∨ value.isText
    · -- the dry engine reports and the bare one evaluates, to the same text
      have hDryEvaluate : e.dry.evaluator.evaluate (passes + 1) value.display dryLater =
          some (.ok (.text value.display),
            .report (.expressionsSkipped value.display) :: dryLater) := rfl
      have hBareEvaluate : e.bare.evaluator.evaluate (passes + 1) value.display bareLater =
          some (.ok (.text value.display), bareLater) :=
        Evaluator.evaluate_of_no_processors rfl rfl passes _ _
      rw [if_pos hText, if_pos hText, hDryEvaluate, hBareEvaluate]
      exact ⟨_, _, rfl, rfl, rfl, later.skip rfl rfl⟩
    · rw [if_neg hText, if_neg hText]
      exact ⟨_, _, rfl, rfl, rfl, later⟩

theorem settle_agree (e : Engine) (passes : Nat) (target : TargetType) (start : String)
    (depth : Nat) (text : String) (mirrors : h.Mirrors h₁ h₂) :
    AgreeInTime h (e.dry.settle (passes + 1) target start depth text h₁)
      (e.bare.settle (passes + 1) target start depth text h₂) := by
  induction depth generalizing text h₁ h₂ with
  | zero =>
    have reported : h.Mirrors (.report (.depthExhausted start e.settings.maxDepth) :: h₁)
        (.report (.depthExhausted start e.settings.maxDepth) :: h₂) := mirrors.both rfl rfl
    exact e.pass_agree passes target start reported
  | succ depth ih =>
    obtain ⟨⟨result, dryLater⟩, ⟨result', bareLater⟩, hDry, hBare, hResult, later⟩ :=
      e.pass_agree passes target text mirrors
    obtain rfl : result = result' := hResult
    rw [settle, settle, hDry, hBare]
    -- both go on with the same text, or both stop here
    split
    · rename_i next dryLater' hText
      obtain ⟨rfl, rfl⟩ := Prod.mk.inj (Option.some.inj hText)
      dsimp only
      by_cases hSame : next = text
      · rw [if_pos hSame, if_pos hSame]
        exact ⟨_, _, rfl, rfl, rfl, later⟩
      · rw [if_neg hSame, if_neg hSame]
        exact ih next later
    · rename_i hOther
      split
      · rename_i next bareLater' hText
        obtain ⟨rfl, -⟩ := Prod.mk.inj (Option.some.inj hText)
        exact absurd rfl (hOther next dryLater)
      · exact ⟨_, _, rfl, rfl, rfl, later⟩

/-! ## Conversion -/

theorem convertResolved_agree (e : Engine) (text : String) (target : TargetType)
    (mirrors : h.Mirrors h₁ h₂) :
    Agree h (e.dry.convertResolved text target h₁) (e.bare.convertResolved text target h₂) := by
  have asked (target : TargetType) :
      Agree h (e.dry.ask text target h₁) (e.bare.ask text target h₂) :=
    ⟨rfl, mirrors.both rfl rfl⟩
  induction target with
  | optional inner ih =>
    rw [convertResolved, convertResolved]
    split
    · exact ⟨rfl, mirrors⟩
    · exact ih
  | _ => exact asked _

theorem resolveRow_agree (e : Engine) (row : Bindings) (mirrors : h.Mirrors h₁ h₂) :
    Agree h (e.dry.resolveRow row h₁) (e.bare.resolveRow row h₂) := by
  induction row generalizing h₁ h₂ with
  | nil => exact ⟨rfl, mirrors⟩
  | cons entry row ih =>
    obtain ⟨name, value⟩ := entry
    cases value with
    | text cell =>
      have resolved : Agree h (e.dry.resolver.resolve cell h₁) (e.bare.resolver.resolve cell h₂) :=
        e.resolver.resolve_agree cell mirrors
      obtain ⟨hCell, later⟩ := resolved
      obtain ⟨hRow, last⟩ := ih later
      exact ⟨by simp only [resolveRow, hCell, hRow], last⟩
    | _ =>
      obtain ⟨hRow, last⟩ := ih mirrors
      exact ⟨congrArg (_ :: ·) hRow, last⟩

theorem resolveRows_agree (e : Engine) (rows : List Bindings) (mirrors : h.Mirrors h₁ h₂) :
    Agree h (e.dry.resolveRows rows h₁) (e.bare.resolveRows rows h₂) := by
  induction rows generalizing h₁ h₂ with
  | nil => exact ⟨rfl, mirrors⟩
  | cons row rows ih =>
    obtain ⟨hRow, later⟩ := e.resolveRow_agree row mirrors
    obtain ⟨hRows, last⟩ := ih later
    exact ⟨by simp only [resolveRows, hRow, hRows], last⟩

theorem resolveCells_agree (e : Engine) (value : Value) (mirrors : h.Mirrors h₁ h₂) :
    Agree h (e.dry.resolveCells value h₁) (e.bare.resolveCells value h₂) := by
  cases value with
  | table headers rows =>
    obtain ⟨hRows, later⟩ := e.resolveRows_agree rows mirrors
    exact ⟨congrArg (Value.table headers) hRows, later⟩
  | _ => exact ⟨rfl, mirrors⟩

theorem fit_agree (e : Engine) (target : TargetType) (value : Value)
    (mirrors : h.Mirrors h₁ h₂) :
    Agree h (e.dry.fit target value h₁) (e.bare.fit target value h₂) := by
  rw [fit_eq, fit_eq]
  split
  · exact ⟨rfl, mirrors⟩
  · split
    · exact ⟨rfl, mirrors⟩
    · have converted := e.convertResolved_agree value.display target mirrors
      rcases hDry : e.dry.convertResolved value.display target h₁ with ⟨result, dryLater⟩
      rcases hBare : e.bare.convertResolved value.display target h₂ with ⟨result', bareLater⟩
      rw [hDry, hBare] at converted
      obtain ⟨hResult, later⟩ := converted
      obtain rfl : result = result' := hResult
      cases result with
      | error error => exact ⟨rfl, later⟩
      | ok converted =>
        obtain ⟨hCells, last⟩ := e.resolveCells_agree converted later
        exact ⟨congrArg Except.ok hCells, last⟩

/-- Whatever the dynamic variables and processors of an engine, a dry run asks none of them and
    gives the value or error of the engine that has none.  What happens besides is the same as well,
    but for the reports of what the dry run left alone. -/
theorem convert_dry (e : Engine) (passes : Nat) (raw : String) (target : TargetType) (h : History) :
    ∃ result dryLater bareLater,
      e.dry.convert (passes + 1) raw target h = some (result, dryLater) ∧
      e.bare.convert (passes + 1) raw target h = some (result, bareLater) ∧
      h.Mirrors dryLater bareLater := by
  have start := History.Mirrors.refl h
  rw [convert, convert]
  by_cases hSteps : target = .steps
  · rw [if_pos hSteps, if_pos hSteps]
    exact ⟨_, _, _, rfl, rfl, start.both rfl rfl⟩
  · rw [if_neg hSteps, if_neg hSteps]
    obtain ⟨⟨result, dryLater⟩, ⟨result', bareLater⟩, hDry, hBare, hResult, later⟩ :=
      e.settle_agree passes target raw e.settings.maxDepth raw start
    obtain rfl : result = result' := hResult
    have hDryText : e.dry.resolveText (passes + 1) raw target h = some (result, dryLater) := hDry
    have hBareText : e.bare.resolveText (passes + 1) raw target h = some (result, bareLater) :=
      hBare
    rw [hDryText, hBareText]
    cases result with
    | error error => exact ⟨_, _, _, rfl, rfl, later⟩
    | ok value =>
      have fitted := e.fit_agree target value later
      rcases hDryFit : e.dry.fit target value dryLater with ⟨result, dryLast⟩
      rcases hBareFit : e.bare.fit target value bareLater with ⟨result', bareLast⟩
      rw [hDryFit, hBareFit] at fitted
      obtain ⟨hResult, last⟩ := fitted
      obtain rfl : result = result' := hResult
      exact ⟨_, _, _, congrArg some hDryFit, congrArg some hBareFit, last⟩

end Engine

end StepArguments
