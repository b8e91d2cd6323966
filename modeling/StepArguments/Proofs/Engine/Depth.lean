import StepArguments.Engine
import StepArguments.Proofs.Evaluator.Termination
import StepArguments.Proofs.Resolver.Steadiness

/-! # Passes and their depth

Under steady providers and processors one pass is a function of the text, wherever in a run it is
made (`passGives_of_pass`).  The depth of an engine then only says how far the texts `textAt f start 0`,
`textAt f start 1`, … are followed, each of them one pass after the one before it: as far as the
first that a pass leaves as it is, fails on or turns into another value.  If that one is not among
as many texts as the depth allows, the starting text takes one pass and no more.  `settle_stops` and
`settle_exhausts` say so of the loop, by induction on the depth, with the texts that it passes over.
-/

namespace StepArguments.Engine

variable {e : Engine} {target : TargetType} {text next start : String} {h later h' : History}
  {result : Except ArgumentError Value} {passes depth : Nat}

/-! ## One pass -/

/-- From a point of a run on, a pass over a text gives a result, as long as its evaluation may take
    enough passes of its own. -/
def PassGives (e : Engine) (target : TargetType) (h : History) (text : String)
    (result : Except ArgumentError Value) : Prop :=
  ∃ bound, ∀ passes, bound ≤ passes → ∀ later, h <:+ later →
    ∃ events, e.pass passes target text later = some (result, events ++ later)

theorem resolve_later (steady : e.resolver.dynamic.Steady h) (since : h <:+ later)
    (text : String) :
    ∃ events, e.resolver.resolve text later = ((e.resolver.resolve text h).1, events ++ later) := by
  obtain ⟨events, hEvents⟩ := Resolver.suffix_of_resolve (steady.later since) text
  rw [← Resolver.resolve_of_steady steady since text]
  exact ⟨events, by rw [hEvents]⟩

theorem passGives_of_pass (steady : e.resolver.dynamic.Steady h)
    (steadyProcessors : e.evaluator.Steady h)
    (hPass : e.pass passes target text h = some (result, h')) :
    e.PassGives target h text result := by
  have hResolve (later : History) (since : h <:+ later) := resolve_later steady since text
  obtain ⟨before, hBefore⟩ := hResolve h (List.suffix_refl h)
  rcases hHere : e.resolver.resolve text h with ⟨value, resolved⟩
  simp only [hHere] at hResolve hBefore
  have sinceStart : h <:+ resolved := ⟨before, (Prod.mk.inj hBefore).2.symm⟩
  simp only [pass, hHere] at hPass
  unfold PassGives
  simp only [pass]
  -- a later pass takes the same way out: the absent value, an evaluation or a value as it is
  split at hPass
  · rename_i hNull
    obtain ⟨rfl, -⟩ := Prod.mk.inj (Option.some.inj hPass)
    refine ⟨0, fun passes _ later since => ?_⟩
    obtain ⟨events, hLater⟩ := hResolve later since
    exact ⟨events, by simp only [hLater, if_pos hNull]⟩
  · rename_i hNotNull
    split at hPass
    · rename_i hText
      obtain ⟨⟨outcome, last⟩, hEvaluate, hResult⟩ := Option.map_eq_some_iff.1 hPass
      obtain ⟨bound, hBound⟩ :=
        Evaluator.evaluate_eq_of_evaluate steadyProcessors sinceStart hEvaluate
      refine ⟨bound, fun passes hPasses later since => ?_⟩
      obtain ⟨events, hLater⟩ := hResolve later since
      obtain ⟨more, hMore⟩ := hBound passes hPasses (events ++ later)
        (since.trans (List.suffix_append events later))
      refine ⟨more ++ events, ?_⟩
      simp only [hLater, if_neg hNotNull, if_pos hText, hMore, Option.map_some]
      cases outcome <;> (obtain ⟨rfl, -⟩ := Prod.mk.inj hResult; simp)
    · rename_i hNotText
      obtain ⟨rfl, -⟩ := Prod.mk.inj (Option.some.inj hPass)
      refine ⟨0, fun passes _ later since => ?_⟩
      obtain ⟨events, hLater⟩ := hResolve later since
      exact ⟨events, by simp only [hLater, if_neg hNotNull, if_neg hNotText]⟩

/-- `f` is what one pass gives, at some point of a run and with enough passes for its evaluation:
    every single pass comes to an end. -/
def IsPass (e : Engine) (target : TargetType) (h : History)
    (f : String → Except ArgumentError Value) : Prop :=
  ∀ text, ∃ passes h', e.pass passes target text h = some (f text, h')

theorem IsPass.eq {f : String → Except ArgumentError Value} (isPass : e.IsPass target h f)
    (steady : e.resolver.dynamic.Steady h) (steadyProcessors : e.evaluator.Steady h)
    (hPass : e.pass passes target text h = some (result, h')) : f text = result := by
  obtain ⟨passes', h'', hOther⟩ := isPass text
  obtain ⟨bound₁, hBound₁⟩ := passGives_of_pass steady steadyProcessors hPass
  obtain ⟨bound₂, hBound₂⟩ := passGives_of_pass steady steadyProcessors hOther
  obtain ⟨events₁, hFirst⟩ := hBound₁ (bound₁ + bound₂) (by omega) h (List.suffix_refl h)
  obtain ⟨events₂, hSecond⟩ := hBound₂ (bound₁ + bound₂) (by omega) h (List.suffix_refl h)
  exact (Prod.mk.inj (Option.some.inj (hSecond.symm.trans hFirst))).1

/-- Every single pass comes to an end if no processor writes more number signs than it was given. -/
theorem exists_isPass (thrifty : e.evaluator.Thrifty) (target : TargetType) (h : History) :
    ∃ f, e.IsPass target h f := by
  have hPasses (text : String) :
      ∃ result passes h', e.pass passes target text h = some (result, h') := by
    simp only [pass]
    rcases e.resolver.resolve text h with ⟨value, later⟩
    dsimp only
    split
    · exact ⟨_, 0, _, rfl⟩
    · split
      · obtain ⟨outcome, last, -, hEvaluate⟩ :=
          Evaluator.evaluate_spends thrifty value.display later
        have hEnough := hEvaluate _ (Nat.lt_succ_self _)
        cases outcome with
        | ok value => exact ⟨_, _, _, Option.map_eq_some_iff.2 ⟨_, hEnough, rfl⟩⟩
        | error failure => exact ⟨_, _, _, Option.map_eq_some_iff.2 ⟨_, hEnough, rfl⟩⟩
      · exact ⟨_, 0, _, rfl⟩
  exact ⟨fun text => (hPasses text).choose, fun text => (hPasses text).choose_spec⟩

/-! ## The texts of the passes -/

variable {f : String → Except ArgumentError Value}

/-- The text that a pass makes of a text, if it is another one. -/
def next? (f : String → Except ArgumentError Value) (text : String) : Option String :=
  match f text with
  | .ok (.text next) => if next = text then none else some next
  | _ => none

/-- The text after a number of passes, as long as each of them gave another text. -/
def textAt (f : String → Except ArgumentError Value) (start : String) : Nat → Option String
  | 0 => some start
  | k + 1 => (textAt f start k).bind (next? f)

/-- The first texts, as many as there are up to a number. -/
def firstTexts (f : String → Except ArgumentError Value) (start : String) (k : Nat) : List String :=
  (List.range k).filterMap (textAt f start)

/-- After just so many passes there is a text on which a pass fails, which it turns into a value
    that is no text or which it leaves as it is. -/
def StopsAt (f : String → Except ArgumentError Value) (start : String) (k : Nat) (last : String) :
    Prop :=
  textAt f start k = some last ∧ next? f last = none

theorem next?_eq_some (hNext : next? f text = some next) :
    f text = .ok (.text next) ∧ next ≠ text := by
  unfold next? at hNext
  split at hNext
  · rename_i other hOther
    obtain ⟨hChanged, hSame⟩ := Option.ite_none_left_eq_some.1 hNext
    obtain rfl := Option.some.inj hSame
    exact ⟨hOther, hChanged⟩
  · cases hNext

theorem textAt_succ (f : String → Except ArgumentError Value) (start : String) (k : Nat) :
    textAt f start (k + 1) = (next? f start).bind fun next => textAt f next k := by
  induction k with
  | zero => simp [textAt]
  | succ k ih => rw [textAt, ih, Option.bind_assoc]; rfl

theorem firstTexts_succ (hNext : next? f text = some next) (k : Nat) :
    firstTexts f text (k + 1) = text :: firstTexts f next k := by
  have hLater : textAt f text ∘ Nat.succ = textAt f next := by
    funext i
    rw [Function.comp_apply, textAt_succ, hNext, Option.bind_some]
  have hFirst : textAt f text 0 = some text := rfl
  rw [firstTexts, List.range_succ_eq_map, List.filterMap_cons_some hFirst, List.filterMap_map,
    hLater, firstTexts]

theorem length_firstTexts_le (f : String → Except ArgumentError Value) (start : String) (k : Nat) :
    (firstTexts f start k).length ≤ k := by
  have hLength := List.length_filterMap_le (textAt f start) (List.range k)
  rwa [List.length_range] at hLength

theorem textAt_eq_none_of_stopsAt {k : Nat} {last : String} (stops : StopsAt f start k last) :
    textAt f start (k + 1) = none := by
  obtain ⟨hText, hLast⟩ := stops
  rw [textAt, hText]
  exact hLast

/-- There is a text after a number of passes just if they do not stop before. -/
theorem exists_textAt_iff (f : String → Except ArgumentError Value) (start : String)
    (depth : Nat) :
    (∃ last, textAt f start depth = some last) ↔ ∀ k < depth, ∀ last, ¬ StopsAt f start k last := by
  induction depth with
  | zero => exact ⟨fun _ k hk => absurd hk (Nat.not_lt_zero k), fun _ => ⟨start, rfl⟩⟩
  | succ depth ih =>
    constructor
    · rintro ⟨next, hNext⟩ k hk last stops
      obtain ⟨earlier, hEarlier, -⟩ := Option.bind_eq_some_iff.1 hNext
      rcases Nat.lt_or_eq_of_le (Nat.le_of_lt_succ hk) with hBefore | rfl
      · exact ih.1 ⟨earlier, hEarlier⟩ k hBefore last stops
      · rw [textAt_eq_none_of_stopsAt stops] at hNext
        cases hNext
    · intro hGo
      obtain ⟨last, hLast⟩ := ih.2 fun k hk => hGo k (Nat.lt_succ_of_lt hk)
      cases hNext : next? f last with
      | none => exact absurd ⟨hLast, hNext⟩ (hGo depth (Nat.lt_succ_self depth) last)
      | some next => exact ⟨next, by rw [textAt, hLast, Option.bind_some, hNext]⟩

/-! ## Repeated passes -/

/-- Between two points of a run there were passes over just these texts, in their order, and else
    at most the report that the depth is exhausted. -/
inductive PassesOver (e : Engine) (passes : Nat) (target : TargetType) :
    List String → History → History → Prop
  | done {h : History} : PassesOver e passes target [] h h
  | pass {text : String} {texts : List String} {result : Except ArgumentError Value}
      {h later h' : History} : e.pass passes target text h = some (result, later) →
      PassesOver e passes target texts later h' → PassesOver e passes target (text :: texts) h h'
  | exhausted {start : String} {depth : Nat} {texts : List String} {h h' : History} :
      PassesOver e passes target texts (.report (.depthExhausted start depth) :: h) h' →
      PassesOver e passes target texts h h'

/-- From a point of a run on, a run comes to a result by passes over just these texts, as long as
    each of their evaluations may take enough passes of its own. -/
def ComesTo (e : Engine) (target : TargetType) (h : History) (run : Nat → Run Value)
    (texts : List String) (result : Except ArgumentError Value) : Prop :=
  ∃ bound, ∀ passes, bound ≤ passes → ∀ later, h <:+ later →
    ∃ h', run passes later = some (result, h') ∧ e.PassesOver passes target texts later h'

theorem settle_of_next?_eq_none (hPass : e.pass passes target text h = some (f text, h'))
    (hLast : next? f text = none) :
    e.settle passes target start (depth + 1) text h = some (f text, h') := by
  rw [settle, hPass]
  split
  · rename_i next later hText
    obtain ⟨hNext, rfl⟩ := Prod.mk.inj (Option.some.inj hText)
    have hSame : next = text := by simpa [next?, hNext] using hLast
    rw [if_pos hSame, hNext]
  · rfl

theorem settle_of_next?_eq_some (hPass : e.pass passes target text h = some (f text, h'))
    (hNext : next? f text = some next) :
    e.settle passes target start (depth + 1) text h =
      e.settle passes target start depth next h' := by
  obtain ⟨hText, hOther⟩ := next?_eq_some hNext
  rw [settle, hPass, hText]
  simp only [if_neg hOther]

theorem ComesTo.settled (gives : e.PassGives target h text (f text)) (hLast : next? f text = none) :
    e.ComesTo target h (fun passes => e.settle passes target start (depth + 1) text) [text]
      (f text) := by
  obtain ⟨bound, hBound⟩ := gives
  refine ⟨bound, fun passes hPasses later since => ?_⟩
  obtain ⟨events, hPass⟩ := hBound passes hPasses later since
  exact ⟨_, settle_of_next?_eq_none hPass hLast, .pass hPass .done⟩

theorem ComesTo.further {texts : List String} (gives : e.PassGives target h text (f text))
    (hNext : next? f text = some next)
    (rest : e.ComesTo target h (fun passes => e.settle passes target start depth next) texts
      result) :
    e.ComesTo target h (fun passes => e.settle passes target start (depth + 1) text)
      (text :: texts) result := by
  obtain ⟨bound₁, hBound₁⟩ := gives
  obtain ⟨bound₂, hBound₂⟩ := rest
  refine ⟨bound₁ + bound₂, fun passes hPasses later since => ?_⟩
  obtain ⟨events, hPass⟩ := hBound₁ passes (by omega) later since
  have sinceNext := since.trans (List.suffix_append events later)
  obtain ⟨h', hSettle, hOver⟩ := hBound₂ passes (by omega) (events ++ later) sinceNext
  exact ⟨h', (settle_of_next?_eq_some hPass hNext).trans hSettle, .pass hPass hOver⟩

theorem ComesTo.fallBack (gives : e.PassGives target h start result) :
    e.ComesTo target h (fun passes => e.settle passes target start 0 text) [start] result := by
  obtain ⟨bound, hBound⟩ := gives
  refine ⟨bound, fun passes hPasses later since => ?_⟩
  have sinceReport := since.trans
    (List.suffix_cons (.report (.depthExhausted start e.settings.maxDepth)) later)
  obtain ⟨events, hPass⟩ := hBound passes hPasses _ sinceReport
  exact ⟨_, hPass, .exhausted (.pass hPass .done)⟩

theorem settle_stops (gives : ∀ text, e.PassGives target h text (f text)) {k : Nat}
    {last : String} (stops : StopsAt f text k last) (hDepth : k < depth) :
    e.ComesTo target h (fun passes => e.settle passes target start depth text)
      (firstTexts f text (k + 1)) (f last) := by
  induction k generalizing text depth with
  | zero =>
    obtain ⟨hText, hLast⟩ := stops
    obtain rfl : text = last := Option.some.inj hText
    obtain ⟨depth, rfl⟩ := Nat.exists_eq_add_of_lt hDepth
    exact .settled (gives text) hLast
  | succ k ih =>
    obtain ⟨hText, hLast⟩ := stops
    rw [textAt_succ, Option.bind_eq_some_iff] at hText
    obtain ⟨next, hNext, hText⟩ := hText
    obtain ⟨depth, rfl⟩ := Nat.exists_eq_add_of_lt hDepth
    rw [firstTexts_succ hNext]
    exact .further (gives text) hNext (ih ⟨hText, hLast⟩ (by omega))

theorem settle_exhausts (gives : ∀ text, e.PassGives target h text (f text)) {last : String}
    (hGo : textAt f text depth = some last) :
    e.ComesTo target h (fun passes => e.settle passes target start depth text)
      (firstTexts f text depth ++ [start]) (f start) := by
  induction depth generalizing text with
  | zero => exact .fallBack (gives start)
  | succ depth ih =>
    rw [textAt_succ, Option.bind_eq_some_iff] at hGo
    obtain ⟨next, hNext, hGo⟩ := hGo
    rw [firstTexts_succ hNext]
    exact .further (gives text) hNext (ih hGo)

/-! ## Depths -/

/-- The engine with another number of passes that a text may take. -/
def withDepth (e : Engine) (depth : Nat) : Engine :=
  { e with settings := { e.settings with maxDepth := depth } }

/-- From a point of a run on, a text resolves to a result by passes over just these texts. -/
def ResolvesBy (e : Engine) (target : TargetType) (h : History) (start : String)
    (texts : List String) (result : Except ArgumentError Value) : Prop :=
  e.ComesTo target h (fun passes => e.resolveText passes start target) texts result

/-- What the depth means under steady providers and processors, given that every single pass comes to
    an end and gives what `f` says.  If the passes stop at a text, that text gives the result of every
    greater depth, and there is no pass beyond it.  If they do not stop before the depth, the result
    is that of one pass over the starting text, as for depth zero.  A text that a pass leaves as it
    is resolves to itself.  There is at most one pass more than the depth. -/
theorem resolveText_depth (e : Engine) (target : TargetType) (start : String) (h : History)
    (steady : e.resolver.dynamic.Steady h) (steadyProcessors : e.evaluator.Steady h)
    (f : String → Except ArgumentError Value) (isPass : e.IsPass target h f) :
    (∀ depth k last, StopsAt f start k last → k < depth →
      (e.withDepth depth).ResolvesBy target h start (firstTexts f start (k + 1)) (f last)) ∧
    (∀ depth, (∀ k < depth, ∀ last, ¬ StopsAt f start k last) →
      (e.withDepth depth).ResolvesBy target h start (firstTexts f start depth ++ [start])
        (f start)) ∧
    (e.withDepth 0).ResolvesBy target h start [start] (f start) ∧
    (∀ depth settled, f settled = .ok (.text settled) → 0 < depth →
      (e.withDepth depth).ResolvesBy target h settled [settled] (.ok (.text settled))) ∧
    (∀ depth, ∃ texts result, texts.length ≤ depth + 1 ∧
      (e.withDepth depth).ResolvesBy target h start texts result) := by
  have gives (depth : Nat) (text : String) :
      (e.withDepth depth).PassGives target h text (f text) := by
    obtain ⟨passes, h', hPass⟩ := isPass text
    exact passGives_of_pass (e := e.withDepth depth) steady steadyProcessors hPass
  have hStops (depth k : Nat) (start last : String) (stops : StopsAt f start k last)
      (hDepth : k < depth) :
      (e.withDepth depth).ResolvesBy target h start (firstTexts f start (k + 1)) (f last) :=
    settle_stops (gives depth) stops hDepth
  have hExhausts (depth : Nat) (hGo : ∀ k < depth, ∀ last, ¬ StopsAt f start k last) :
      (e.withDepth depth).ResolvesBy target h start (firstTexts f start depth ++ [start])
        (f start) := by
    obtain ⟨last, hLast⟩ := (exists_textAt_iff f start depth).2 hGo
    exact settle_exhausts (gives depth) hLast
  refine ⟨fun depth k => hStops depth k start, hExhausts, .fallBack (gives 0 start), ?_, ?_⟩
  · intro depth settled hSettled hDepth
    have stops : StopsAt f settled 0 settled := ⟨rfl, by simp [next?, hSettled]⟩
    rw [← hSettled]
    exact hStops depth 0 settled settled stops hDepth
  · -- with or without a stop the texts of the passes are counted by the depth
    intro depth
    by_cases hStop : ∃ k last, k < depth ∧ StopsAt f start k last
    · obtain ⟨k, last, hDepth, stops⟩ := hStop
      refine ⟨_, _, ?_, hStops depth k start last stops hDepth⟩
      exact Nat.le_trans (length_firstTexts_le f start (k + 1)) (by omega)
    · refine ⟨_, _, ?_, hExhausts depth fun k hk last stops => hStop ⟨k, last, hk, stops⟩⟩
      rw [List.length_append, List.length_singleton]
      exact Nat.succ_le_succ (length_firstTexts_le f start depth)

/-- Two variables that refer to each other, and one that refers to a number. -/
def circle : Engine where
  store := { story := [("a", .text "${b}"), ("b", .text "${a}"), ("n", .text "${m}"),
    ("m", .integer 7)] }
  processors := [nullProcessor]

theorem resolveText_depth_circle :
    circle.resolver.dynamic.Steady [] ∧ circle.evaluator.Steady [] ∧ ∃ f, circle.IsPass .text [] f ∧
      (circle.withDepth 3).ResolvesBy .text [] "${a}" ["${a}", "${b}", "${a}", "${a}"]
        (.ok (.text "${b}")) ∧
      (circle.withDepth 3).ResolvesBy .text [] "${n}" ["${n}", "${m}", "7"]
        (.ok (.text "7")) := by
  have steady : circle.resolver.dynamic.Steady [] := fun _ _ hGet => by cases hGet
  have steadyProcessors : circle.evaluator.Steady [] :=
    Evaluator.steady_of_constant (fun p hp => ⟨_, List.mem_singleton.1 hp⟩) []
  have thrifty : circle.evaluator.Thrifty := by
    intro p hMem _ expression value hValue
    obtain rfl := List.mem_singleton.1 hMem
    obtain ⟨-, hNull⟩ := Option.ite_none_right_eq_some.1 (Except.ok.inj hValue)
    obtain rfl := Option.some.inj hNull
    exact Nat.zero_le _
  obtain ⟨f, isPass⟩ := exists_isPass thrifty .text []
  have pass {text next : String}
      (hText : ((circle.pass 2 .text text []).bind fun r => r.1.toOption.bind Value.asText?) =
        some next) : f text = .ok (.text next) := by
    obtain ⟨h', hPass⟩ := Evaluator.eq_text_of_asText? hText
    exact isPass.eq steady steadyProcessors hPass
  have hA : f "${a}" = .ok (.text "${b}") := pass (by decide +kernel)
  have hB : f "${b}" = .ok (.text "${a}") := pass (by decide +kernel)
  have hN : f "${n}" = .ok (.text "${m}") := pass (by decide +kernel)
  have hM : f "${m}" = .ok (.text "7") := pass (by decide +kernel)
  have hSeven : f "7" = .ok (.text "7") := pass (by decide +kernel)
  have nextA : next? f "${a}" = some "${b}" := by simp [next?, hA]
  have nextB : next? f "${b}" = some "${a}" := by simp [next?, hB]
  have nextN : next? f "${n}" = some "${m}" := by simp [next?, hN]
  have nextM : next? f "${m}" = some "7" := by simp [next?, hM]
  obtain ⟨-, hRound, -⟩ :=
    resolveText_depth circle .text "${a}" [] steady steadyProcessors f isPass
  obtain ⟨hChain, -⟩ :=
    resolveText_depth circle .text "${n}" [] steady steadyProcessors f isPass
  refine ⟨steady, steadyProcessors, f, isPass, ?_, ?_⟩
  · have hThird : textAt f "${a}" 3 = some "${b}" := by simp [textAt, nextA, nextB]
    have resolves := hRound 3 ((exists_textAt_iff f "${a}" 3).1 ⟨_, hThird⟩)
    rwa [firstTexts_succ nextA, firstTexts_succ nextB, firstTexts_succ nextA, hA] at resolves
  · have stops : StopsAt f "${n}" 2 "7" :=
      ⟨by simp [textAt, nextN, nextM], by simp [next?, hSeven]⟩
    have resolves := hChain 3 2 "7" stops (by omega)
    rwa [firstTexts_succ nextN, firstTexts_succ nextM, hSeven] at resolves

end StepArguments.Engine
