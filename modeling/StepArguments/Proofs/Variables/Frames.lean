import Mathlib.Data.List.Infix
import StepArguments.Proofs.Variables.Changes

/-! # Frames nest

Opening and closing frames works like brackets: what a step does to its frames, as long as it closes
those that it opened, is gone when its own frame is closed (`run_balanced`).

The changes in between work on frames that stand on top of those of the store, and of these there is
at least one all the time (`exists_onTop_run`).  For this reason neither of the two things can happen
that would reach below: binding a variable opens no frame by itself, and closing takes away a frame
that was opened since.
-/

namespace StepArguments.Store

namespace Change

/-- Whether a change is one of the frames of steps and of nothing else. -/
def onFrames : Change → Bool
  | .put .step _ _ | .openStep | .closeStep => true
  | _ => false

def opens : Change → Bool
  | .openStep => true
  | _ => false

def closes : Change → Bool
  | .closeStep => true
  | _ => false

end Change

/-- Changes of frames in which each closing has an opening before it, and each opening a closing
    after it. -/
structure Balanced (changes : List Change) : Prop where
  onFrames : ∀ c ∈ changes, c.onFrames = true
  /-- Along the way no frame is closed that was not opened. -/
  sane : ∀ first, first <+: changes → first.countP Change.closes ≤ first.countP Change.opens
  /-- At the end none is left open. -/
  settled : changes.countP Change.closes = changes.countP Change.opens

/-- The store with frames on top of its own. -/
def onTop (s : Store) (inner : List Bindings) : Store :=
  { s with frames := inner ++ s.frames }

variable {s : Store} {c : Change} {inner : List Bindings}

/-- As long as there is a frame on top, a change keeps to the frames on top.  It makes one more of
    them or one less, or as many as there were. -/
theorem exists_onTop_change (s : Store) (onFrames : c.onFrames = true) (hInner : 0 < inner.length) :
    ∃ inner', (s.onTop inner).change c = s.onTop inner' ∧
      inner'.length + [c].countP Change.closes = inner.length + [c].countP Change.opens := by
  cases inner with
  | nil => cases hInner
  | cons frame inner =>
    cases c with
    | put scope name value =>
      cases scope with
      | step => exact ⟨frame.put name value :: inner, rfl, rfl⟩
      | _ => cases onFrames
    | openStep => exact ⟨[] :: frame :: inner, rfl, rfl⟩
    | closeStep => exact ⟨inner, rfl, rfl⟩
    | clearScenario | clearStory => cases onFrames

/-- The same of many changes, none of which closes the last frame on top. -/
theorem exists_onTop_run (s : Store) {changes : List Change}
    (onFrames : ∀ c ∈ changes, c.onFrames = true)
    (sane : ∀ first, first <+: changes →
      first.countP Change.closes < inner.length + first.countP Change.opens) :
    ∃ inner', (s.onTop inner).run changes = s.onTop inner' ∧
      inner'.length + changes.countP Change.closes =
        inner.length + changes.countP Change.opens := by
  induction changes generalizing inner with
  | nil => exact ⟨inner, rfl, rfl⟩
  | cons c changes ih =>
    obtain ⟨hFirst, hRest⟩ := List.forall_mem_cons.1 onFrames
    have hInner : 0 < inner.length := sane [] List.nil_prefix
    obtain ⟨next, hChange, hNext⟩ := exists_onTop_change s hFirst hInner
    -- what a start of the remaining changes may close is counted from the frames after this one
    have saneNext : ∀ first, first <+: changes →
        first.countP Change.closes < next.length + first.countP Change.opens := by
      intro first hPrefix
      have hSane := sane (c :: first) (List.cons_prefix_cons.2 ⟨rfl, hPrefix⟩)
      simp only [List.countP_cons, List.countP_nil] at hSane hNext
      omega
    obtain ⟨last, hRun, hLast⟩ := ih hRest saneNext
    refine ⟨last, ?_, ?_⟩
    · rw [run_cons, hChange, hRun]
    · simp only [List.countP_cons, List.countP_nil] at hNext ⊢
      omega

/-- A frame that is opened and closed leaves the store as it was, whatever balanced changes of
    frames come in between. -/
theorem run_balanced (s : Store) {changes : List Change} (balanced : Balanced changes) :
    s.run (.openStep :: changes ++ [.closeStep]) = s := by
  have sane : ∀ first, first <+: changes →
      first.countP Change.closes < [([] : Bindings)].length + first.countP Change.opens := by
    intro first hPrefix
    have hSane := balanced.sane first hPrefix
    rw [List.length_singleton]
    omega
  -- of the frames on top only the one that was opened first is left, and it is closed last
  obtain ⟨inner, hRun, hInner⟩ := exists_onTop_run s balanced.onFrames sane
  rw [balanced.settled, Nat.add_right_cancel_iff, List.length_singleton,
    List.length_eq_one_iff] at hInner
  obtain ⟨frame, rfl⟩ := hInner
  show (s.onTop [[]]).run (changes ++ [.closeStep]) = s
  rw [run_append, hRun]
  rfl

/-- Two frames, one of them inside the other, and a third one after them. -/
def visits : List Change :=
  [.put .step "a" (.text "1"), .openStep, .put .step "a" .null, .openStep, .closeStep, .closeStep,
    .openStep, .closeStep, .put .step "b" .null]

/-- In a store without frames no frame is there in the end. -/
theorem run_balanced_visits :
    Balanced visits ∧ (ofBatch [("a", .text "0")]).run (.openStep :: visits ++ [.closeStep]) =
      ofBatch [("a", .text "0")] := by
  have balanced : Balanced visits := by
    refine ⟨by decide, ?_, by decide⟩
    intro first hPrefix
    rw [← List.mem_inits] at hPrefix
    revert first
    decide
  exact ⟨balanced, run_balanced _ balanced⟩

end StepArguments.Store
