import StepArguments.Proofs.Variables.Provenance

/-! # Changes of the store

A run starts with the variables of its batch and changes the store one step at a time: it puts a
variable into a scope, opens or closes a frame, or clears a scope.  Whatever it does, no layer binds
a name twice (`Distinct.run`), so a layer can be read like a function of names.
-/

namespace StepArguments.Store

/-- One step by which a run changes the store. -/
inductive Change where
  | put (scope : Scope) (name : String) (value : Value)
  | openStep
  | closeStep
  | clearScenario
  | clearStory

def change (s : Store) : Change → Store
  | .put scope name value => s.put scope name value
  | .openStep => s.openStep
  | .closeStep => s.closeStep
  | .clearScenario => s.clearScenario
  | .clearStory => s.clearStory

/-- The store after some changes, in the order in which they are made. -/
def run (s : Store) (changes : List Change) : Store :=
  changes.foldl change s

/-- The store that a run starts with. -/
def ofBatch (bound : List (String × Value)) : Store where
  batch := Named.ofPairs bound

@[simp] theorem run_nil (s : Store) : s.run [] = s := rfl

@[simp] theorem run_cons (s : Store) (c : Change) (changes : List Change) :
    s.run (c :: changes) = (s.change c).run changes := rfl

@[simp] theorem run_append (s : Store) (changes more : List Change) :
    s.run (changes ++ more) = (s.run changes).run more :=
  List.foldl_append

theorem contents_eq (s : Store) : s.contents = s.frames ++ [s.scenario, s.story, s.batch] := by
  simp [contents, layers, Function.comp_def]

/-! ## Names of a layer -/

/-- No layer of the store binds a name twice. -/
structure Distinct (s : Store) : Prop where
  frames : ∀ frame ∈ s.frames, (Named.names frame).Nodup
  scenario : s.scenario.names.Nodup
  story : s.story.names.Nodup
  batch : s.batch.names.Nodup

variable {s : Store}

theorem Distinct.contents (distinct : s.Distinct) :
    ∀ bindings ∈ s.contents, bindings.names.Nodup := by
  intro bindings hMem
  rw [contents_eq, List.mem_append] at hMem
  rcases hMem with hFrame | hScope
  · exact distinct.frames bindings hFrame
  · simp only [List.mem_cons, List.not_mem_nil, or_false] at hScope
    rcases hScope with rfl | rfl | rfl
    · exact distinct.scenario
    · exact distinct.story
    · exact distinct.batch

theorem distinct_ofBatch (bound : List (String × Value)) : (ofBatch bound).Distinct where
  frames := by simp [ofBatch]
  scenario := List.nodup_nil
  story := List.nodup_nil
  batch := Named.nodup_names_ofPairs bound

theorem Distinct.putStep (distinct : s.Distinct) (name : String) (value : Value) :
    (s.putStep name value).Distinct := by
  unfold Store.putStep
  split
  · -- the frame that is opened for the variable binds nothing else
    refine { distinct with frames := ?_ }
    simp [Named.put, Named.names]
  · rename_i frame frames hFrames
    have hOld := distinct.frames
    rw [hFrames, List.forall_mem_cons] at hOld
    refine { distinct with frames := ?_ }
    exact List.forall_mem_cons.2 ⟨Named.nodup_names_put hOld.1 name value, hOld.2⟩

theorem Distinct.put (distinct : s.Distinct) (scope : Scope) (name : String) (value : Value) :
    (s.put scope name value).Distinct := by
  cases scope with
  | step => exact distinct.putStep name value
  | scenario => exact { distinct with scenario := Named.nodup_names_put distinct.scenario name value }
  | story => exact { distinct with story := Named.nodup_names_put distinct.story name value }
  | batch | default | environment =>
    exact { distinct with batch := Named.nodup_names_put distinct.batch name value }

theorem Distinct.change (distinct : s.Distinct) (c : Change) : (s.change c).Distinct := by
  cases c with
  | put scope name value => exact distinct.put scope name value
  | openStep =>
    refine { distinct with frames := ?_ }
    exact List.forall_mem_cons.2 ⟨List.nodup_nil, distinct.frames⟩
  | closeStep =>
    refine { distinct with frames := ?_ }
    intro frame hFrame
    exact distinct.frames frame (List.mem_of_mem_drop hFrame)
  | clearScenario => exact { distinct with scenario := List.nodup_nil }
  | clearStory => exact { distinct with story := List.nodup_nil }

theorem Distinct.run (distinct : s.Distinct) (changes : List Change) : (s.run changes).Distinct := by
  induction changes generalizing s with
  | nil => exact distinct
  | cons c changes ih => exact ih (distinct.change c)

end StepArguments.Store
