import Rzu.Library.Run
import Rzu.Pipeline.PipelineStep

/-!
# What a pipeline delivers

While no work fails and nothing is cancelled, every step hands on what was
queued to it, in order, and every output reaches the next step.
-/

namespace Rzu
namespace Pipeline

open Library (Run Avoids)

variable {data : Type _}

/-!
## Accounts of a run
-/

namespace Event

def queuedTo (i : Nat) : Event data -> List data
  | queue input => if i = 0 then [input] else []
  | queueToNext step output => if i = step + 1 then [output] else []
  | _ => []

def handedTo (i : Nat) : Event data -> List (List data)
  | doWork step _ inputs => if i = step then [inputs] else []
  | _ => []

def outputsOf (i : Nat) : Event data -> List data
  | workDone step _ outputs _ => if i = step then outputs else []
  | _ => []

/-- A work fails or the pipeline is cancelled. -/
def Disturbs : Event data -> Prop
  | workDone _ _ _ status => status ≠ 0
  | cancel => True
  | _ => False

end Event

def queuedTo (history : List (Event data)) (i : Nat) : List data :=
  history.flatMap (Event.queuedTo i)

/-- The blocks of inputs that a step handed to `doWork`. -/
def handedTo (history : List (Event data)) (i : Nat) : List (List data) :=
  history.flatMap (Event.handedTo i)

/-- The outputs of the completed works of a step. -/
def outputsOf (history : List (Event data)) (i : Nat) : List data :=
  history.flatMap (Event.outputsOf i)

theorem queuedTo_snoc (history : List (Event data)) (event : Event data)
    (i : Nat) :
    queuedTo (history ++ [event]) i =
      queuedTo history i ++ event.queuedTo i := by
  rw [queuedTo, queuedTo, List.flatMap_append, List.flatMap_singleton]

theorem handedTo_snoc (history : List (Event data)) (event : Event data)
    (i : Nat) :
    handedTo (history ++ [event]) i =
      handedTo history i ++ event.handedTo i := by
  rw [handedTo, handedTo, List.flatMap_append, List.flatMap_singleton]

theorem outputsOf_snoc (history : List (Event data)) (event : Event data)
    (i : Nat) :
    outputsOf (history ++ [event]) i =
      outputsOf history i ++ event.outputsOf i := by
  rw [outputsOf, outputsOf, List.flatMap_append, List.flatMap_singleton]

/-- The outputs of a step that the call still has to send. -/
def Frame.unsent (i : Nat) : Frame data -> List data
  | workDone step outputs => if i = step then outputs else []
  | _ => []

def Chain.unsent (chain : Chain data) (i : Nat) : List data :=
  chain.stack.flatMap (Frame.unsent i)

/-!
## Steps of a chain
-/

theorem getElem?_set_cases {steps : List (PipelineStep data)} {i k : Nat}
    {changed step : PipelineStep data}
    (h : (steps.set i changed)[k]? = some step) :
    (k = i ∧ step = changed) ∨ (k ≠ i ∧ steps[k]? = some step) := by
  rw [List.getElem?_set] at h
  by_cases heq : i = k
  · subst heq
    rw [if_pos rfl] at h
    split at h
    · cases h
      exact Or.inl ⟨rfl, rfl⟩
    · cases h
  · rw [if_neg heq] at h
    exact Or.inr ⟨fun hk => heq hk.symm, h⟩

theorem mergeInputs_all (maxBlockSize : UInt64)
    (pending inputQueue : List data) :
    (mergeInputs maxBlockSize pending inputQueue).1 ++
        (mergeInputs maxBlockSize pending inputQueue).2.1 =
      pending ++ inputQueue := by
  induction inputQueue generalizing pending with
  | nil => rfl
  | cons input inputQueue ih =>
      rw [mergeInputs]
      split
      · rw [ih, List.append_assoc, List.singleton_append]
      · exact List.append_cons pending input inputQueue |>.symm

theorem mergeInputs_done (maxBlockSize : UInt64)
    (pending inputQueue : List data) :
    (mergeInputs maxBlockSize pending inputQueue).2.2 = false := by
  induction inputQueue generalizing pending with
  | nil => rfl
  | cons input inputQueue ih =>
      rw [mergeInputs]
      split
      · exact ih _
      · rename_i hstop
        cases inputQueue with
        | nil => rfl
        | cons next inputQueue => simpa using hstop

namespace PipelineStep

/-- What every step of an undisturbed chain looks like. -/
structure Valid (step : PipelineStep data) : Prop where
  counted : step.running = step.workInProgress.length
  bounded : step.running ≤ step.limits.maxParallelWork.toNat
  flushed : step.pendingNextWorkQueue = []
  wanted : forall work, work ∈ step.workInProgress -> work.canceled = false

variable {step merged : PipelineStep data}

theorem Valid.push (h : step.Valid) (input : data) :
    (step.push input).Valid :=
  ⟨h.counted, h.bounded, h.flushed, h.wanted⟩

theorem merge_eq (hmerge : step.merge = (merged, false)) :
    merged.limits = step.limits ∧ merged.running = step.running ∧
      merged.workInProgress = step.workInProgress ∧
      merged.pendingNextWorkQueue ++ merged.inputQueue =
        step.pendingNextWorkQueue ++ step.inputQueue := by
  have hmerged : merged = step.merge.1 := by
    rw [hmerge]
  subst hmerged
  exact ⟨rfl, rfl, rfl, mergeInputs_all _ _ _⟩

theorem merge_done : step.merge ≠ (merged, true) := by
  intro hmerge
  have hdone : step.merge.2 = false := mergeInputs_done _ _ _
  rw [hmerge] at hdone
  cases hdone

theorem Valid.startWork (h : step.Valid) {isNextFull : Bool}
    (hloop : step.canWork isNextFull = true)
    (hmerge : step.merge = (merged, false)) (item : Nat) :
    (merged.startWork item).Valid := by
  rcases merge_eq hmerge with ⟨hlimits, hrunning, hworks, -⟩
  have hroom : step.running < step.limits.maxParallelWork.toNat := by
    rw [canWork, Bool.and_eq_true, Bool.and_eq_true] at hloop
    exact of_decide_eq_true hloop.left.left
  constructor
  · change merged.running + 1 = (merged.workInProgress ++ _).length
    rw [List.length_append, hrunning, hworks, h.counted]
    rfl
  · change merged.running + 1 ≤ merged.limits.maxParallelWork.toNat
    rw [hrunning, hlimits]
    exact hroom
  · rfl
  · intro work hmem
    change work ∈ merged.workInProgress ++ _ at hmem
    rw [hworks, List.mem_append] at hmem
    rcases hmem with hmem | hmem
    · exact h.wanted work hmem
    · rw [List.mem_singleton.mp hmem]

theorem Valid.workDone (h : step.Valid) {item : Nat} {work : WorkItem data}
    (hwork : step.findWork item = some work) :
    (step.workDone item).Valid := by
  have hmem := List.mem_of_find?_eq_some hwork
  have hitem := List.find?_some hwork
  constructor
  · change step.running - 1 = (step.workInProgress.eraseP _).length
    rw [List.length_eraseP_of_mem hmem hitem, h.counted]
  · exact Nat.le_trans (Nat.sub_le _ _) h.bounded
  · exact h.flushed
  · intro other hother
    exact h.wanted other (List.mem_of_mem_eraseP hother)

end PipelineStep

/-!
## What every event preserves
-/

namespace Chain

def Valid (chain : Chain data) : Prop :=
  forall (i : Nat) (step : PipelineStep data),
    chain.steps[i]? = some step -> step.Valid

/-- The accounts of a chain are settled but for what it still holds. -/
structure Settled (history : List (Event data)) (chain : Chain data) :
    Prop where
  inputs : forall (i : Nat) (step : PipelineStep data),
    chain.steps[i]? = some step -> queuedTo history i = (handedTo history i).flatten ++
      step.pendingNextWorkQueue ++ step.inputQueue
  outputs : forall i, i + 1 < chain.steps.length ->
    (outputsOf history i).Perm
      (queuedTo history (i + 1) ++ chain.unsent i)

variable {chain chain' : Chain data} {event : Event data}

theorem Valid.set (h : chain.Valid) {i : Nat} {changed : PipelineStep data}
    (hchanged : changed.Valid) {stack : List (Frame data)} {created : Nat} :
    Valid ⟨chain.steps.set i changed, stack, created⟩ := by
  intro k step hstep
  rcases getElem?_set_cases hstep with ⟨-, heq⟩ | ⟨-, hold⟩
  · rw [heq]
    exact hchanged
  · exact h k step hold

theorem Valid.step (h : chain.Valid) (hstep : Step chain event chain')
    (hcalm : ¬event.Disturbs) : chain'.Valid := by
  cases hstep with
  | queue input _ hfirst => exact h.set ((h _ _ hfirst).push input)
  | doWork _ hold hloop hmerge =>
      exact h.set ((h _ _ hold).startWork hloop hmerge _)
  | keepBlock _ _ _ hmerge =>
      exact absurd hmerge PipelineStep.merge_done
  | endLoop => exact h
  | returned => exact h
  | workDone outputs status _ hold hwork =>
      exact h.set ((h _ _ hold).workDone hwork)
  | queueToNext _ hnext => exact h.set ((h _ _ hnext).push _)
  | sent => exact h
  | cancel => exact absurd trivial hcalm

theorem steps_limits (hstep : Step chain event chain') :
    chain'.steps.map PipelineStep.limits =
      chain.steps.map PipelineStep.limits := by
  have hset : forall {i : Nat} {old changed : PipelineStep data},
      chain.steps[i]? = some old -> changed.limits = old.limits ->
      (chain.steps.set i changed).map PipelineStep.limits =
        chain.steps.map PipelineStep.limits := by
    intro i old changed hold hlimits
    rcases List.getElem?_eq_some_iff.mp hold with ⟨hbound, hget⟩
    have hmapped : i < (chain.steps.map PipelineStep.limits).length := by
      rw [List.length_map]
      exact hbound
    have hsame :
        (chain.steps.map PipelineStep.limits)[i] = old.limits := by
      rw [List.getElem_map, hget]
    rw [List.map_set, hlimits, <- hsame]
    exact List.set_getElem_self hmapped
  cases hstep with
  | queue input _ hfirst => exact hset hfirst rfl
  | doWork _ hold _ hmerge =>
      exact hset hold (PipelineStep.merge_eq hmerge).left
  | keepBlock _ _ _ hmerge =>
      exact absurd hmerge PipelineStep.merge_done
  | endLoop => rfl
  | returned => rfl
  | workDone outputs status _ hold hwork => exact hset hold rfl
  | queueToNext _ hnext => exact hset hnext rfl
  | sent => rfl
  | cancel =>
      rw [List.map_map]
      rfl

/-!
### Accounts
-/

variable {history : List (Event data)}

theorem Settled.inputs_of_same (h : Settled history chain)
    (hsteps : chain'.steps = chain.steps)
    (hqueued : forall i, event.queuedTo i = [])
    (hhanded : forall i, event.handedTo i = []) :
    forall (i : Nat) (step : PipelineStep data),
      chain'.steps[i]? = some step ->
      queuedTo (history ++ [event]) i =
        (handedTo (history ++ [event]) i).flatten ++
          step.pendingNextWorkQueue ++ step.inputQueue := by
  intro i step hstep
  rw [hsteps] at hstep
  rw [queuedTo_snoc, handedTo_snoc, hqueued, hhanded, List.append_nil,
    List.append_nil]
  exact h.inputs i step hstep

theorem Settled.inputs_of_set (h : Settled history chain) {i : Nat}
    {old changed : PipelineStep data} (hold : chain.steps[i]? = some old)
    (hsteps : chain'.steps = chain.steps.set i changed)
    (hqueued : forall k, k ≠ i -> event.queuedTo k = [])
    (hhanded : forall k, k ≠ i -> event.handedTo k = [])
    (hchanged : old.pendingNextWorkQueue ++ old.inputQueue ++
      event.queuedTo i = (event.handedTo i).flatten ++
        changed.pendingNextWorkQueue ++ changed.inputQueue) :
    forall (k : Nat) (step : PipelineStep data),
      chain'.steps[k]? = some step ->
      queuedTo (history ++ [event]) k =
        (handedTo (history ++ [event]) k).flatten ++
          step.pendingNextWorkQueue ++ step.inputQueue := by
  intro k step hstep
  rw [hsteps] at hstep
  rw [queuedTo_snoc, handedTo_snoc]
  rcases getElem?_set_cases hstep with ⟨heq, hnew⟩ | ⟨hne, hsame⟩
  · subst heq
    rw [hnew, h.inputs k old hold, List.flatten_append]
    simp only [List.append_assoc] at hchanged ⊢
    rw [hchanged]
  · rw [hqueued k hne, hhanded k hne, List.append_nil, List.append_nil]
    exact h.inputs k step hsame

theorem Settled.outputs_of_same (h : Settled history chain)
    (hlength : chain'.steps.length = chain.steps.length)
    (hqueued : forall i, event.queuedTo (i + 1) = [])
    (houtputs : forall i, event.outputsOf i = [])
    (hunsent : forall i, i + 1 < chain.steps.length ->
      chain'.unsent i = chain.unsent i) :
    forall i, i + 1 < chain'.steps.length ->
      (outputsOf (history ++ [event]) i).Perm
        (queuedTo (history ++ [event]) (i + 1) ++ chain'.unsent i) := by
  intro i hlt
  rw [hlength] at hlt
  rw [outputsOf_snoc, queuedTo_snoc, houtputs, hqueued, List.append_nil,
    List.append_nil, hunsent i hlt]
  exact h.outputs i hlt

theorem unsent_cons {frame : Frame data} {i : Nat}
    (hframe : frame.unsent i = []) (steps : List (PipelineStep data))
    (rest : List (Frame data)) (created : Nat) :
    Chain.unsent ⟨steps, frame :: rest, created⟩ i =
      rest.flatMap (Frame.unsent i) := by
  change frame.unsent i ++ rest.flatMap (Frame.unsent i) = _
  rw [hframe, List.nil_append]

theorem unsent_eq {frame : Frame data} {rest : List (Frame data)}
    (hstack : chain.stack = frame :: rest) (i : Nat) :
    chain.unsent i = frame.unsent i ++ rest.flatMap (Frame.unsent i) := by
  rw [unsent, hstack, List.flatMap_cons]

theorem Settled.step (h : Settled history chain) (hvalid : chain.Valid)
    (hstep : Step chain event chain') (hcalm : ¬event.Disturbs) :
    Settled (history ++ [event]) chain' := by
  cases hstep with
  | queue input houtside hfirst =>
      constructor
      · apply h.inputs_of_set hfirst rfl
        · intro k hne
          exact if_neg hne
        · intro k hne
          rfl
        · change _ = [] ++ _ ++ (_ ++ [input])
          rw [List.nil_append, List.append_assoc]
          rfl
      · apply h.outputs_of_same
        · exact List.length_set
        · intro i
          rfl
        · intro i
          rfl
        · intro i hlt
          rfl
  | doWork hstack hold hloop hmerge =>
      rename_i i rest old merged
      rcases PipelineStep.merge_eq hmerge with ⟨-, -, -, hall⟩
      constructor
      · apply h.inputs_of_set hold rfl
        · intro k hne
          rfl
        · intro k hne
          exact if_neg hne
        · rw [Event.handedTo, if_pos rfl, <- hall]
          change _ ++ [] = [merged.pendingNextWorkQueue].flatten ++ [] ++
            merged.inputQueue
          rw [List.append_nil, List.append_nil, List.flatten_singleton]
      · apply h.outputs_of_same
        · exact List.length_set
        · intro k
          rfl
        · intro k
          rfl
        · intro k hlt
          rw [unsent_cons rfl, unsent_eq hstack]
          rfl
  | keepBlock hstack hold hloop hmerge =>
      exact absurd hmerge PipelineStep.merge_done
  | endLoop hstack hold hloop =>
      rename_i i rest old
      constructor
      · exact h.inputs_of_same rfl (fun _ => rfl) (fun _ => rfl)
      · apply h.outputs_of_same
        · rfl
        · intro k
          rfl
        · intro k
          rfl
        · intro k hlt
          rw [unsent_eq hstack]
          change List.flatMap _ (if _ then _ else _) = _
          split
          · rfl
          · rfl
  | returned hstack =>
      constructor
      · exact h.inputs_of_same rfl (fun _ => rfl) (fun _ => rfl)
      · apply h.outputs_of_same
        · rfl
        · intro k
          rfl
        · intro k
          rfl
        · intro k hlt
          rw [unsent_cons rfl, unsent_eq hstack]
          rfl
  | workDone outputs status houtside hold hwork =>
      rename_i i item old work
      have hwanted := (hvalid i old hold).wanted work
        (List.mem_of_find?_eq_some hwork)
      have hstatus : status = 0 := Decidable.of_not_not hcalm
      constructor
      · apply h.inputs_of_set hold rfl
        · intro k hne
          rfl
        · intro k hne
          rfl
        · change _ ++ [] = [] ++ _ ++ _
          rw [List.append_nil, List.nil_append]
          rfl
      · intro k hlt
        rw [List.length_set] at hlt
        rw [outputsOf_snoc, queuedTo_snoc, if_pos ⟨hwanted, hstatus⟩]
        change (_ ++ if k = i then outputs else []).Perm
          (_ ++ [] ++ ((if k = i then outputs else []) ++ chain.unsent k))
        rw [List.append_nil]
        have hperm := (h.outputs k hlt).append_right
          (if k = i then outputs else [])
        rw [List.append_assoc] at hperm
        exact hperm.trans (List.perm_append_comm.append_left _)
  | queueToNext hstack hnext =>
      rename_i i output outputs rest next
      constructor
      · apply h.inputs_of_set hnext rfl
        · intro k hne
          exact if_neg hne
        · intro k hne
          rfl
        · rw [Event.queuedTo, if_pos rfl]
          change _ = [] ++ _ ++ (_ ++ [output])
          rw [List.nil_append, List.append_assoc]
          rfl
      · intro k hlt
        rw [List.length_set] at hlt
        have hperm := h.outputs k hlt
        rw [unsent_eq hstack] at hperm
        rw [outputsOf_snoc, queuedTo_snoc, unsent_cons rfl]
        change (_ ++ []).Perm (_ ++ (if k + 1 = i + 1 then [output] else []) ++
          ((if k = i then outputs else []) ++ _))
        rw [List.append_nil]
        rw [Frame.unsent] at hperm
        by_cases heq : k = i
        · subst heq
          rw [if_pos rfl] at hperm
          rw [if_pos rfl, if_pos rfl, List.append_assoc]
          exact hperm
        · rw [if_neg heq] at hperm
          rw [if_neg heq, if_neg fun hk => heq (Nat.succ.inj hk),
            List.append_nil]
          exact hperm
  | sent hstack hsent =>
      rename_i i outputs rest
      constructor
      · exact h.inputs_of_same rfl (fun _ => rfl) (fun _ => rfl)
      · apply h.outputs_of_same
        · rfl
        · intro k
          rfl
        · intro k
          rfl
        · intro k hlt
          rw [unsent_cons rfl, unsent_eq hstack, Frame.unsent]
          by_cases heq : k = i
          · subst heq
            rcases hsent with hnil | hlast
            · rw [hnil, ite_self, List.nil_append]
            · rw [List.getElem?_eq_none_iff] at hlast
              exact absurd hlt (Nat.not_lt.mpr hlast)
          · rw [if_neg heq, List.nil_append]
  | cancel => exact absurd trivial hcalm

end Chain

end Pipeline
end Rzu
