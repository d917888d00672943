import Mathlib.Algebra.Ring.Int.Defs
import Mathlib.Data.List.Basic

/-!
# Pipelines

Steps are plugged into a chain.  A step queues its inputs, hands blocks of
them to works and queues what a work puts out to the next step.  Works are
done by code outside of the pipeline, which may call back into it from within
`doWork`, so the calls that are under way form a stack.
-/

namespace Rzu
namespace Pipeline

variable {data : Type _}

/-!
## One step
-/

/-- The constant members of `PipelineStepBase`. -/
structure Limits where
  maxSize : UInt64
  maxParallelWork : UInt64
  maxBlockSize : UInt64
deriving DecidableEq

structure WorkItem (data : Type _) where
  item : Nat
  inputs : List data
  canceled : Bool
deriving DecidableEq

structure PipelineStep (data : Type _) where
  limits : Limits
  running : Nat
  inputQueue : List data
  pendingNextWorkQueue : List data
  workInProgress : List (WorkItem data)
deriving DecidableEq

/-- `PipelineStepBase::doCheckMergeInput` -/
def doCheckMergeInput (maxBlockSize : UInt64)
    (inputQueue pendingInputs : List data) : Bool :=
  0 < inputQueue.length && pendingInputs.length < maxBlockSize.toNat

/-- The inner loop of `doNextWork`, with the last value of `mergeInput`. -/
def mergeInputs (maxBlockSize : UInt64) (pending : List data) :
    List data -> List data × List data × Bool
  | [] => (pending, [], false)
  | input :: inputQueue =>
      let pending := pending ++ [input]
      let mergeInput := doCheckMergeInput maxBlockSize inputQueue pending
      if !inputQueue.isEmpty && mergeInput then
        mergeInputs maxBlockSize pending inputQueue
      else
        (pending, inputQueue, mergeInput)

namespace PipelineStep

/-- `PipelineStepBase(maxSize, maxParallelWork, maxBlockSize)` -/
def plugged (limits : Limits) : PipelineStep data where
  limits := limits
  running := 0
  inputQueue := []
  pendingNextWorkQueue := []
  workInProgress := []

/-- `PipelineStepBase::inputAvailable`, about this step alone. -/
def inputAvailable (step : PipelineStep data) : Int :=
  step.limits.maxSize.toInt64.toInt - step.running - step.inputQueue.length

def push (step : PipelineStep data) (input : data) : PipelineStep data :=
  { step with inputQueue := step.inputQueue ++ [input] }

/-- The condition of the loop of `doNextWork`. -/
def canWork (step : PipelineStep data) (isNextFull : Bool) : Bool :=
  step.running < step.limits.maxParallelWork.toNat && !isNextFull &&
    !step.inputQueue.isEmpty

def merge (step : PipelineStep data) : PipelineStep data × Bool :=
  let merged := mergeInputs step.limits.maxBlockSize step.pendingNextWorkQueue
    step.inputQueue
  ({ step with
      pendingNextWorkQueue := merged.1, inputQueue := merged.2.1 }, merged.2.2)

def startWork (step : PipelineStep data) (item : Nat) : PipelineStep data :=
  { step with
    running := step.running + 1
    pendingNextWorkQueue := []
    workInProgress :=
      step.workInProgress ++ [⟨item, step.pendingNextWorkQueue, false⟩] }

def findWork (step : PipelineStep data) (item : Nat) :
    Option (WorkItem data) :=
  step.workInProgress.find? fun work => work.item == item

/-- `PipelineStepBase::workDone` -/
def workDone (step : PipelineStep data) (item : Nat) : PipelineStep data :=
  { step with
    workInProgress :=
      step.workInProgress.eraseP fun work => work.item == item
    running := step.running - 1 }

def cancel (step : PipelineStep data) : PipelineStep data :=
  { step with
    inputQueue := []
    pendingNextWorkQueue := []
    workInProgress :=
      step.workInProgress.map fun work => { work with canceled := true } }

end PipelineStep

/-!
## The chain
-/

/-- The calls that have not returned yet. -/
inductive Frame (data : Type _) where
  /-- `doNextWork`, before the condition of its loop. -/
  | doNextWork (step : Nat)
  /-- The loop of `doNextWork`, in its call of `doWork`. -/
  | doWork (step item : Nat)
  /-- `workDone`, with the outputs that `queueToNext` still has to send. -/
  | workDone (step : Nat) (outputs : List data)
deriving DecidableEq

structure Chain (data : Type _) where
  /-- Each step is plugged into the one before. -/
  steps : List (PipelineStep data)
  /-- The innermost call first. -/
  stack : List (Frame data)
  /-- How many works there were. -/
  created : Nat
deriving DecidableEq

/-- `PipelineStep::inputAvailable` of the first of the steps. -/
def inputAvailable : List (PipelineStep data) -> Int
  | [] => 0
  | step :: next => step.inputAvailable + inputAvailable next

def Frame.isOutside : Frame data -> Bool
  | .doWork _ _ => true
  | _ => false

namespace Chain

def plugged (limits : List Limits) : Chain data :=
  ⟨limits.map PipelineStep.plugged, [], 0⟩

/-- `PipelineStep::isNextFull` -/
def isNextFull (chain : Chain data) (i : Nat) : Bool :=
  match chain.steps.drop (i + 1) with
  | [] => false
  | next => inputAvailable next ≤ 0

/-- The code that runs is not the pipeline's own. -/
def Outside (chain : Chain data) : Prop :=
  forall frame, chain.stack.head? = some frame -> frame.isOutside = true

instance (chain : Chain data) : Decidable chain.Outside :=
  match h : chain.stack.head? with
  | none => isTrue (by
      intro frame heq
      rw [h] at heq
      cases heq)
  | some frame =>
      decidable_of_iff (frame.isOutside = true) (by
        constructor
        · intro houtside other heq
          rw [h] at heq
          cases heq
          exact houtside
        · intro houtside
          exact houtside frame h)

end Chain

inductive Event (data : Type _) where
  /-- `queue` is called on the first step. -/
  | queue (input : data)
  /-- A block of inputs is handed to `doWork`. -/
  | doWork (step item : Nat) (inputs : List data)
  /-- The loop of `doNextWork` keeps a block back. -/
  | keepBlock (step : Nat)
  /-- The loop of `doNextWork` ends. -/
  | endLoop (step : Nat)
  /-- `doWork` returns. -/
  | returned (step item : Nat)
  /-- A work calls `workDone`. -/
  | workDone (step item : Nat) (outputs : List data) (status : Int)
  /-- `queueToNext` calls `queue` on the next step. -/
  | queueToNext (step : Nat) (output : data)
  /-- `workDone` goes on with `doNextWork`. -/
  | sent (step : Nat)
  /-- `cancel` is called on the first step. -/
  | cancel
deriving DecidableEq

/-- What can happen next. -/
inductive Step : Chain data -> Event data -> Chain data -> Prop where
  | queue {chain : Chain data} {first : PipelineStep data} (input : data)
      (houtside : chain.Outside) (hfirst : chain.steps[0]? = some first) :
      Step chain (.queue input)
        { chain with
          steps := chain.steps.set 0 (first.push input)
          stack := .doNextWork 0 :: chain.stack }
  | doWork {chain : Chain data} {i : Nat} {rest : List (Frame data)}
      {step merged : PipelineStep data}
      (hstack : chain.stack = .doNextWork i :: rest)
      (hstep : chain.steps[i]? = some step)
      (hloop : step.canWork (chain.isNextFull i) = true)
      (hmerge : step.merge = (merged, false)) :
      Step chain (.doWork i chain.created merged.pendingNextWorkQueue)
        ⟨chain.steps.set i (merged.startWork chain.created),
          .doWork i chain.created :: rest, chain.created + 1⟩
  | keepBlock {chain : Chain data} {i : Nat} {rest : List (Frame data)}
      {step merged : PipelineStep data}
      (hstack : chain.stack = .doNextWork i :: rest)
      (hstep : chain.steps[i]? = some step)
      (hloop : step.canWork (chain.isNextFull i) = true)
      (hmerge : step.merge = (merged, true)) :
      Step chain (.keepBlock i)
        { chain with steps := chain.steps.set i merged }
  | endLoop {chain : Chain data} {i : Nat} {rest : List (Frame data)}
      {step : PipelineStep data}
      (hstack : chain.stack = .doNextWork i :: rest)
      (hstep : chain.steps[i]? = some step)
      (hloop : step.canWork (chain.isNextFull i) = false) :
      Step chain (.endLoop i)
        { chain with
          stack :=
            if 0 < inputAvailable (chain.steps.drop i) ∧ 0 < i then
              .doNextWork (i - 1) :: rest
            else rest }
  | returned {chain : Chain data} {i item : Nat} {rest : List (Frame data)}
      (hstack : chain.stack = .doWork i item :: rest) :
      Step chain (.returned i item)
        { chain with stack := .doNextWork i :: rest }
  | workDone {chain : Chain data} {i item : Nat} {step : PipelineStep data}
      {work : WorkItem data} (outputs : List data) (status : Int)
      (houtside : chain.Outside) (hstep : chain.steps[i]? = some step)
      (hwork : step.findWork item = some work) :
      Step chain (.workDone i item outputs status)
        { chain with
          steps := chain.steps.set i (step.workDone item)
          stack :=
            if work.canceled = false ∧ status = 0 then
              .workDone i outputs :: chain.stack
            else chain.stack }
  | queueToNext {chain : Chain data} {i : Nat} {output : data}
      {outputs : List data} {rest : List (Frame data)}
      {next : PipelineStep data}
      (hstack : chain.stack = .workDone i (output :: outputs) :: rest)
      (hnext : chain.steps[i + 1]? = some next) :
      Step chain (.queueToNext i output)
        { chain with
          steps := chain.steps.set (i + 1) (next.push output)
          stack := .doNextWork (i + 1) :: .workDone i outputs :: rest }
  | sent {chain : Chain data} {i : Nat} {outputs : List data}
      {rest : List (Frame data)}
      (hstack : chain.stack = .workDone i outputs :: rest)
      (hsent : outputs = [] ∨ chain.steps[i + 1]? = none) :
      Step chain (.sent i)
        { chain with stack := .doNextWork i :: rest }
  | cancel {chain : Chain data} (houtside : chain.Outside) :
      Step chain .cancel
        { chain with steps := chain.steps.map PipelineStep.cancel }

end Pipeline
end Rzu
