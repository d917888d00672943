import Mathlib.Algebra.Ring.Nat
import Mathlib.Algebra.Order.BigOperators.Group.List
import Mathlib.Algebra.Order.Group.Nat
import Rzu.Pipeline.Delivery

/-!
# No wake-up is lost

Inputs wait in a step because its works are at their limit, because a step
further down has no room, or because a call under way will look at them again.
-/

namespace Rzu
namespace Pipeline

open Library (Run Avoids)

variable {data : Type _}

/-- The call goes on to look at the queue of the step by itself. -/
def Frame.Resumes (k : Nat) : Frame data -> Prop
  | doNextWork i => k ≤ i
  | workDone i _ => k ≤ i
  | doWork _ _ => False

namespace Chain

/-- A step further down the chain has no room. -/
def FullBeyond (chain : Chain data) (k : Nat) : Prop :=
  exists j, k < j ∧ j < chain.steps.length ∧
    inputAvailable (chain.steps.drop j) ≤ 0

/-- The innermost call goes on to look at the queue of the step. -/
def Resumes (chain : Chain data) (k : Nat) : Prop :=
  exists frame, chain.stack.head? = some frame ∧ frame.Resumes k

/-- The work of a step further down that is in `doWork` is not done yet. -/
def Works (chain : Chain data) (k : Nat) : Prop :=
  exists i item step work, .doWork i item ∈ chain.stack ∧ k ≤ i ∧
    chain.steps[i]? = some step ∧ step.findWork item = some work

/-- What an input waits for will look at it again. -/
def Wakeful (chain : Chain data) : Prop :=
  forall (k : Nat) (step : PipelineStep data),
    chain.steps[k]? = some step -> step.inputQueue ≠ [] ->
    step.limits.maxParallelWork.toNat ≤ step.running ∨ chain.FullBeyond k ∨
      chain.Resumes k ∨ chain.Works k

variable {chain chain' : Chain data} {event : Event data}

theorem not_resumes (houtside : chain.Outside) (k : Nat) :
    ¬chain.Resumes k := by
  intro hresumes
  rcases hresumes with ⟨frame, hhead, hframe⟩
  have hout := houtside frame hhead
  cases frame with
  | doNextWork i => cases hout
  | workDone i outputs => cases hout
  | doWork i item => exact hframe

theorem FullBeyond.of_set {k : Nat} (h : chain.FullBeyond k) {i : Nat}
    (hle : i ≤ k) {changed : PipelineStep data}
    (hsteps : chain'.steps = chain.steps.set i changed) :
    chain'.FullBeyond k := by
  rcases h with ⟨j, hkj, hlength, hfull⟩
  refine ⟨j, hkj, ?_, ?_⟩
  · rw [hsteps, List.length_set]
    exact hlength
  · rw [hsteps, List.drop_set_of_lt (Nat.lt_of_le_of_lt hle hkj)]
    exact hfull

theorem Works.of_set {k : Nat} (h : chain.Works k) {i : Nat} (hlt : i < k)
    {changed : PipelineStep data}
    (hsteps : chain'.steps = chain.steps.set i changed)
    (hstack : forall j item, .doWork j item ∈ chain.stack ->
      .doWork j item ∈ chain'.stack) : chain'.Works k := by
  rcases h with ⟨j, item, step, work, hmem, hle, hstep, hwork⟩
  refine ⟨j, item, step, work, hstack j item hmem, hle, ?_, hwork⟩
  have hne : i ≠ j := Nat.ne_of_lt (Nat.lt_of_lt_of_le hlt hle)
  rw [hsteps, List.getElem?_set_ne hne]
  exact hstep

theorem Wakeful.of_set (h : chain.Wakeful) {i : Nat}
    {changed : PipelineStep data}
    (hsteps : chain'.steps = chain.steps.set i changed)
    (hstack : forall j item, .doWork j item ∈ chain.stack ->
      .doWork j item ∈ chain'.stack)
    (hfar : forall k, i < k -> ¬chain.Resumes k)
    (hnear : forall k, k ≤ i -> chain'.Resumes k ∨ chain'.Works k) :
    chain'.Wakeful := by
  intro k step hstep hqueue
  rcases Nat.lt_or_ge i k with hlt | hle
  · have hold : chain.steps[k]? = some step := by
      rw [hsteps, List.getElem?_set_ne (Nat.ne_of_lt hlt)] at hstep
      exact hstep
    rcases h k step hold hqueue with hfull | hbeyond | hresumes | hworks
    · exact Or.inl hfull
    · exact Or.inr (Or.inl (hbeyond.of_set (Nat.le_of_lt hlt) hsteps))
    · exact absurd hresumes (hfar k hlt)
    · exact Or.inr (Or.inr (Or.inr (hworks.of_set hlt hsteps hstack)))
  · exact Or.inr (Or.inr (hnear k hle))

theorem Wakeful.of_stack (h : chain.Wakeful)
    (hsteps : chain'.steps = chain.steps)
    (hresumes : forall k step, chain.steps[k]? = some step ->
      step.inputQueue ≠ [] -> chain.Resumes k ->
      step.limits.maxParallelWork.toNat ≤ step.running ∨
        chain'.FullBeyond k ∨ chain'.Resumes k ∨ chain'.Works k)
    (hworks : forall k, chain.Works k ->
      chain'.Resumes k ∨ chain'.Works k) : chain'.Wakeful := by
  intro k step hstep hqueue
  rw [hsteps] at hstep
  rcases h k step hstep hqueue with hfull | hbeyond | hresume | hwork
  · exact Or.inl hfull
  · right
    left
    rcases hbeyond with ⟨j, hlt, hlength, hroom⟩
    refine ⟨j, hlt, ?_, ?_⟩
    · rw [hsteps]
      exact hlength
    · rw [hsteps]
      exact hroom
  · exact hresumes k step hstep hqueue hresume
  · exact Or.inr (Or.inr (hworks k hwork))

theorem resumes_of_head {frame : Frame data} {rest : List (Frame data)}
    (hstack : chain.stack = frame :: rest) {k : Nat} :
    chain.Resumes k ↔ frame.Resumes k := by
  constructor
  · intro h
    rcases h with ⟨other, hhead, hother⟩
    rw [hstack] at hhead
    cases hhead
    exact hother
  · intro h
    refine ⟨frame, ?_, h⟩
    rw [hstack]
    rfl

theorem resumes_doNextWork {k i : Nat} (hle : k ≤ i)
    {steps : List (PipelineStep data)} {rest : List (Frame data)}
    {created : Nat} :
    Resumes ⟨steps, .doNextWork i :: rest, created⟩ k :=
  ⟨.doNextWork i, rfl, hle⟩

theorem resumes_workDone {k i : Nat} (hle : k ≤ i) {outputs : List data}
    {steps : List (PipelineStep data)} {rest : List (Frame data)}
    {created : Nat} :
    Resumes ⟨steps, .workDone i outputs :: rest, created⟩ k :=
  ⟨.workDone i outputs, rfl, hle⟩

theorem blocked_of_endLoop {i : Nat} {step : PipelineStep data}
    (hqueue : step.inputQueue ≠ [])
    (hloop : step.canWork (chain.isNextFull i) = false) :
    step.limits.maxParallelWork.toNat ≤ step.running ∨
      chain.FullBeyond i := by
  rcases Nat.lt_or_ge step.running step.limits.maxParallelWork.toNat with
    hroom | hfull
  · right
    have hempty : step.inputQueue.isEmpty = false :=
      List.isEmpty_eq_false_iff.mpr hqueue
    rw [PipelineStep.canWork, decide_eq_true hroom, hempty, Bool.true_and,
      Bool.not_false, Bool.and_true, Bool.not_eq_false'] at hloop
    rw [isNextFull] at hloop
    split at hloop
    · cases hloop
    · rename_i next hdrop
      refine ⟨i + 1, Nat.lt_succ_self i, ?_, of_decide_eq_true hloop⟩
      apply Nat.lt_of_not_le
      intro hle
      exact hdrop (List.drop_eq_nil_of_le hle)
  · exact Or.inl hfull

theorem Wakeful.endLoop (h : chain.Wakeful) {i : Nat}
    {rest : List (Frame data)} {step : PipelineStep data}
    (hstack : chain.stack = .doNextWork i :: rest)
    (hold : chain.steps[i]? = some step)
    (hloop : step.canWork (chain.isNextFull i) = false) :
    Wakeful { chain with
      stack :=
        if 0 < inputAvailable (chain.steps.drop i) ∧ 0 < i then
          .doNextWork (i - 1) :: rest
        else rest } := by
  rcases List.getElem?_eq_some_iff.mp hold with ⟨hbound, -⟩
  apply h.of_stack
  · rfl
  · intro k other hother hqueue hresume
    have hle : k ≤ i := (resumes_of_head hstack).mp hresume
    rcases Nat.eq_or_lt_of_le hle with heq | hlt
    · subst heq
      rw [hold] at hother
      cases hother
      rcases blocked_of_endLoop hqueue hloop with hfull | hbeyond
      · exact Or.inl hfull
      · exact Or.inr (Or.inl hbeyond)
    · by_cases hroom : 0 < inputAvailable (chain.steps.drop i)
      · right
        right
        left
        refine ⟨.doNextWork (i - 1), ?_, Nat.le_sub_one_of_lt hlt⟩
        rw [if_pos ⟨hroom, Nat.zero_lt_of_lt hlt⟩]
        rfl
      · right
        left
        exact ⟨i, hlt, hbound, Int.not_lt.mp hroom⟩
  · intro k hworks
    right
    rcases hworks with ⟨j, item, other, work, hmem, hle, hother, hwork⟩
    refine ⟨j, item, other, work, ?_, hle, hother, hwork⟩
    rw [hstack, List.mem_cons] at hmem
    rcases hmem with heq | hmem
    · cases heq
    · dsimp only
      split
      · exact List.mem_cons_of_mem _ hmem
      · exact hmem

theorem Wakeful.step (h : chain.Wakeful) (hvalid : chain.Valid)
    (hstep : Step chain event chain') (hcalm : ¬event.Disturbs) :
    chain'.Wakeful := by
  cases hstep with
  | queue input houtside hfirst =>
      apply h.of_set (i := 0)
      · rfl
      · intro j item hmem
        exact List.mem_cons_of_mem _ hmem
      · intro k hlt
        exact not_resumes houtside k
      · intro k hle
        exact Or.inl (resumes_doNextWork hle)
  | doWork hstack hold hloop hmerge =>
      rename_i i rest old merged
      apply h.of_set (i := i)
      · rfl
      · intro j item hmem
        rw [hstack, List.mem_cons] at hmem
        rcases hmem with heq | hmem
        · cases heq
        · exact List.mem_cons_of_mem _ hmem
      · intro k hlt hresumes
        exact Nat.not_le_of_lt hlt ((resumes_of_head hstack).mp hresumes)
      · intro k hle
        right
        rcases List.getElem?_eq_some_iff.mp hold with ⟨hbound, -⟩
        have hfound : exists work,
            (merged.startWork chain.created).findWork chain.created =
              some work := by
          rw [← Option.isSome_iff_exists, PipelineStep.findWork,
            List.find?_isSome]
          refine ⟨⟨chain.created, merged.pendingNextWorkQueue, false⟩, ?_, ?_⟩
          · exact List.mem_append_right _ (List.mem_singleton_self _)
          · exact beq_self_eq_true _
        rcases hfound with ⟨work, hwork⟩
        exact ⟨i, chain.created, _, work, List.mem_cons_self, hle,
          List.getElem?_set_self hbound, hwork⟩
  | keepBlock hstack hold hloop hmerge =>
      exact absurd hmerge PipelineStep.merge_done
  | endLoop hstack hold hloop => exact h.endLoop hstack hold hloop
  | returned hstack =>
      rename_i i item rest
      apply h.of_stack
      · rfl
      · intro k step hstep hqueue hresumes
        exact absurd ((resumes_of_head hstack).mp hresumes) id
      · intro k hworks
        rcases hworks with ⟨j, other, step, work, hmem, hle, hstep, hwork⟩
        rw [hstack, List.mem_cons] at hmem
        rcases hmem with heq | hmem
        · cases heq
          exact Or.inl (resumes_doNextWork hle)
        · right
          exact ⟨j, other, step, work, List.mem_cons_of_mem _ hmem, hle,
            hstep, hwork⟩
  | workDone outputs status houtside hold hwork =>
      rename_i i item old work
      have hwanted := (hvalid i old hold).wanted work
        (List.mem_of_find?_eq_some hwork)
      have hstatus : status = 0 := Decidable.of_not_not hcalm
      rw [if_pos ⟨hwanted, hstatus⟩]
      apply h.of_set (i := i)
      · rfl
      · intro j other hmem
        exact List.mem_cons_of_mem _ hmem
      · intro k hlt
        exact not_resumes houtside k
      · intro k hle
        exact Or.inl (resumes_workDone hle)
  | queueToNext hstack hnext =>
      rename_i i output outputs rest next
      apply h.of_set (i := i + 1)
      · rfl
      · intro j item hmem
        rw [hstack, List.mem_cons] at hmem
        rcases hmem with heq | hmem
        · cases heq
        · exact List.mem_cons_of_mem _ (List.mem_cons_of_mem _ hmem)
      · intro k hlt hresumes
        have hle : k ≤ i := (resumes_of_head hstack).mp hresumes
        exact Nat.not_le_of_lt (Nat.lt_of_succ_lt hlt) hle
      · intro k hle
        exact Or.inl (resumes_doNextWork hle)
  | sent hstack hsent =>
      rename_i i outputs rest
      apply h.of_stack
      · rfl
      · intro k step hstep hqueue hresumes
        right
        right
        left
        have hle : k ≤ i := (resumes_of_head hstack).mp hresumes
        exact resumes_doNextWork hle
      · intro k hworks
        right
        rcases hworks with ⟨j, item, step, work, hmem, hle, hstep, hwork⟩
        rw [hstack, List.mem_cons] at hmem
        rcases hmem with heq | hmem
        · cases heq
        · exact ⟨j, item, step, work, List.mem_cons_of_mem _ hmem, hle,
            hstep, hwork⟩
  | cancel => exact absurd trivial hcalm

/-!
## At rest
-/

def Idle (chain : Chain data) : Prop :=
  forall step, step ∈ chain.steps -> step.workInProgress = []

theorem inputAvailable_pos {steps : List (PipelineStep data)}
    (hnonempty : steps ≠ [])
    (hroom : forall step, step ∈ steps -> 0 < step.inputAvailable) :
    0 < inputAvailable steps := by
  induction steps with
  | nil => exact absurd rfl hnonempty
  | cons step next ih =>
      have hstep := hroom step List.mem_cons_self
      cases next with
      | nil =>
          rw [inputAvailable, inputAvailable, Int.add_zero]
          exact hstep
      | cons after next =>
          have hnext := ih (List.cons_ne_nil _ _) fun other hmem =>
            hroom other (List.mem_cons_of_mem _ hmem)
          rw [inputAvailable]
          exact Int.add_pos hstep hnext

/-- While no work is running, no input waits in the chain. -/
theorem Wakeful.drained (h : chain.Wakeful) (hvalid : chain.Valid)
    (hsizes : forall step, step ∈ chain.steps ->
      0 < step.limits.maxSize.toInt64.toInt)
    (hparallel : forall step, step ∈ chain.steps ->
      0 < step.limits.maxParallelWork.toNat)
    (houtside : chain.Outside) (hidle : chain.Idle) {k : Nat}
    {step : PipelineStep data} (hstep : chain.steps[k]? = some step) :
    step.inputQueue = [] := by
  have hstopped : forall (i : Nat) (other : PipelineStep data),
      chain.steps[i]? = some other -> other.running = 0 := by
    intro i other hother
    rw [(hvalid i other hother).counted,
      hidle other (List.mem_of_getElem? hother)]
    rfl
  -- From the last step of the chain to the first.
  induction hdistance : chain.steps.length - k using Nat.strong_induction_on
    generalizing k step with
  | _ distance ih =>
      apply Classical.byContradiction
      intro hqueue
      have hmem := List.mem_of_getElem? hstep
      rcases h k step hstep hqueue with hfull | hbeyond | hresumes | hworks
      · rw [hstopped k step hstep] at hfull
        exact absurd (hparallel step hmem) (Nat.not_lt.mpr hfull)
      · rcases hbeyond with ⟨j, hlt, hlength, hroom⟩
        have hpos : 0 < inputAvailable (chain.steps.drop j) := by
          apply inputAvailable_pos
          · intro hnil
            exact Nat.not_le_of_lt hlength (List.drop_eq_nil_iff.mp hnil)
          · intro other hother
            rcases List.getElem?_of_mem hother with ⟨n, hn⟩
            rw [List.getElem?_drop] at hn
            have hbound := (List.getElem?_eq_some_iff.mp hn).1
            have hempty := ih (chain.steps.length - (j + n)) (by omega) hn rfl
            have hsize := hsizes other (List.mem_of_mem_drop hother)
            rw [PipelineStep.inputAvailable, hstopped _ other hn, hempty]
            simpa using hsize
        exact absurd hpos (Int.not_lt.mpr hroom)
      · exact not_resumes houtside k hresumes
      · rcases hworks with ⟨i, item, other, work, -, -, hother, hwork⟩
        have hnone := hidle other (List.mem_of_getElem? hother)
        rw [PipelineStep.findWork, hnone] at hwork
        cases hwork

end Chain

/-!
## Runs
-/

/-- `maxSize`, `maxParallelWork` and `maxBlockSize` are at least one. -/
def Limits.Positive (limits : Limits) : Prop :=
  0 < limits.maxSize ∧ 0 < limits.maxParallelWork ∧ 0 < limits.maxBlockSize

instance (limits : Limits) : Decidable limits.Positive :=
  inferInstanceAs (Decidable (_ ∧ _ ∧ _))

/-- What a pipeline promises wherever a run leads. -/
structure Delivers (history : List (Event data)) (chain : Chain data) :
    Prop where
  /-- What was queued to a step is handed on once, in order. -/
  handed : forall (i : Nat) (step : PipelineStep data),
    chain.steps[i]? = some step -> queuedTo history i =
      (handedTo history i).flatten ++ step.pendingNextWorkQueue ++
        step.inputQueue
  /-- Each output is queued to the next step once. -/
  forwarded : forall i, i + 1 < chain.steps.length ->
    (outputsOf history i).Perm
      (queuedTo history (i + 1) ++ chain.unsent i)
  /-- Outputs wait to be queued only while `workDone` is under way. -/
  sent : chain.stack = [] -> forall i, chain.unsent i = []
  parallel : forall step, step ∈ chain.steps ->
    step.workInProgress.length ≤ step.limits.maxParallelWork.toNat
  /-- While no work is running, nothing waits. -/
  drained : chain.Outside -> chain.Idle ->
    forall step, step ∈ chain.steps ->
      step.inputQueue = [] ∧ step.pendingNextWorkQueue = []

variable {limits : List Limits} {history : List (Event data)}
variable {chain : Chain data}

theorem calm_run (hrun : Run Step (Chain.plugged limits) history chain)
    (hcalm : forall event, event ∈ history -> ¬event.Disturbs) :
    Run (fun chain event chain' =>
      Step chain event chain' ∧ ¬Event.Disturbs event)
      (Chain.plugged limits) history chain := by
  have havoids : Avoids Step (Chain.plugged limits)
      (fun _ event => Event.Disturbs event) history := by
    intro before event after mid hsplit _
    apply hcalm event
    rw [hsplit]
    exact List.mem_append_right _ List.mem_cons_self
  exact havoids.run hrun

theorem valid_plugged :
    Chain.Valid (Chain.plugged limits : Chain data) := by
  intro i step hstep
  rcases List.mem_map.mp (List.mem_of_getElem? hstep) with ⟨limit, -, heq⟩
  subst heq
  constructor
  · rfl
  · exact Nat.zero_le _
  · rfl
  · intro work hmem
    exact absurd hmem List.not_mem_nil

theorem settled_plugged :
    Chain.Settled [] (Chain.plugged limits : Chain data) := by
  constructor
  · intro i step hstep
    rcases List.mem_map.mp (List.mem_of_getElem? hstep) with ⟨limit, -, heq⟩
    subst heq
    rfl
  · intro i hlt
    exact List.Perm.refl []

theorem wakeful_plugged :
    Chain.Wakeful (Chain.plugged limits : Chain data) := by
  intro k step hstep hqueue
  rcases List.mem_map.mp (List.mem_of_getElem? hstep) with ⟨limit, -, heq⟩
  subst heq
  exact absurd rfl hqueue

theorem run_limits (hrun : Run Step (Chain.plugged limits) history chain) :
    chain.steps.map PipelineStep.limits = limits := by
  apply Run.invariant (h := hrun)
  · change (limits.map PipelineStep.plugged).map PipelineStep.limits = limits
    rw [List.map_map]
    exact List.map_id _
  · intro mid event next hmid hstep
    rw [Chain.steps_limits hstep]
    exact hmid

theorem toInt64_toInt {size : UInt64} (h : size.toNat < 2 ^ 63) :
    size.toInt64.toInt = size.toNat := by
  change size.toBitVec.toInt = size.toBitVec.toNat
  apply BitVec.toInt_eq_toNat_of_lt
  change 2 * size.toNat < 2 ^ 64
  omega

theorem delivers_of_sizes (hpositive : forall limit, limit ∈ limits ->
      limit.Positive)
    (hsizes : (limits.map fun limit => limit.maxSize.toNat).sum < 2 ^ 63)
    (hrun : Run Step (Chain.plugged limits) history chain)
    (hcalm : forall event, event ∈ history -> ¬event.Disturbs) :
    Delivers history chain := by
  have hcalmrun := calm_run hrun hcalm
  have hvalid : chain.Valid :=
    hcalmrun.invariant valid_plugged fun h hstep =>
      h.step hstep.left hstep.right
  have hsettled : Chain.Valid chain ∧ Chain.Settled history chain := by
    apply Run.history_invariant (h := hcalmrun)
    · exact ⟨valid_plugged, settled_plugged⟩
    · intro earlier mid event next hmid hstep
      exact ⟨hmid.left.step hstep.left hstep.right,
        hmid.right.step hmid.left hstep.left hstep.right⟩
  have hwakeful : Chain.Valid chain ∧ chain.Wakeful := by
    apply Run.invariant (h := hcalmrun)
    · exact ⟨valid_plugged, wakeful_plugged⟩
    · intro mid event next hmid hstep
      exact ⟨hmid.left.step hstep.left hstep.right,
        hmid.right.step hmid.left hstep.left hstep.right⟩
  have hlimits : forall step, step ∈ chain.steps -> step.limits ∈ limits := by
    intro step hmem
    rw [← run_limits hrun]
    exact List.mem_map_of_mem hmem
  constructor
  · exact hsettled.right.inputs
  · exact hsettled.right.outputs
  · intro hstack i
    rw [Chain.unsent, hstack]
    rfl
  · intro step hmem
    rcases List.getElem?_of_mem hmem with ⟨i, hi⟩
    rw [← (hvalid i step hi).counted]
    exact (hvalid i step hi).bounded
  · intro houtside hidle step hmem
    rcases List.getElem?_of_mem hmem with ⟨i, hi⟩
    refine ⟨?_, (hvalid i step hi).flushed⟩
    apply hwakeful.right.drained hvalid _ _ houtside hidle hi
    · intro other hother
      have hlimit := hlimits other hother
      have hle : other.limits.maxSize.toNat ≤
          (limits.map fun limit => limit.maxSize.toNat).sum :=
        List.le_sum_of_mem
          (List.mem_map_of_mem hlimit)
      rw [toInt64_toInt (Nat.lt_of_le_of_lt hle hsizes)]
      exact Int.natCast_pos.mpr (hpositive _ hlimit).left
    · intro other hother
      exact (hpositive _ (hlimits other hother)).right.left

/-- Two steps with room for one input each. -/
def smallSteps : List Limits := [⟨1, 1, 1⟩, ⟨1, 1, 1⟩]

/-- One input has become the work of the first step. -/
def workingChain : Chain Nat :=
  ⟨[⟨⟨1, 1, 1⟩, 1, [], [], [⟨0, [7], false⟩]⟩, .plugged ⟨1, 1, 1⟩],
    [.doWork 0 0], 1⟩

theorem workingChain_run :
    Run Step (Chain.plugged smallSteps) [.queue 7, .doWork 0 0 [7]]
      workingChain := by
  apply Run.snoc (Run.snoc Run.nil (Step.queue 7 (by decide) rfl))
  exact @Step.doWork Nat _ 0 [] ⟨⟨1, 1, 1⟩, 0, [7], [], []⟩
    ⟨⟨1, 1, 1⟩, 0, [], [7], []⟩ rfl rfl (by decide) (by decide)

theorem delivers_of_sizes_small :
    (forall limit, limit ∈ smallSteps -> limit.Positive) ∧
      (smallSteps.map fun limit => limit.maxSize.toNat).sum < 2 ^ 63 ∧
      Delivers [.queue 7, .doWork 0 0 [7]] workingChain := by
  have hpositive : forall limit, limit ∈ smallSteps -> limit.Positive := by
    decide
  have hsizes :
      (smallSteps.map fun limit => limit.maxSize.toNat).sum < 2 ^ 63 := by
    decide
  refine ⟨hpositive, hsizes, delivers_of_sizes hpositive hsizes
    workingChain_run ?_⟩
  intro event hmem
  rcases List.mem_cons.mp hmem with heq | hmem
  · subst heq
    exact id
  · rw [List.mem_singleton.mp hmem]
    exact id

/-- `maxSize` is read as a signed number, here as a negative one. -/
def hugeSteps : List Limits := [⟨1, 1, 1⟩, ⟨0x8000000000000000, 1, 1⟩]

/-- No work is running, and the input of the first step waits for ever. -/
def stalledChain : Chain Nat :=
  ⟨[⟨⟨1, 1, 1⟩, 0, [7], [], []⟩, .plugged ⟨0x8000000000000000, 1, 1⟩], [], 0⟩

theorem stalledChain_run :
    Run Step (Chain.plugged hugeSteps) [.queue 7, .endLoop 0]
      stalledChain := by
  apply Run.snoc (Run.snoc Run.nil (Step.queue 7 (by decide) rfl))
  exact Step.endLoop rfl rfl (by decide)

theorem not_delivers_huge :
    ¬forall (limits : List Limits) (history : List (Event Nat))
      (chain : Chain Nat),
      (forall limit, limit ∈ limits -> limit.Positive) ->
      Run Step (Chain.plugged limits) history chain ->
      (forall event, event ∈ history -> ¬event.Disturbs) ->
      Delivers history chain := by
  intro h
  have hdelivers := h hugeSteps _ _ (by decide) stalledChain_run (by
    intro event hmem
    rcases List.mem_cons.mp hmem with heq | hmem
    · subst heq
      exact id
    · rw [List.mem_singleton.mp hmem]
      exact id)
  have hdrained := hdelivers.drained (by decide) (by
    intro step hmem
    rcases List.mem_cons.mp hmem with heq | hmem
    · rw [heq]
    · rw [List.mem_singleton.mp hmem]
      rfl) _ List.mem_cons_self
  exact absurd hdrained.left (List.cons_ne_nil _ _)

end Pipeline
end Rzu
