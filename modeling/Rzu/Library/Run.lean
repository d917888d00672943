import Mathlib.Data.List.Basic

/-!
# Runs of a labelled transition system

A run takes labelled steps from a fixed state.  What every step preserves
holds wherever a run leads; an invariant may also speak about the labels that
led there.
-/

namespace Rzu
namespace Library

section Run

variable {state label : Type _} (step : state -> label -> state -> Prop)

/-- A label says all about the step. -/
def Deterministic : Prop :=
  forall s l s' s'', step s l s' -> step s l s'' -> s' = s''

/-- The labels of a run, oldest first, and the state that it leads to. -/
inductive Run (start : state) : List label -> state -> Prop where
  | nil : Run start [] start
  | snoc {history : List label} {s s' : state} {l : label}
      (before : Run start history s) (last : step s l s') :
      Run start (history ++ [l]) s'

namespace Run

variable {step} {start : state}

theorem invariant {holds : state -> Prop} (hstart : holds start)
    (hstep : forall {s l s'}, holds s -> step s l s' -> holds s')
    {history : List label} {s : state} (h : Run step start history s) :
    holds s := by
  induction h with
  | nil => exact hstart
  | snoc before last ih => exact hstep ih last

/-- An invariant of the state together with the labels so far. -/
theorem history_invariant {holds : List label -> state -> Prop}
    (hstart : holds [] start)
    (hstep : forall {history s l s'}, holds history s -> step s l s' ->
      holds (history ++ [l]) s')
    {history : List label} {s : state} (h : Run step start history s) :
    holds history s := by
  induction h with
  | nil => exact hstart
  | snoc before last ih => exact hstep ih last

theorem mono {step' : state -> label -> state -> Prop}
    (hstep : forall {s l s'}, step s l s' -> step' s l s')
    {history : List label} {s : state} (h : Run step start history s) :
    Run step' start history s := by
  induction h with
  | nil => exact nil
  | snoc before last ih => exact snoc ih (hstep last)

theorem trans {mid s : state} {front back : List label}
    (hfront : Run step start front mid) (hback : Run step mid back s) :
    Run step start (front ++ back) s := by
  induction hback with
  | nil =>
      rw [List.append_nil]
      exact hfront
  | snoc before last ih =>
      rw [← List.append_assoc]
      exact snoc ih last

theorem split {before after : List label} {l : label} {s : state}
    (h : Run step start (before ++ l :: after) s) :
    exists mid mid', Run step start before mid ∧ step mid l mid' ∧
      Run step mid' after s := by
  generalize hlabels : before ++ l :: after = history at h
  induction h generalizing after with
  | nil => exact absurd hlabels (by simp)
  | snoc earlier last ih =>
      rename_i history s s' last'
      rcases List.eq_nil_or_concat after with hnil | ⟨init, final, hsnoc⟩
      · subst hnil
        rcases List.append_inj' hlabels rfl with ⟨hbefore, hlast⟩
        cases hlast
        subst hbefore
        exact ⟨s, s', earlier, last, nil⟩
      · rw [hsnoc, List.concat_eq_append, ← List.cons_append,
          ← List.append_assoc] at hlabels
        rcases List.append_inj' hlabels rfl with ⟨hinit, hlast⟩
        cases hlast
        rcases ih hinit with ⟨mid, mid', hbefore, hstep, hafter⟩
        refine ⟨mid, mid', hbefore, hstep, ?_⟩
        rw [hsnoc, List.concat_eq_append]
        exact snoc hafter last

theorem eq_start {s : state} (h : Run step start [] s) : s = start := by
  generalize hlabels : ([] : List label) = history at h
  cases h with
  | nil => rfl
  | snoc before last => exact absurd hlabels.symm (by simp)

theorem first {l : label} {history : List label} {s : state}
    (h : Run step start (l :: history) s) :
    exists mid, step start l mid ∧ Run step mid history s := by
  have hsplit : Run step start ([] ++ l :: history) s := h
  rcases hsplit.split with ⟨begin, mid, hbegin, hstep, hrest⟩
  rw [hbegin.eq_start] at hstep
  exact ⟨mid, hstep, hrest⟩

theorem unique (hdeterministic : Deterministic step) {history : List label}
    {s s' : state} (h : Run step start history s)
    (h' : Run step start history s') : s = s' := by
  induction h generalizing s' with
  | nil =>
      generalize hlabels : ([] : List label) = history at h'
      cases h' with
      | nil => rfl
      | snoc before' last' => exact absurd hlabels.symm (by simp)
  | snoc before last ih =>
      rename_i history s s1 l
      generalize hlabels : history ++ [l] = history' at h'
      cases h' with
      | nil => exact absurd hlabels (by simp)
      | snoc before' last' =>
          rcases List.append_inj' hlabels rfl with ⟨hhistory, hlast⟩
          cases hlast
          subst hhistory
          have heq := ih before'
          subst heq
          exact hdeterministic _ _ _ _ last last'

end Run

/-- A property of every state along the labels of a run. -/
def Throughout (start : state) (holds : state -> Prop)
    (history : List label) : Prop :=
  forall before after s, history = before ++ after ->
    Run step start before s -> holds s

/-- No step along the labels of a run is of a certain kind. -/
def Avoids (start : state) (bad : state -> label -> Prop)
    (history : List label) : Prop :=
  forall before l after s, history = before ++ l :: after ->
    Run step start before s -> ¬bad s l

/-- What holds of every step along the labels of a run. -/
def AtEachStep (start : state) (good : state -> label -> state -> Prop)
    (history : List label) : Prop :=
  forall before l after s s', history = before ++ l :: after ->
    Run step start before s -> step s l s' -> good s l s'

variable {step} {start : state} {bad : state -> label -> Prop}

namespace Avoids

theorem before {front back : List label}
    (h : Avoids step start bad (front ++ back)) :
    Avoids step start bad front := by
  intro earlier l later s heq hrun
  apply h earlier l (later ++ back) s _ hrun
  rw [heq, List.append_assoc, List.cons_append]

theorem head {l : label} {history : List label}
    (h : Avoids step start bad (l :: history)) : ¬bad start l :=
  h [] l history start rfl Run.nil

theorem tail {l : label} {history : List label} {s : state}
    (h : Avoids step start bad (l :: history)) (hstep : step start l s) :
    Avoids step s bad history := by
  intro before l' after mid heq hrun
  have hfirst : Run step start [l] s := Run.snoc Run.nil hstep
  apply h (l :: before) l' after mid _ (hfirst.trans hrun)
  rw [heq, List.cons_append]

theorem cons {l : label} {history : List label} (hfirst : ¬bad start l)
    (hlater : forall s, step start l s -> Avoids step s bad history) :
    Avoids step start bad (l :: history) := by
  intro before l' after mid heq hrun
  cases before with
  | nil =>
      cases heq
      rw [hrun.eq_start]
      exact hfirst
  | cons first before =>
      cases heq
      rcases hrun.first with ⟨s, hstep, hrest⟩
      exact hlater s hstep before l' after mid rfl hrest

theorem run {history : List label} {s : state}
    (h : Avoids step start bad history) (hrun : Run step start history s) :
    Run (fun s l s' => step s l s' ∧ ¬bad s l) start history s := by
  induction hrun with
  | nil => exact Run.nil
  | snoc earlier last ih =>
      exact Run.snoc (ih h.before) ⟨last, h _ _ [] _ rfl earlier⟩

theorem of_run (hdeterministic : Deterministic step) {history : List label}
    {s : state}
    (hrun : Run (fun s l s' => step s l s' ∧ ¬bad s l) start history s) :
    Avoids step start bad history := by
  intro before l after mid heq hmid
  subst heq
  rcases hrun.split with ⟨mid', next, hmid', hstep, -⟩
  have hsame := Run.unique hdeterministic hmid
    (hmid'.mono fun hallowed => hallowed.left)
  subst hsame
  exact hstep.right

end Avoids

theorem Run.exists_next (hdeterministic : Deterministic step)
    {before after : List label} {l : label} {mid s : state}
    (hrun : Run step start (before ++ l :: after) s)
    (hmid : Run step start before mid) : exists next, step mid l next := by
  rcases hrun.split with ⟨mid', next, hmid', hstep, -⟩
  have hsame := Run.unique hdeterministic hmid hmid'
  subst hsame
  exact ⟨next, hstep⟩

theorem Throughout.next {holds : state -> Prop} {before after : List label}
    {l : label} {mid next : state}
    (h : Throughout step start holds (before ++ l :: after))
    (hmid : Run step start before mid) (hstep : step mid l next) :
    holds next := by
  apply h (before ++ [l]) after next
  · rw [List.append_assoc, List.cons_append, List.nil_append]
  · exact Run.snoc hmid hstep

/--
A property that the steps of one kind break wherever more is kept, which the
others preserve, holds all along a run exactly if the run has no step of that
kind.
-/
theorem throughout_iff_avoids_of_kept {holds kept : state -> Prop}
    (hdeterministic : Deterministic step) (hstart : kept start)
    (hholds : forall {s}, kept s -> holds s)
    (hgood : forall {s l s'}, kept s -> step s l s' -> ¬bad s l -> kept s')
    (hbad : forall {s l s'}, kept s -> step s l s' -> bad s l -> ¬holds s')
    {history : List label} {s : state} (hrun : Run step start history s) :
    Throughout step start holds history ↔
      Avoids step start bad history := by
  constructor
  · have hkept {before after : List label} {mid : state}
        (hmid : Run step start before mid)
        (h : Throughout step start holds (before ++ after)) : kept mid := by
      induction hmid generalizing after with
      | nil => exact hstart
      | snoc earlier last ih =>
          rw [List.append_assoc, List.singleton_append] at h
          have hearlier := ih h
          refine hgood hearlier last fun hbroken => ?_
          exact hbad hearlier last hbroken (h.next earlier last)
    intro hthroughout before l after mid heq hmid hbroken
    subst heq
    rcases hrun.exists_next hdeterministic hmid with ⟨next, hstep⟩
    exact hbad (hkept hmid hthroughout) hstep hbroken
      (hthroughout.next hmid hstep)
  · intro havoids before after mid heq hmid
    subst heq
    exact hholds (Run.invariant hstart
      (fun hs hstep => hgood hs hstep.left hstep.right)
      (havoids.before.run hmid))

theorem throughout_iff_avoids {holds : state -> Prop}
    (hdeterministic : Deterministic step) (hstart : holds start)
    (hgood : forall {history s l s'}, Run step start history s ->
      holds s -> step s l s' -> ¬bad s l -> holds s')
    (hbad : forall {history s l s'}, Run step start history s ->
      step s l s' -> bad s l -> ¬holds s')
    {history : List label} {s : state} (hrun : Run step start history s) :
    Throughout step start holds history ↔
      Avoids step start bad history := by
  let kept (s : state) : Prop :=
    holds s ∧ exists history, Run step start history s
  have hkept : kept start := ⟨hstart, [], Run.nil⟩
  refine throughout_iff_avoids_of_kept hdeterministic hkept And.left ?_ ?_ hrun
  · intro s l s' hs hstep hallowed
    rcases hs with ⟨hholds, history, hreached⟩
    exact ⟨hgood hreached hholds hstep hallowed, _, Run.snoc hreached hstep⟩
  · intro s l s' hs hstep
    rcases hs with ⟨-, history, hreached⟩
    exact hbad hreached hstep

theorem throughout_iff_avoids_of_exact {holds : state -> Prop}
    (hdeterministic : Deterministic step) (hstart : holds start)
    (hexact : forall {s l s'}, holds s -> step s l s' ->
      (holds s' ↔ ¬bad s l))
    {history : List label} {s : state} (hrun : Run step start history s) :
    Throughout step start holds history ↔
      Avoids step start bad history :=
  throughout_iff_avoids_of_kept hdeterministic hstart (fun h => h)
    (fun hs hstep => (hexact hs hstep).mpr)
    (fun hs hstep hbroken hs' => (hexact hs hstep).mp hs' hbroken) hrun

namespace AtEachStep

variable {good : state -> label -> state -> Prop}

theorem before {front back : List label}
    (h : AtEachStep step start good (front ++ back)) :
    AtEachStep step start good front := by
  intro earlier l later s s' heq hrun hstep
  apply h earlier l (later ++ back) s s' _ hrun hstep
  rw [heq, List.append_assoc, List.cons_append]

theorem invariant {holds : state -> Prop} (hstart : holds start)
    (hkeeps : forall {s l s'}, holds s -> step s l s' -> good s l s' ->
      holds s') {history : List label} {s : state}
    (h : AtEachStep step start good history) (hrun : Run step start history s) :
    holds s := by
  induction hrun with
  | nil => exact hstart
  | snoc earlier last ih =>
      exact hkeeps (ih h.before) last (h _ _ [] _ _ rfl earlier last)

end AtEachStep

/--
If, from the states of an invariant, the steps of one kind go wrong and all
others go well, the steps of a run go well exactly if none is of that kind.
-/
theorem atEachStep_iff_avoids {holds : state -> Prop}
    {good : state -> label -> state -> Prop}
    (hdeterministic : Deterministic step) (hstart : holds start)
    (hkeeps : forall {s l s'}, holds s -> step s l s' -> good s l s' ->
      holds s')
    (hgood : forall {s l s'}, holds s -> step s l s' -> ¬bad s l ->
      good s l s')
    (hbad : forall {s l s'}, holds s -> step s l s' -> bad s l ->
      ¬good s l s')
    {history : List label} {s : state} (hrun : Run step start history s) :
    AtEachStep step start good history ↔
      Avoids step start bad history := by
  constructor
  · intro hsteps before l after mid heq hmid hbroken
    subst heq
    rcases hrun.exists_next hdeterministic hmid with ⟨next, hstep⟩
    exact hbad (hsteps.before.invariant hstart hkeeps hmid) hstep hbroken
      (hsteps before l after mid next rfl hmid hstep)
  · intro havoids before l after mid next heq hmid hstep
    subst heq
    have hholds : holds mid := by
      apply Run.invariant hstart _ (havoids.before.run hmid)
      intro s l s' hs hallowed
      exact hkeeps hs hallowed.left (hgood hs hallowed.left hallowed.right)
    exact hgood hholds hstep (havoids before l after mid rfl hmid)

end Run

/-!
## Systems that compute their steps
-/

theorem run_of_foldlM {state label : Type _}
    {next : state -> label -> Option state} {start s : state}
    {labels : List label} (h : labels.foldlM next start = some s) :
    Run (fun s l s' => next s l = some s') start labels s := by
  induction labels generalizing start with
  | nil =>
      cases h
      exact Run.nil
  | cons l labels ih =>
      rcases Option.bind_eq_some_iff.mp h with ⟨mid, hfirst, hrest⟩
      have hone : Run (fun s l s' => next s l = some s') start [l] mid :=
        Run.snoc Run.nil hfirst
      exact hone.trans (ih hrest)

/--
If the labels that a state refuses are known, none of a list is refused
exactly if the run along them avoids those.
-/
theorem isSome_foldlM_iff_avoids {state label : Type _}
    {next : state -> label -> Option state} {refused : state -> label -> Prop}
    (hnext : forall s l, next s l = none ↔ refused s l) (start : state)
    (labels : List label) :
    (labels.foldlM next start).isSome ↔
      Avoids (fun s l s' => next s l = some s') start refused labels := by
  induction labels generalizing start with
  | nil => exact ⟨fun _ _ _ _ _ heq => absurd heq (by simp), fun _ => rfl⟩
  | cons l labels ih =>
      rw [List.foldlM_cons]
      cases hfirst : next start l with
      | none =>
          constructor
          · intro hsome
            cases hsome
          · intro havoids
            exact absurd ((hnext start l).mp hfirst) havoids.head
      | some mid =>
          change (labels.foldlM next mid).isSome ↔ _
          rw [ih mid]
          constructor
          · intro hlater
            refine Avoids.cons ?_ ?_
            · intro hrefused
              rw [(hnext start l).mpr hrefused] at hfirst
              cases hfirst
            · intro s hstep
              rw [hfirst] at hstep
              cases hstep
              exact hlater
          · intro havoids
            exact havoids.tail hfirst

section Replay

variable {state input label : Type _}

/-- Feed inputs to a system one after the other. -/
def replay (next : state -> input -> Option (label × state)) :
    state -> List input -> Option (List label × state)
  | s, [] => some ([], s)
  | s, i :: inputs => do
      let first <- next s i
      let later <- replay next first.2 inputs
      pure (first.1 :: later.1, later.2)

theorem replay_run {step : state -> label -> state -> Prop}
    {next : state -> input -> Option (label × state)}
    (hnext : forall s i l s', next s i = some (l, s') -> step s l s')
    {start s s' : state} {earlier history : List label}
    {inputs : List input} (hrun : Run step start earlier s)
    (hreplay : replay next s inputs = some (history, s')) :
    Run step start (earlier ++ history) s' := by
  induction inputs generalizing s earlier history with
  | nil =>
      cases hreplay
      rw [List.append_nil]
      exact hrun
  | cons i inputs ih =>
      rcases Option.bind_eq_some_iff.mp hreplay with ⟨⟨l, mid⟩, hfirst, hrest⟩
      rcases Option.bind_eq_some_iff.mp hrest with
        ⟨⟨later, final⟩, hlater, hpair⟩
      cases hpair
      rw [List.append_cons]
      exact ih (Run.snoc hrun (hnext _ _ _ _ hfirst)) hlater

end Replay

end Library
end Rzu
