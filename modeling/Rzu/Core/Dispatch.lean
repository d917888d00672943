import Mathlib.Data.List.Perm.Subperm
import Rzu.Core.IDelegate

/-!
# What calls of a delegate reach

Whatever callbacks do, a node is called once at most, and what was in the
table when a call began is called unless it is deleted.  A listener that is
deleted while it waits to be added is added all the same.
-/

namespace Rzu
namespace Core

open Library

variable {Key Listener CallbackType : Type}

/-!
## Calls in progress
-/

structure DelegateCall.Sound
    (infos : List (CallbackInfo Listener CallbackType))
    (c : DelegateCall Key Listener CallbackType) : Prop where
  once : (c.called.map CallbackInfo.node).Nodup
  passed : forall info, info ∈ c.called ->
    info.named ∈ (infos.take c.reached).map CallbackInfo.named
  ahead : forall info, info ∈ c.due ->
    info ∈ c.called ∨ info ∈ infos.drop c.reached
  live : forall info, info ∈ c.due -> info.callback.isSome = true

namespace DelegateCall.Sound

variable {infos : List (CallbackInfo Listener CallbackType)}
variable {info : CallbackInfo Listener CallbackType}
variable {c : DelegateCall Key Listener CallbackType}

theorem take_succ (h : infos[c.it]? = some info) :
    infos.take (c.it + 1) = infos.take c.it ++ [info] := by
  rw [List.take_add_one, h]
  rfl

theorem drop_eq (h : infos[c.it]? = some info) :
    infos.drop c.it = info :: infos.drop (c.it + 1) := by
  rw [List.drop_eq_getElem?_toList_append, h]
  rfl

theorem reached_of_pass (hpass : c.inCallback = false) :
    c.reached = c.it := by
  rw [reached, hpass]
  rfl

theorem reached_of_callback (hcallback : c.inCallback = true) :
    c.reached = c.it + 1 := by
  rw [reached, hcallback]
  rfl

theorem begun (key : Key) (waiting : List Listener) :
    DelegateCall.Sound infos
      { key := key
        it := 0
        inCallback := false
        called := []
        due := infos.filter fun info => info.callback.isSome
        waiting := waiting } where
  once := List.nodup_nil
  passed _ hinfo := absurd hinfo List.not_mem_nil
  ahead _ hinfo := Or.inr (List.mem_filter.mp hinfo).left
  live _ hinfo := (List.mem_filter.mp hinfo).right

/-- The node at the iterator has not been called yet. -/
theorem enter (h : c.Sound infos) (hpass : c.inCallback = false)
    (hinfo : infos[c.it]? = some info)
    (hnodes : (infos.map CallbackInfo.node).Nodup) :
    DelegateCall.Sound infos
      { c with
        inCallback := true
        called := c.called ++ [info] } := by
  have hpassed := h.passed
  have hahead := h.ahead
  rw [reached_of_pass hpass] at hpassed hahead
  constructor
  · rw [List.map_append, List.map_singleton, List.nodup_append]
    refine ⟨h.once, List.nodup_singleton _, ?_⟩
    intro node hnode node' hnode' heq
    rw [List.mem_singleton] at hnode'
    rcases List.mem_map.mp hnode with ⟨before, hbefore, rfl⟩
    have htaken : before.node ∈
        (infos.take c.it).map CallbackInfo.node := by
      rcases List.mem_map.mp (hpassed before hbefore) with
        ⟨other, hother, hnamed⟩
      exact List.mem_map.mpr ⟨other, hother, congrArg Prod.fst hnamed⟩
    rw [heq, hnode'] at htaken
    -- Otherwise the node would be in the range twice.
    have hsplit := hnodes
    rw [← List.take_append_drop c.it infos, drop_eq hinfo,
      List.map_append, List.map_cons, List.nodup_append] at hsplit
    exact hsplit.right.right _ htaken _ List.mem_cons_self rfl
  · intro before hbefore
    change before.named ∈ (infos.take (c.it + 1)).map CallbackInfo.named
    rw [take_succ hinfo, List.map_append, List.mem_append]
    rcases List.mem_append.mp hbefore with hold | hnew
    · exact Or.inl (hpassed before hold)
    · rw [List.mem_singleton.mp hnew]
      exact Or.inr List.mem_cons_self
  · intro later hlater
    change later ∈ c.called ++ [info] ∨ later ∈ infos.drop (c.it + 1)
    rw [List.mem_append, List.mem_singleton]
    rcases hahead later hlater with hcalled | hdrop
    · exact Or.inl (Or.inl hcalled)
    · rw [drop_eq hinfo, List.mem_cons] at hdrop
      rcases hdrop with hhere | hbehind
      · exact Or.inl (Or.inr hhere)
      · exact Or.inr hbehind
  · exact h.live

theorem ahead_of_null (h : c.Sound infos) (hpass : c.inCallback = false)
    (hinfo : infos[c.it]? = some info) (hnull : ¬info.callback.isSome = true)
    {later : CallbackInfo Listener CallbackType} (hlater : later ∈ c.due) :
    later ∈ c.called ∨ later ∈ infos.drop (c.it + 1) := by
  have hahead := h.ahead later hlater
  rw [reached_of_pass hpass, drop_eq hinfo, List.mem_cons] at hahead
  rcases hahead with hcalled | hhere | hbehind
  · exact Or.inl hcalled
  · rw [← hhere] at hnull
    exact absurd (h.live later hlater) hnull
  · exact Or.inr hbehind

theorem skip (h : c.Sound infos) (hpass : c.inCallback = false)
    (hinfo : infos[c.it]? = some info)
    (hnull : ¬info.callback.isSome = true) :
    DelegateCall.Sound infos { c with it := c.it + 1 } := by
  have hpassed := h.passed
  rw [reached_of_pass hpass] at hpassed
  have hreached : ({ c with it := c.it + 1 } :
      DelegateCall Key Listener CallbackType).reached = c.it + 1 :=
    reached_of_pass hpass
  constructor
  · exact h.once
  · intro before hbefore
    rw [hreached, take_succ hinfo, List.map_append, List.mem_append]
    exact Or.inl (hpassed before hbefore)
  · intro later hlater
    rw [hreached]
    exact h.ahead_of_null hpass hinfo hnull hlater
  · exact h.live

theorem erase (h : c.Sound infos) (hpass : c.inCallback = false)
    (hinfo : infos[c.it]? = some info)
    (hnull : ¬info.callback.isSome = true) :
    c.Sound (infos.eraseIdx c.it) := by
  have hpassed := h.passed
  rw [reached_of_pass hpass] at hpassed
  have hlt : c.it < infos.length := (List.getElem?_eq_some_iff.mp hinfo).1
  have htaken : (infos.take c.it).length = c.it := by
    rw [List.length_take]
    lia
  constructor
  · exact h.once
  · intro before hbefore
    rw [reached_of_pass hpass, List.eraseIdx_eq_take_drop_succ,
      List.take_left' htaken]
    exact hpassed before hbefore
  · intro later hlater
    rw [reached_of_pass hpass, List.eraseIdx_eq_take_drop_succ,
      List.drop_left' htaken]
    exact h.ahead_of_null hpass hinfo hnull hlater
  · exact h.live

theorem leave (h : c.Sound infos) (hcallback : c.inCallback = true) :
    DelegateCall.Sound infos
      { c with
        it := c.it + 1
        inCallback := false } := by
  have hreached := reached_of_callback hcallback
  have hpassed := h.passed
  have hahead := h.ahead
  rw [hreached] at hpassed hahead
  exact
    { once := h.once
      passed := hpassed
      ahead := hahead
      live := h.live }

theorem forget [DecidableEq Key] [DecidableEq Listener]
    (h : c.Sound infos) (inst : Listener) :
    (c.forget c.key inst).Sound (infos.map (CallbackInfo.forget inst)) := by
  rw [DelegateCall.forget, if_pos rfl]
  constructor
  · exact h.once
  · intro before hbefore
    have hnamed : CallbackInfo.named ∘ CallbackInfo.forget inst =
        (CallbackInfo.named :
          CallbackInfo Listener CallbackType -> Nat × Listener) :=
      funext fun info => info.forget_named inst
    rw [← List.map_take, List.map_map, hnamed]
    exact h.passed before hbefore
  · intro later hlater
    rcases List.mem_filter.mp hlater with ⟨hdue, hother⟩
    rcases h.ahead later hdue with hcalled | hdrop
    · exact Or.inl hcalled
    · apply Or.inr
      rw [← List.map_drop, List.mem_map]
      exact ⟨later, hdrop,
        CallbackInfo.forget_other (of_decide_eq_true hother)⟩
  · intro later hlater
    exact h.live later (List.mem_filter.mp hlater).left

end DelegateCall.Sound

namespace Delegate

/-- What holds of a delegate between two steps. -/
structure Sound (s : Delegate Key Listener CallbackType) : Prop where
  depth : s.callDepth = (s.calls.filter DelegateCall.inCallback).length
  outer : forall c, c ∈ s.calls.tail -> c.inCallback = true
  nodes : forall key, ((s.callbacks key).map CallbackInfo.node).Nodup
  fresh : forall key info, info ∈ s.callbacks key -> info.node < s.nextNode
  idle : s.calls = [] -> s.pendingAdds = []
  calls : forall c, c ∈ s.calls -> c.Sound (s.callbacks c.key)

variable {D : DelegateClass Listener CallbackType}
variable {s s' : Delegate Key Listener CallbackType}

theorem sound_create :
    (create : Delegate Key Listener CallbackType).Sound where
  depth := rfl
  outer _ hc := absurd hc List.not_mem_nil
  nodes _ := List.nodup_nil
  fresh _ _ hinfo := absurd hinfo List.not_mem_nil
  idle _ := rfl
  calls _ hc := absurd hc List.not_mem_nil

theorem Sound.depth_eq_zero_of_idle (h : s.Sound) (hcalls : s.calls = []) :
    s.callDepth = 0 := by
  rw [h.depth, hcalls]
  rfl

theorem Sound.calls_eq_nil (h : s.Sound) (huser : s.inUserCode = true)
    (hdepth : s.callDepth = 0) : s.calls = [] := by
  cases hcalls : s.calls with
  | nil => rfl
  | cons c outer =>
      rw [inUserCode, hcalls] at huser
      change c.inCallback = true at huser
      have hcount := h.depth
      rw [hcalls, List.filter_cons_of_pos huser, List.length_cons,
        hdepth] at hcount
      cases hcount

theorem Sound.outer_eq_nil (h : s.Sound)
    {c : DelegateCall Key Listener CallbackType}
    {outer : List (DelegateCall Key Listener CallbackType)}
    (hcalls : s.calls = c :: outer) (hdepth : s.callDepth = 0) :
    outer = [] := by
  have hcount := h.depth
  have hall := h.outer
  rw [hcalls, List.tail_cons] at hall
  rw [hcalls, hdepth] at hcount
  cases outer with
  | nil => rfl
  | cons c' rest =>
      have hfilter : c' ∈ (c :: c' :: rest).filter DelegateCall.inCallback :=
        List.mem_filter.mpr ⟨List.mem_cons_of_mem _ List.mem_cons_self,
          hall c' List.mem_cons_self⟩
      have hpos := List.length_pos_of_mem hfilter
      lia

theorem Sound.outer_depth (h : s.Sound)
    {c : DelegateCall Key Listener CallbackType}
    {outer : List (DelegateCall Key Listener CallbackType)}
    (hcalls : s.calls = c :: outer) (hpass : c.inCallback = false) :
    s.callDepth = (outer.filter DelegateCall.inCallback).length := by
  rw [h.depth, hcalls, List.filter_cons_of_neg (by rw [hpass]; decide)]

theorem Sound.replaceTop (h : s.Sound)
    {c c' : DelegateCall Key Listener CallbackType}
    {outer : List (DelegateCall Key Listener CallbackType)}
    (hcalls : s.calls = c :: outer)
    (hsound : c'.Sound (s.callbacks c'.key)) {callDepth : Nat}
    (hdepth : callDepth =
      ((c' :: outer).filter DelegateCall.inCallback).length) :
    Sound ({ s with
      callDepth := callDepth
      calls := c' :: outer } : Delegate Key Listener CallbackType) where
  depth := hdepth
  outer := by
    have houter := h.outer
    rw [hcalls] at houter
    exact houter
  nodes := h.nodes
  fresh := h.fresh
  idle hnil := by
    cases hnil
  calls := by
    intro other hother
    rcases List.mem_cons.mp hother with hnew | hold
    · rw [hnew]
      exact hsound
    · apply h.calls other
      rw [hcalls]
      exact List.mem_cons_of_mem _ hold

theorem Sound.returned (h : s.Sound)
    (hreturned : s.returned = some s') : s'.Sound := by
  rw [Delegate.returned] at hreturned
  split at hreturned
  · cases hreturned
  rename_i c outer hcalls
  split at hreturned
  · rename_i hcallback
    cases hreturned
    have hsound : c.Sound (s.callbacks c.key) := by
      apply h.calls c
      rw [hcalls]
      exact List.mem_cons_self
    apply h.replaceTop hcalls (hsound.leave hcallback)
    rw [h.depth, hcalls, List.filter_cons_of_pos hcallback,
      List.filter_cons_of_neg Bool.false_ne_true, List.length_cons,
      Nat.add_sub_cancel]
  · cases hreturned

variable [DecidableEq Key]

/-!
## Additions
-/

theorem Sound.insertCallback (h : s.Sound) (hcalls : s.calls = [])
    (key : Key) (inst : Listener) (callback : Option CallbackType) :
    (s.insertCallback D key inst callback).Sound where
  depth := h.depth
  outer := h.outer
  nodes := by
    intro other
    rw [Delegate.insertCallback]
    dsimp only
    by_cases heq : other = key
    · rw [heq, Function.update_self,
        ((D.insert_perm _ _).map CallbackInfo.node).nodup_iff,
        List.map_cons, List.nodup_cons]
      refine ⟨?_, h.nodes key⟩
      intro hmem
      rcases List.mem_map.mp hmem with ⟨info, hinfo, hnode⟩
      have hlt := h.fresh key info hinfo
      dsimp only at hnode
      lia
    · rw [Function.update_of_ne heq]
      exact h.nodes other
  fresh := by
    intro other info hinfo
    change info.node < s.nextNode + 1
    rw [Delegate.insertCallback] at hinfo
    dsimp only at hinfo
    by_cases heq : other = key
    · rw [heq, Function.update_self, (D.insert_perm _ _).mem_iff,
        List.mem_cons] at hinfo
      rcases hinfo with hnew | hold
      · rw [hnew]
        exact Nat.lt_succ_self _
      · exact Nat.lt_succ_of_lt (h.fresh key info hold)
    · rw [Function.update_of_ne heq] at hinfo
      exact Nat.lt_succ_of_lt (h.fresh other info hinfo)
  idle := h.idle
  calls := by
    intro c hc
    change c ∈ s.calls at hc
    rw [hcalls] at hc
    cases hc

theorem Sound.add_idle (h : s.Sound) (hcalls : s.calls = [])
    (key : Key) (inst : Listener) (callback : Option CallbackType) :
    (s.add D key inst callback).Sound ∧
      (s.add D key inst callback).calls = [] := by
  rw [add]
  split
  · exact ⟨h, hcalls⟩
  · rw [if_neg (not_not.mpr (h.depth_eq_zero_of_idle hcalls))]
    exact ⟨h.insertCallback hcalls key inst callback, hcalls⟩

theorem Sound.addAll (h : s.Sound) (hcalls : s.calls = [])
    (pending : List (PendingAdd Key Listener CallbackType)) :
    (s.addAll D pending).Sound := by
  induction pending generalizing s with
  | nil => exact h
  | cons first rest ih =>
      rcases h.add_idle (D := D) hcalls first.key first.inst
        first.callback with ⟨hadd, hcalls'⟩
      exact ih hadd hcalls'

theorem Sound.add (h : s.Sound) (huser : s.inUserCode = true) (key : Key)
    (inst : Listener) (callback : Option CallbackType) :
    (s.add D key inst callback).Sound := by
  by_cases hdepth : s.callDepth = 0
  · exact (h.add_idle (h.calls_eq_nil huser hdepth) key inst callback).left
  · have hcalls : s.calls ≠ [] :=
      fun hcalls => hdepth (h.depth_eq_zero_of_idle hcalls)
    rw [Delegate.add]
    split
    · exact h
    · exact
        { depth := h.depth
          outer := h.outer
          nodes := h.nodes
          fresh := h.fresh
          idle := fun hidle => absurd hidle hcalls
          calls := h.calls }

/-!
## Steps
-/

theorem Sound.call (h : s.Sound) (huser : s.inUserCode = true)
    (key : Key) : (s.call key).Sound where
  depth := h.depth
  outer := by
    intro c hc
    change c ∈ s.calls at hc
    cases hcalls : s.calls with
    | nil =>
        rw [hcalls] at hc
        cases hc
    | cons top outer =>
        rw [inUserCode, hcalls] at huser
        have houter := h.outer c
        rw [hcalls] at hc houter
        rcases List.mem_cons.mp hc with htop | hrest
        · rw [htop]
          exact huser
        · exact houter hrest
  nodes := h.nodes
  fresh := h.fresh
  idle hcalls := by
    cases hcalls
  calls := by
    intro c hc
    rcases List.mem_cons.mp hc with hnew | hold
    · rw [hnew]
      exact DelegateCall.Sound.begun key _
    · exact h.calls c hold

/-- When the outermost call ends, what waited is added. -/
theorem Sound.finish (h : s.Sound)
    {c : DelegateCall Key Listener CallbackType}
    {outer : List (DelegateCall Key Listener CallbackType)}
    (hcalls : s.calls = c :: outer) (hpass : c.inCallback = false) :
    ({ s with calls := outer }.processPendingAdds D).Sound := by
  have hdepth := h.outer_depth hcalls hpass
  have hall := h.outer
  rw [hcalls, List.tail_cons] at hall
  have hrest : forall c, c ∈ outer -> c.Sound (s.callbacks c.key) := by
    intro c' hc'
    apply h.calls c'
    rw [hcalls]
    exact List.mem_cons_of_mem _ hc'
  rw [processPendingAdds]
  cases outer with
  | nil =>
      have hcleared : Sound ({ s with
          calls := []
          pendingAdds := [] } : Delegate Key Listener CallbackType) :=
        { depth := hdepth
          outer := fun c hc => absurd hc List.not_mem_nil
          nodes := h.nodes
          fresh := h.fresh
          idle := fun _ => rfl
          calls := fun c hc => absurd hc List.not_mem_nil }
      have hzero : s.callDepth = 0 := hdepth
      rw [if_neg (not_not.mpr hzero)]
      exact hcleared.addAll rfl s.pendingAdds
  | cons c' rest =>
      have hcallback := hall c' List.mem_cons_self
      have hpos : s.callDepth ≠ 0 := by
        rw [hdepth, List.filter_cons_of_pos hcallback, List.length_cons]
        exact Nat.succ_ne_zero _
      rw [if_pos hpos]
      exact
        { depth := hdepth
          outer := fun c hc => hall c (List.mem_cons_of_mem _ hc)
          nodes := h.nodes
          fresh := h.fresh
          idle := fun hnil => by cases hnil
          calls := hrest }

theorem Sound.erase (h : s.Sound)
    {c : DelegateCall Key Listener CallbackType}
    (hcalls : s.calls = [c]) {i : Nat}
    (hsound : c.Sound ((s.callbacks c.key).eraseIdx i)) :
    Sound ({ s with
      callbacks := Function.update s.callbacks c.key
        ((s.callbacks c.key).eraseIdx i) } :
        Delegate Key Listener CallbackType) where
  depth := h.depth
  outer := h.outer
  nodes := by
    intro key
    dsimp only
    by_cases heq : key = c.key
    · rw [heq, Function.update_self]
      exact (h.nodes c.key).sublist
        ((List.eraseIdx_sublist _ _).map CallbackInfo.node)
    · rw [Function.update_of_ne heq]
      exact h.nodes key
  fresh := by
    intro key info hinfo
    dsimp only at hinfo
    by_cases heq : key = c.key
    · rw [heq, Function.update_self] at hinfo
      exact h.fresh c.key info (List.mem_of_mem_eraseIdx hinfo)
    · rw [Function.update_of_ne heq] at hinfo
      exact h.fresh key info hinfo
  idle := h.idle
  calls := by
    intro other hother
    change other ∈ s.calls at hother
    rw [hcalls, List.mem_singleton] at hother
    rw [hother]
    dsimp only
    rw [Function.update_self]
    exact hsound

theorem Sound.pass (h : s.Sound)
    {c : DelegateCall Key Listener CallbackType}
    {outer : List (DelegateCall Key Listener CallbackType)}
    (hcalls : s.calls = c :: outer) (hpass : c.inCallback = false) :
    (s.pass D c outer).Sound := by
  have hsound : c.Sound (s.callbacks c.key) := by
    apply h.calls c
    rw [hcalls]
    exact List.mem_cons_self
  have hdepth := h.outer_depth hcalls hpass
  rw [Delegate.pass]
  split
  · exact h.finish hcalls hpass
  rename_i info hinfo
  split
  · apply h.replaceTop hcalls
      (hsound.enter hpass hinfo (h.nodes c.key))
    rw [List.filter_cons_of_pos rfl, List.length_cons, hdepth]
  rename_i hnull
  split
  · rename_i hzero
    have honly := h.outer_eq_nil hcalls hzero
    rw [honly] at hcalls
    exact h.erase hcalls (hsound.erase hpass hinfo hnull)
  · apply h.replaceTop hcalls (hsound.skip hpass hinfo hnull)
    rw [List.filter_cons_of_neg (by rw [hpass]; decide)]
    exact hdepth

variable [DecidableEq Listener]

theorem Sound.del (h : s.Sound) (key : Key) (inst : Listener) :
    (s.del key inst).Sound := by
  constructor
  · have hsame : DelegateCall.inCallback ∘ DelegateCall.forget key inst =
        (DelegateCall.inCallback :
          DelegateCall Key Listener CallbackType -> Bool) :=
      funext fun c => c.forget_inCallback key inst
    change s.callDepth = ((s.calls.map (DelegateCall.forget key inst)).filter
      DelegateCall.inCallback).length
    rw [List.filter_map, List.length_map, hsame]
    exact h.depth
  · intro c hc
    change c ∈ (s.calls.map (DelegateCall.forget key inst)).tail at hc
    rw [← List.map_tail] at hc
    rcases List.mem_map.mp hc with ⟨c', hc', rfl⟩
    rw [c'.forget_inCallback]
    exact h.outer c' hc'
  · intro other
    rw [Delegate.del]
    dsimp only
    by_cases heq : other = key
    · have hnodes : CallbackInfo.node ∘ CallbackInfo.forget inst =
          (CallbackInfo.node : CallbackInfo Listener CallbackType -> Nat) :=
        funext fun info => info.forget_node inst
      rw [heq, Function.update_self, List.map_map, hnodes]
      exact h.nodes key
    · rw [Function.update_of_ne heq]
      exact h.nodes other
  · intro other info hinfo
    rw [Delegate.del] at hinfo
    dsimp only at hinfo
    by_cases heq : other = key
    · rw [heq, Function.update_self, List.mem_map] at hinfo
      rcases hinfo with ⟨before, hbefore, rfl⟩
      rw [before.forget_node]
      exact h.fresh key before hbefore
    · rw [Function.update_of_ne heq] at hinfo
      exact h.fresh other info hinfo
  · intro hcalls
    exact h.idle (List.map_eq_nil_iff.mp hcalls)
  · intro c hc
    rcases List.mem_map.mp hc with ⟨c', hc', rfl⟩
    have hsound := h.calls c' hc'
    rw [Delegate.del]
    dsimp only
    by_cases heq : c'.key = key
    · rw [← heq, c'.forget_key, Function.update_self]
      exact hsound.forget inst
    · rw [c'.forget_other heq, Function.update_of_ne heq]
      exact hsound

theorem Sound.step (h : s.Sound)
    {event : DelegateEvent Key Listener CallbackType}
    (hstep : step D s event s') : s'.Sound := by
  rw [Delegate.step] at hstep
  cases event with
  | add key inst callback =>
      rw [next] at hstep
      split at hstep
      · rename_i huser
        cases hstep
        exact h.add huser key inst callback
      · cases hstep
  | del key inst =>
      rw [next] at hstep
      split at hstep
      · cases hstep
        exact h.del key inst
      · cases hstep
  | call key =>
      rw [next] at hstep
      split at hstep
      · rename_i huser
        cases hstep
        exact h.call huser key
      · cases hstep
  | iterate =>
      rw [next, iterate] at hstep
      split at hstep
      · cases hstep
      rename_i c outer hcalls
      split at hstep
      · cases hstep
      · rename_i hpass
        cases hstep
        exact h.pass hcalls (Bool.eq_false_iff.mpr hpass)
  | returned => exact h.returned hstep

theorem sound_run
    {history : List (DelegateEvent Key Listener CallbackType)}
    (hrun : Run (step D) create history s) : s.Sound :=
  hrun.invariant sound_create fun h hstep => h.step hstep

/-!
## Listeners that were deleted
-/

/-- Nothing calls a listener, now or when what waits is added. -/
structure Absent (s : Delegate Key Listener CallbackType) (key : Key)
    (inst : Listener) : Prop where
  null : forall info, info ∈ s.callbacks key -> info.inst = inst ->
    info.callback = none
  notWaiting : forall pending, pending ∈ s.pendingAdds ->
    ¬(pending.key = key ∧ pending.inst = inst)

/-- An addition of the listener waits for the calls to end. -/
def Waits (s : Delegate Key Listener CallbackType) (key : Key)
    (inst : Listener) : Prop :=
  exists pending, pending ∈ s.pendingAdds ∧ pending.key = key ∧
    pending.inst = inst

def Calls (s : Delegate Key Listener CallbackType) (key : Key)
    (inst : Listener) : Prop :=
  exists c outer info, s.calls = c :: outer ∧ c.inCallback = false ∧
    c.key = key ∧ (s.callbacks key)[c.it]? = some info ∧ info.inst = inst ∧
      info.callback.isSome = true

section Absent

variable {key : Key} {inst : Listener}

omit [DecidableEq Key] [DecidableEq Listener] in
theorem Absent.not_calls (h : s.Absent key inst) : ¬s.Calls key inst := by
  rintro ⟨c, outer, info, -, -, -, hinfo, hinst, hlive⟩
  rw [h.null info (List.mem_of_getElem? hinfo) hinst] at hlive
  cases hlive

theorem absent_del (hwaits : ¬s.Waits key inst) :
    (s.del key inst).Absent key inst where
  null := by
    intro info hinfo hinst
    rw [del] at hinfo
    dsimp only at hinfo
    rw [Function.update_self] at hinfo
    rcases List.mem_map.mp hinfo with ⟨before, -, rfl⟩
    rw [before.forget_inst] at hinst
    exact CallbackInfo.forget_callback (Or.inr hinst)
  notWaiting := by
    intro pending hpending hsame
    exact hwaits ⟨pending, hpending, hsame⟩

omit [DecidableEq Listener] in
theorem Absent.of_range (h : s.Absent key inst) (other : Key)
    (infos : List (CallbackInfo Listener CallbackType))
    (hrange : other = key -> forall info, info ∈ infos ->
      info.inst = inst -> info.callback = none)
    (hcallbacks : s'.callbacks = Function.update s.callbacks other infos)
    (hpending : forall pending, pending ∈ s'.pendingAdds ->
      ¬(pending.key = key ∧ pending.inst = inst)) :
    s'.Absent key inst where
  null := by
    intro info hinfo hinst
    rw [hcallbacks] at hinfo
    by_cases heq : key = other
    · rw [heq, Function.update_self] at hinfo
      exact hrange heq.symm info hinfo hinst
    · rw [Function.update_of_ne heq] at hinfo
      exact h.null info hinfo hinst
  notWaiting := hpending

omit [DecidableEq Listener] in
theorem Absent.add (h : s.Absent key inst) {other : Key} {l : Listener}
    (hother : ¬(other = key ∧ l = inst))
    (callback : Option CallbackType) :
    (s.add D other l callback).Absent key inst := by
  rw [Delegate.add]
  split
  · exact h
  split
  · refine { null := h.null, notWaiting := ?_ }
    intro pending hpending
    rcases List.mem_append.mp hpending with hold | hnew
    · exact h.notWaiting pending hold
    · rw [List.mem_singleton.mp hnew]
      exact hother
  · refine h.of_range other _ ?_ rfl h.notWaiting
    intro heq info hinfo hinst
    rw [(D.insert_perm _ _).mem_iff, List.mem_cons] at hinfo
    rcases hinfo with hnew | hold
    · rw [hnew] at hinst
      exact absurd ⟨heq, hinst⟩ hother
    · rw [heq] at hold
      exact h.null info hold hinst

omit [DecidableEq Listener] in
theorem Absent.addAll (h : s.Absent key inst)
    {pending : List (PendingAdd Key Listener CallbackType)}
    (hpending : forall p, p ∈ pending -> ¬(p.key = key ∧ p.inst = inst)) :
    (s.addAll D pending).Absent key inst := by
  induction pending generalizing s with
  | nil => exact h
  | cons first rest ih =>
      exact ih (h.add (hpending first List.mem_cons_self) first.callback)
        fun p hp => hpending p (List.mem_cons_of_mem _ hp)

omit [DecidableEq Listener] in
theorem Absent.processPendingAdds (h : s.Absent key inst) :
    (s.processPendingAdds D).Absent key inst := by
  rw [Delegate.processPendingAdds]
  split
  · exact h
  · refine Absent.addAll ?_ h.notWaiting
    exact
      { null := h.null
        notWaiting := fun p hp => absurd hp List.not_mem_nil }

omit [DecidableEq Listener] in
theorem Absent.pass (h : s.Absent key inst)
    (c : DelegateCall Key Listener CallbackType)
    (outer : List (DelegateCall Key Listener CallbackType)) :
    (s.pass D c outer).Absent key inst := by
  rw [Delegate.pass]
  split
  · exact Absent.processPendingAdds
      { null := h.null
        notWaiting := h.notWaiting }
  split
  · exact
      { null := h.null
        notWaiting := h.notWaiting }
  split
  · refine h.of_range c.key _ ?_ rfl h.notWaiting
    intro heq info hinfo hinst
    have hkept := List.mem_of_mem_eraseIdx hinfo
    rw [heq] at hkept
    exact h.null info hkept hinst
  · exact
      { null := h.null
        notWaiting := h.notWaiting }

theorem Absent.del (h : s.Absent key inst) (other : Key) (l : Listener) :
    (s.del other l).Absent key inst := by
  refine h.of_range other _ ?_ rfl h.notWaiting
  intro heq info hinfo hinst
  rcases List.mem_map.mp hinfo with ⟨before, hbefore, rfl⟩
  rw [before.forget_inst] at hinst
  rw [heq] at hbefore
  exact CallbackInfo.forget_callback
    (Or.inl (h.null before hbefore hinst))

theorem Absent.step (h : s.Absent key inst)
    {event : DelegateEvent Key Listener CallbackType}
    (hstep : step D s event s')
    (hadd : forall callback, event ≠ DelegateEvent.add key inst callback) :
    s'.Absent key inst := by
  rw [Delegate.step] at hstep
  cases event with
  | add other l callback =>
      rw [next] at hstep
      split at hstep
      · cases hstep
        apply h.add
        rintro ⟨hkey, hinst⟩
        rw [hkey, hinst] at hadd
        exact hadd callback rfl
      · cases hstep
  | del other l =>
      rw [next] at hstep
      split at hstep
      · cases hstep
        exact h.del other l
      · cases hstep
  | call other =>
      rw [next] at hstep
      split at hstep
      · cases hstep
        exact
          { null := h.null
            notWaiting := h.notWaiting }
      · cases hstep
  | iterate =>
      rw [next, iterate] at hstep
      split at hstep
      · cases hstep
      split at hstep
      · cases hstep
      · cases hstep
        exact h.pass _ _
  | returned =>
      rw [next, Delegate.returned] at hstep
      split at hstep
      · cases hstep
      split at hstep
      · cases hstep
        exact
          { null := h.null
            notWaiting := h.notWaiting }
      · cases hstep

theorem Absent.run (h : s.Absent key inst)
    {history : List (DelegateEvent Key Listener CallbackType)}
    (hrun : Run (Delegate.step D) s history s')
    (hadd : forall callback,
      DelegateEvent.add key inst callback ∉ history) :
    s'.Absent key inst := by
  induction hrun with
  | nil => exact h
  | snoc earlier last ih =>
      have hbefore := ih fun callback hmem =>
        hadd callback (List.mem_append_left _ hmem)
      apply hbefore.step last
      intro callback heq
      apply hadd callback
      rw [heq]
      exact List.mem_append_right _ List.mem_cons_self

end Absent

/-!
## How often a listener is called
-/

def adds (key : Key) (inst : Listener) :
    DelegateEvent Key Listener CallbackType -> Bool
  | DelegateEvent.add other l _ => decide (other = key ∧ l = inst)
  | _ => false

/-- How many nodes of a listener there are, in the table or to come. -/
def held (s : Delegate Key Listener CallbackType) (key : Key)
    (inst : Listener) : Nat :=
  (s.callbacks key).countP (fun info => decide (info.inst = inst)) +
    s.pendingAdds.countP
      fun pending => decide (pending.key = key ∧ pending.inst = inst)

section Held

variable (key : Key) (inst : Listener)

theorem held_insertCallback (other : Key) (l : Listener)
    (callback : Option CallbackType) :
    (s.insertCallback D other l callback).held key inst =
      s.held key inst + if other = key ∧ l = inst then 1 else 0 := by
  rw [held, held, insertCallback]
  dsimp only
  by_cases hkey : key = other
  · rw [hkey, Function.update_self, (D.insert_perm _ _).countP_eq,
      List.countP_cons]
    simp only [decide_eq_true_iff, true_and]
    lia
  · rw [Function.update_of_ne hkey, if_neg fun hsame =>
      hkey hsame.left.symm]
    rfl

theorem held_add (other : Key) (l : Listener)
    (callback : Option CallbackType) :
    (s.add D other l callback).held key inst ≤
      s.held key inst + if other = key ∧ l = inst then 1 else 0 := by
  rw [add]
  split
  · exact Nat.le_add_right _ _
  split
  · rw [held, held]
    dsimp only
    rw [List.countP_append, List.countP_singleton]
    simp only [decide_eq_true_iff]
    lia
  · exact Nat.le_of_eq (held_insertCallback key inst other l callback)

theorem held_addAll
    (pending : List (PendingAdd Key Listener CallbackType)) :
    (s.addAll D pending).held key inst ≤
      s.held key inst + pending.countP
        fun p => decide (p.key = key ∧ p.inst = inst) := by
  induction pending generalizing s with
  | nil => exact Nat.le_refl _
  | cons first rest ih =>
      have hfirst := held_add (s := s) (D := D) key inst
        first.key first.inst first.callback
      have hrest := ih (s := s.add D first.key first.inst first.callback)
      rw [List.countP_cons]
      simp only [decide_eq_true_iff]
      rw [addAll]
      lia

theorem held_processPendingAdds :
    (s.processPendingAdds D).held key inst ≤ s.held key inst := by
  rw [processPendingAdds]
  split
  · exact Nat.le_refl _
  · apply Nat.le_trans (held_addAll key inst s.pendingAdds)
    rw [held, held, List.countP_nil]
    exact Nat.le_refl _

theorem held_pass (c : DelegateCall Key Listener CallbackType)
    (outer : List (DelegateCall Key Listener CallbackType)) :
    (s.pass D c outer).held key inst ≤ s.held key inst := by
  rw [pass]
  split
  · exact held_processPendingAdds key inst
  split
  · exact Nat.le_refl _
  split
  · rw [held, held]
    dsimp only
    by_cases hkey : key = c.key
    · rw [hkey, Function.update_self]
      exact Nat.add_le_add_right
        (List.Sublist.countP_le (List.eraseIdx_sublist _ _)) _
    · exact Nat.le_of_eq (by rw [Function.update_of_ne hkey])
  · exact Nat.le_refl _

theorem held_del (other : Key) (l : Listener) :
    (s.del other l).held key inst = s.held key inst := by
  rw [held, held, del]
  dsimp only
  by_cases hkey : key = other
  · have hsame : (fun info : CallbackInfo Listener CallbackType =>
        decide (info.inst = inst)) ∘ CallbackInfo.forget l =
          fun info => decide (info.inst = inst) := by
      funext info
      rw [Function.comp_apply, info.forget_inst]
    rw [hkey, Function.update_self, List.countP_map, hsame]
  · rw [Function.update_of_ne hkey]

theorem held_step {event : DelegateEvent Key Listener CallbackType}
    (hstep : step D s event s') :
    s'.held key inst ≤
      s.held key inst + if adds key inst event = true then 1 else 0 := by
  rw [step] at hstep
  cases event with
  | add other l callback =>
      rw [next] at hstep
      split at hstep
      · cases hstep
        have hadd := held_add (s := s) (D := D) key inst
          other l callback
        simp only [adds, decide_eq_true_iff]
        exact hadd
      · cases hstep
  | del other l =>
      rw [next] at hstep
      split at hstep
      · cases hstep
        exact Nat.le_of_eq (held_del key inst other l)
      · cases hstep
  | call other =>
      rw [next] at hstep
      split at hstep
      · cases hstep
        exact Nat.le_refl _
      · cases hstep
  | iterate =>
      rw [next, iterate] at hstep
      split at hstep
      · cases hstep
      split at hstep
      · cases hstep
      · cases hstep
        exact held_pass key inst _ _
  | returned =>
      rw [next, returned] at hstep
      split at hstep
      · cases hstep
      split at hstep
      · cases hstep
        exact Nat.le_refl _
      · cases hstep

theorem held_run
    {history : List (DelegateEvent Key Listener CallbackType)}
    (hrun : Run (step D) create history s) :
    s.held key inst ≤ history.countP (adds key inst) := by
  induction hrun with
  | nil => exact Nat.le_refl _
  | snoc earlier last ih =>
      have hlast := held_step key inst last
      rw [List.countP_append, List.countP_singleton]
      lia

omit key in
theorem Sound.called_le_held (h : s.Sound)
    {c : DelegateCall Key Listener CallbackType} (hc : c ∈ s.calls) :
    (c.called.countP fun info => decide (info.inst = inst)) ≤
      s.held c.key inst := by
  have hsound := h.calls c hc
  have hnodup : (c.called.map CallbackInfo.named).Nodup := by
    have honce := hsound.once
    have hfst : c.called.map CallbackInfo.node =
        (c.called.map CallbackInfo.named).map Prod.fst := by
      rw [List.map_map]
      rfl
    rw [hfst] at honce
    exact List.Nodup.of_map _ honce
  have hsubset : c.called.map CallbackInfo.named ⊆
      (s.callbacks c.key).map CallbackInfo.named := by
    intro named hnamed
    rcases List.mem_map.mp hnamed with ⟨info, hinfo, rfl⟩
    rcases List.mem_map.mp (hsound.passed info hinfo) with
      ⟨other, hother, heq⟩
    exact List.mem_map.mpr ⟨other, List.mem_of_mem_take hother, heq⟩
  have hle := (List.subperm_of_subset hnodup hsubset).countP_le
    fun named => decide (named.2 = inst)
  rw [List.countP_map, List.countP_map] at hle
  exact Nat.le_trans hle (Nat.le_add_right _ _)

end Held

/-!
## What calls promise
-/

variable (D)

/--
A listener that was deleted is not called before it is added again, except
for deletions of some kind.
-/
def RemovedNeverCalled
    (exempt : Delegate Key Listener CallbackType -> Key -> Listener -> Prop)
    (history : List (DelegateEvent Key Listener CallbackType)) : Prop :=
  forall before key inst mid after s s',
    history = before ++ DelegateEvent.del key inst :: (mid ++ after) ->
    Run (step D) create before s ->
    Run (step D) create (before ++ DelegateEvent.del key inst :: mid) s' ->
    (forall callback, DelegateEvent.add key inst callback ∉ mid) ->
    ¬exempt s key inst -> ¬s'.Calls key inst

/-- No call calls a listener more often than it was added. -/
def CalledAsAdded
    (history : List (DelegateEvent Key Listener CallbackType)) : Prop :=
  forall before after s c inst, history = before ++ after ->
    Run (step D) create before s -> c ∈ s.calls ->
    (c.called.countP fun info => decide (info.inst = inst)) ≤
      before.countP (adds c.key inst)

omit [DecidableEq Key] [DecidableEq Listener] in
/-- A call that is about to end has called what was due. -/
def SkipsNothing (s : Delegate Key Listener CallbackType) : Prop :=
  forall c outer info, s.calls = c :: outer -> c.inCallback = false ->
    (s.callbacks c.key)[c.it]? = none -> info ∈ c.due -> info ∈ c.called

omit [DecidableEq Key] [DecidableEq Listener] in
def WaitsForCalls (s : Delegate Key Listener CallbackType) : Prop :=
  s.calls = [] -> s.pendingAdds = []

structure Reliable
    (history : List (DelegateEvent Key Listener CallbackType)) : Prop where
  removed : RemovedNeverCalled D Waits history
  called : CalledAsAdded D history
  skips : Throughout (step D) create SkipsNothing history
  waits : Throughout (step D) create WaitsForCalls history

omit [DecidableEq Key] [DecidableEq Listener] in
variable {D} in
theorem Sound.skipsNothing (h : s.Sound) : s.SkipsNothing := by
  intro c outer info hcalls hpass hend hdue
  have hsound : c.Sound (s.callbacks c.key) := by
    apply h.calls c
    rw [hcalls]
    exact List.mem_cons_self
  rcases hsound.ahead info hdue with hcalled | hdrop
  · exact hcalled
  · rw [DelegateCall.Sound.reached_of_pass hpass,
      List.drop_eq_nil_of_le (List.getElem?_eq_none_iff.mp hend)] at hdrop
    cases hdrop

/-- No call calls a listener twice. -/
def NeverTwice
    (history : List (DelegateEvent Key Listener CallbackType)) : Prop :=
  forall before after s c, history = before ++ after ->
    Run (step D) create before s -> c ∈ s.calls ->
    (c.called.map CallbackInfo.inst).Nodup

omit [DecidableEq Key] [DecidableEq Listener] in
/-- A call that is about to end has also called what waited before it. -/
def SkipsNobody (s : Delegate Key Listener CallbackType) : Prop :=
  s.SkipsNothing ∧
    forall c outer inst, s.calls = c :: outer -> c.inCallback = false ->
      (s.callbacks c.key)[c.it]? = none -> inst ∈ c.waiting ->
      inst ∈ c.called.map CallbackInfo.inst

/-- An `IDelegate` that iterates in the order of insertion. -/
def inOrder : DelegateClass Nat Unit where
  ignoresNull := false
  insert infos info := infos ++ [info]
  insert_perm infos info := List.perm_append_singleton info infos

/-- Listener 2 is added and deleted while listener 1 is called. -/
def lateDeletion : List (DelegateEvent Unit Nat Unit) :=
  [DelegateEvent.add () 1 (some ()), DelegateEvent.call (),
    DelegateEvent.iterate, DelegateEvent.add () 2 (some ()),
    DelegateEvent.del () 2, DelegateEvent.returned, DelegateEvent.iterate,
    DelegateEvent.call (), DelegateEvent.iterate, DelegateEvent.returned]

def twiceAdded : List (DelegateEvent Unit Nat Unit) :=
  [DelegateEvent.add () 1 (some ()), DelegateEvent.add () 1 (some ()),
    DelegateEvent.call (), DelegateEvent.iterate, DelegateEvent.returned,
    DelegateEvent.iterate]

/-- Listener 1 adds listener 2, then it calls the delegate again. -/
def nestedCall : List (DelegateEvent Unit Nat Unit) :=
  [DelegateEvent.add () 1 (some ()), DelegateEvent.call (),
    DelegateEvent.iterate, DelegateEvent.add () 2 (some ()),
    DelegateEvent.call (), DelegateEvent.iterate, DelegateEvent.returned]

end Delegate

end Core
end Rzu
