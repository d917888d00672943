import Mathlib.Data.List.Nodup
import Mathlib.Logic.Function.Basic
import Rzu.Library.Run

/-!
# Delegates

`IDelegateHash` keeps callbacks by key; `IDelegate` is the same with one key
for all.  While a callback runs, callbacks that are added wait in a list, and
those that are deleted only become null.  A call of the delegate goes through
the callbacks of a key; callbacks may start calls themselves.
-/

namespace Rzu
namespace Core

open Library

/-- A node of the table; the number stands for its address. -/
structure CallbackInfo (Listener CallbackType : Type) where
  node : Nat
  inst : Listener
  callback : Option CallbackType
deriving DecidableEq

structure PendingAdd (Key Listener CallbackType : Type) where
  key : Key
  inst : Listener
  callback : Option CallbackType
deriving DecidableEq

/-- A `DELEGATE_CALL` or `DELEGATE_HASH_CALL` that is in progress. -/
structure DelegateCall (Key Listener CallbackType : Type) where
  key : Key
  /-- How many nodes lie in front of the iterator. -/
  it : Nat
  inCallback : Bool
  /-- The nodes that it called. -/
  called : List (CallbackInfo Listener CallbackType)
  /-- What was in the table when it began and was not deleted since. -/
  due : List (CallbackInfo Listener CallbackType)
  /-- The listeners that waited then and were not deleted since. -/
  waiting : List Listener
deriving DecidableEq

structure Delegate (Key Listener CallbackType : Type) where
  /-- The range of each key, in the order of iteration. -/
  callbacks : Key -> List (CallbackInfo Listener CallbackType)
  callDepth : Nat
  pendingAdds : List (PendingAdd Key Listener CallbackType)
  /-- The calls in progress, the innermost first. -/
  calls : List (DelegateCall Key Listener CallbackType)
  nextNode : Nat

/-- What `std::unordered_multimap` and the two classes leave open. -/
structure DelegateClass (Listener CallbackType : Type) where
  /-- `IDelegateHash::add` does nothing for a null callback. -/
  ignoresNull : Bool
  /-- A node may be inserted anywhere, and the others may move. -/
  insert : List (CallbackInfo Listener CallbackType) ->
    CallbackInfo Listener CallbackType ->
    List (CallbackInfo Listener CallbackType)
  insert_perm : forall infos info,
    (insert infos info).Perm (info :: infos)

inductive DelegateEvent (Key Listener CallbackType : Type) where
  | add (key : Key) (inst : Listener) (callback : Option CallbackType)
  | del (key : Key) (inst : Listener)
  /-- A call of the delegate begins. -/
  | call (key : Key)
  /-- A pass of the loop of the innermost call, or its end. -/
  | iterate
  /-- The callback of the innermost call returns. -/
  | returned
deriving DecidableEq

variable {Key Listener CallbackType : Type}

namespace CallbackInfo

variable [DecidableEq Listener]

/-- `del` sets the callback to null and keeps the node. -/
def forget (inst : Listener) (info : CallbackInfo Listener CallbackType) :
    CallbackInfo Listener CallbackType :=
  if info.inst = inst then { info with callback := none } else info

theorem forget_node (inst : Listener)
    (info : CallbackInfo Listener CallbackType) :
    (info.forget inst).node = info.node := by
  rw [forget]
  split
  · rfl
  · rfl

theorem forget_inst (inst : Listener)
    (info : CallbackInfo Listener CallbackType) :
    (info.forget inst).inst = info.inst := by
  rw [forget]
  split
  · rfl
  · rfl

/-- What a node keeps for life. -/
def named (info : CallbackInfo Listener CallbackType) : Nat × Listener :=
  (info.node, info.inst)

theorem forget_named (inst : Listener)
    (info : CallbackInfo Listener CallbackType) :
    (info.forget inst).named = info.named := by
  rw [named, forget_node, forget_inst, named]

theorem forget_other {inst : Listener}
    {info : CallbackInfo Listener CallbackType} (h : info.inst ≠ inst) :
    info.forget inst = info :=
  if_neg h

theorem forget_callback {inst : Listener}
    {info : CallbackInfo Listener CallbackType}
    (h : info.callback = none ∨ info.inst = inst) :
    (info.forget inst).callback = none := by
  rw [forget]
  split
  · rfl
  · rename_i hother
    exact h.resolve_right hother

end CallbackInfo

namespace DelegateCall

variable [DecidableEq Key] [DecidableEq Listener]

/-- What is deleted is not due any more. -/
def forget (key : Key) (inst : Listener)
    (c : DelegateCall Key Listener CallbackType) :
    DelegateCall Key Listener CallbackType :=
  if c.key = key then
    { c with
      due := c.due.filter fun info => info.inst ≠ inst
      waiting := c.waiting.filter fun listener => listener ≠ inst }
  else c

theorem forget_other {key : Key} {c : DelegateCall Key Listener CallbackType}
    (h : c.key ≠ key) (inst : Listener) : c.forget key inst = c :=
  if_neg h

theorem forget_key (key : Key) (inst : Listener)
    (c : DelegateCall Key Listener CallbackType) :
    (c.forget key inst).key = c.key := by
  rw [forget]
  split
  · rfl
  · rfl

theorem forget_inCallback (key : Key) (inst : Listener)
    (c : DelegateCall Key Listener CallbackType) :
    (c.forget key inst).inCallback = c.inCallback := by
  rw [forget]
  split
  · rfl
  · rfl

/-- How many nodes lie behind the call, the one that it calls included. -/
def reached (c : DelegateCall Key Listener CallbackType) : Nat :=
  if c.inCallback then c.it + 1 else c.it

end DelegateCall

namespace Delegate

def create : Delegate Key Listener CallbackType where
  callbacks _ := []
  callDepth := 0
  pendingAdds := []
  calls := []
  nextNode := 0

variable [DecidableEq Key] [DecidableEq Listener]
variable (D : DelegateClass Listener CallbackType)

def insertCallback (s : Delegate Key Listener CallbackType) (key : Key)
    (inst : Listener) (callback : Option CallbackType) :
    Delegate Key Listener CallbackType :=
  { s with
    callbacks := Function.update s.callbacks key
      (D.insert (s.callbacks key)
        { node := s.nextNode
          inst := inst
          callback := callback })
    nextNode := s.nextNode + 1 }

def add (s : Delegate Key Listener CallbackType) (key : Key)
    (inst : Listener) (callback : Option CallbackType) :
    Delegate Key Listener CallbackType :=
  if D.ignoresNull && callback.isNone then s
  else if s.callDepth ≠ 0 then
    { s with
      pendingAdds := s.pendingAdds ++
        [{ key := key
           inst := inst
           callback := callback }] }
  else s.insertCallback D key inst callback

/-- `del`; what waits to be added is left as it is. -/
def del (s : Delegate Key Listener CallbackType) (key : Key)
    (inst : Listener) : Delegate Key Listener CallbackType :=
  { s with
    callbacks := Function.update s.callbacks key
      ((s.callbacks key).map (CallbackInfo.forget inst))
    calls := s.calls.map (DelegateCall.forget key inst) }

def addAll (s : Delegate Key Listener CallbackType) :
    List (PendingAdd Key Listener CallbackType) ->
    Delegate Key Listener CallbackType
  | [] => s
  | pending :: rest =>
      addAll (s.add D pending.key pending.inst pending.callback) rest

def processPendingAdds (s : Delegate Key Listener CallbackType) :
    Delegate Key Listener CallbackType :=
  if s.callDepth ≠ 0 then s
  else { s with pendingAdds := [] }.addAll D s.pendingAdds

def call (s : Delegate Key Listener CallbackType) (key : Key) :
    Delegate Key Listener CallbackType :=
  { s with
    calls :=
      { key := key
        it := 0
        inCallback := false
        called := []
        due := (s.callbacks key).filter fun info => info.callback.isSome
        waiting := (s.pendingAdds.filter fun pending =>
          decide (pending.key = key) && pending.callback.isSome).map
            PendingAdd.inst } :: s.calls }

/-- The body of the loop for the innermost call, which is not in a callback. -/
def pass (s : Delegate Key Listener CallbackType)
    (c : DelegateCall Key Listener CallbackType)
    (outer : List (DelegateCall Key Listener CallbackType)) :
    Delegate Key Listener CallbackType :=
  match (s.callbacks c.key)[c.it]? with
  | none => { s with calls := outer }.processPendingAdds D
  | some info =>
      if info.callback.isSome then
        { s with
          callDepth := s.callDepth + 1
          calls :=
            { c with
              inCallback := true
              called := c.called ++ [info] } :: outer }
      else if s.callDepth = 0 then
        { s with
          callbacks := Function.update s.callbacks c.key
            ((s.callbacks c.key).eraseIdx c.it) }
      else { s with calls := { c with it := c.it + 1 } :: outer }

def iterate (s : Delegate Key Listener CallbackType) :
    Option (Delegate Key Listener CallbackType) :=
  match s.calls with
  | [] => none
  | c :: outer => if c.inCallback then none else some (s.pass D c outer)

def returned (s : Delegate Key Listener CallbackType) :
    Option (Delegate Key Listener CallbackType) :=
  match s.calls with
  | [] => none
  | c :: outer =>
      if c.inCallback then
        some
          { s with
            callDepth := s.callDepth - 1
            calls :=
              { c with
                it := c.it + 1
                inCallback := false } :: outer }
      else none

def inUserCode (s : Delegate Key Listener CallbackType) : Bool :=
  match s.calls with
  | [] => true
  | c :: _ => c.inCallback

def next (s : Delegate Key Listener CallbackType) :
    DelegateEvent Key Listener CallbackType ->
    Option (Delegate Key Listener CallbackType)
  | DelegateEvent.add key inst callback =>
      if s.inUserCode then some (s.add D key inst callback) else none
  | DelegateEvent.del key inst =>
      if s.inUserCode then some (s.del key inst) else none
  | DelegateEvent.call key =>
      if s.inUserCode then some (s.call key) else none
  | DelegateEvent.iterate => s.iterate D
  | DelegateEvent.returned => s.returned

def step (s : Delegate Key Listener CallbackType)
    (event : DelegateEvent Key Listener CallbackType)
    (s' : Delegate Key Listener CallbackType) : Prop :=
  s.next D event = some s'

theorem step_deterministic :
    Deterministic (step D : Delegate Key Listener CallbackType ->
      DelegateEvent Key Listener CallbackType ->
        Delegate Key Listener CallbackType -> Prop) := by
  intro s event s' s'' h h'
  exact Option.some.inj (h.symm.trans h')

end Delegate

end Core
end Rzu
