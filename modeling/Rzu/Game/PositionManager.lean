import Mathlib.Algebra.Order.Field.Basic
import Mathlib.Data.Finset.Basic
import Mathlib.Data.Rat.Cast.Order
import Rzu.Game.Region
import Rzu.Library.Run

/-!
# Objects on their way

A timer is to advance the objects that were given a target.  The loop over
them starts and ends at the first one: none ever gets anywhere.
-/

namespace Rzu
namespace Game

open Library
open Packet

/-- How far a displacement gets, `sqrt(deltaX * deltaX + deltaY * deltaY)`. -/
structure Distance where
  length : Rat -> Rat -> Rat
  nonneg : forall deltaX deltaY, 0 ≤ length deltaX deltaY
  nowhere : length 0 0 = 0

structure PositionManager (object : Type _) where
  movables : object -> Movable
  movingObjects : List object

namespace PositionManager

variable {object : Type _} [DecidableEq object]

def moveObject (p : PositionManager object) (movable : object) (x y : Rat)
    (layer : UInt8) : PositionManager object :=
  let m := p.movables movable
  if m.x = x ∧ m.y = y ∧ m.layer = layer then p
  else
    { movables := Function.update p.movables movable
        { m with targetX := x, targetY := y }
      movingObjects :=
        if movable ∈ p.movingObjects then p.movingObjects
        else p.movingObjects ++ [movable] }

variable (distance : Distance)

/-- The time is a difference of unsigned integers. -/
def updatePosition (m : Movable) (timestamp : Nat) :
    Movable × List Callback :=
  let deltaX := m.targetX - m.x
  let deltaY := m.targetY - m.y
  let length := distance.length deltaX deltaY
  let timeDelta : Rat := uint64.cast (m.lastUpdate - timestamp) / 1000
  let distanceToMoveRatio := m.currentSpeed * timeDelta / length
  -- a quotient by zero is infinite, or no number: neither is less than one
  let (moved, callbacks) : Movable × List Callback :=
    if length ≠ 0 ∧ distanceToMoveRatio < 1 then
      ({ m with
        x := m.x + distanceToMoveRatio * deltaX
        y := m.y + distanceToMoveRatio * deltaY }, [])
    else
      ({ m with x := m.targetX, y := m.targetY, currentSpeed := 0 },
        [.onMoveEnd])
  ({ moved with lastUpdate := timestamp },
    callbacks ++ updateRegion moved m.x m.y moved.layer)

def updateOne (timestamp : Nat)
    (acc : PositionManager object × List (object × Callback))
    (movable : object) : PositionManager object × List (object × Callback) :=
  let (m, callbacks) := updatePosition distance (acc.1.movables movable)
    timestamp
  ({ acc.1 with movables := Function.update acc.1.movables movable m },
    acc.2 ++ callbacks.map fun callback => (movable, callback))

/-- Both iterators are `movingObjects.begin()`. -/
def update (p : PositionManager object) (timestamp : Nat) :
    PositionManager object × List (object × Callback) :=
  let it := 0
  let itEnd := 0
  (p.movingObjects.extract it itEnd).foldl (updateOne distance timestamp)
    (p, [])

theorem update_eq (p : PositionManager object) (timestamp : Nat) :
    p.update distance timestamp = (p, []) := by
  have hnone : p.movingObjects.extract 0 0 = [] := List.take_zero
  rw [update, hnone, List.foldl_nil]

end PositionManager

/-!
## Journeys
-/

/-- The objects with the time of the last tick, and those that are under way. -/
structure Journeys (object : Type _) where
  manager : PositionManager object
  now : Nat
  /-- They were given a target, and were not told yet that they got there. -/
  underWay : Finset object

inductive PositionCall (object : Type _) where
  | moveObject (movable : object) (x y : Rat) (layer : UInt8)
  | update (timestamp : Nat)

namespace Journeys

variable {object : Type _} [DecidableEq object] (distance : Distance)

/-- Time goes on from tick to tick. -/
def call (j : Journeys object) :
    PositionCall object -> Option (Journeys object × List (object × Callback))
  | .moveObject movable x y layer =>
      let m := j.manager.movables movable
      some ({ j with
        manager := j.manager.moveObject movable x y layer
        underWay :=
          if m.x = x ∧ m.y = y ∧ m.layer = layer then j.underWay
          else insert movable j.underWay }, [])
  | .update timestamp =>
      if j.now < timestamp then
        let (manager, told) := j.manager.update distance timestamp
        some (⟨manager, timestamp, j.underWay.filter fun movable =>
          (movable, Callback.onMoveEnd) ∉ told⟩, told)
      else none

def Step (j : Journeys object) (c : PositionCall object)
    (j' : Journeys object) : Prop :=
  exists told, j.call distance c = some (j', told)

/-- How far an object gets by a certain time. -/
def reach (m : Movable) (timestamp : Nat) : Rat :=
  m.currentSpeed * ((timestamp - m.lastUpdate : Rat) / 1000)

/-- An object gets nearer to its target, and is told when it is there. -/
def Travels (m m' : Movable) (timestamp ends : Nat) : Prop :=
  let deltaX := m.targetX - m.x
  let deltaY := m.targetY - m.y
  let length := distance.length deltaX deltaY
  if reach m timestamp < length then
    m'.x = m.x + reach m timestamp / length * deltaX ∧
      m'.y = m.y + reach m timestamp / length * deltaY ∧ ends = 0
  else m'.x = m.targetX ∧ m'.y = m.targetY ∧ ends = 1

/-- A tick at which every object travels that is under way, and no other. -/
def Advances (j : Journeys object) (c : PositionCall object)
    (j' : Journeys object) : Prop :=
  forall timestamp told, c = .update timestamp ->
    j.call distance c = some (j', told) -> forall movable,
      let m := j.manager.movables movable
      let m' := j'.manager.movables movable
      let ends := told.count (movable, Callback.onMoveEnd)
      if movable ∈ j.underWay then Travels distance m m' timestamp ends
      else m'.x = m.x ∧ m'.y = m.y ∧ ends = 0

/-- A tick that comes while some object is under way. -/
def Delays (j : Journeys object) (c : PositionCall object) : Prop :=
  (exists timestamp, c = .update timestamp) ∧ j.underWay.Nonempty

/-- All objects can move, and none is ahead of its time. -/
structure Ready (j : Journeys object) : Prop where
  speed : forall movable, 0 < (j.manager.movables movable).currentSpeed
  past : forall movable, (j.manager.movables movable).lastUpdate ≤ j.now

variable {distance} {j j' : Journeys object} {c : PositionCall object}

theorem step_deterministic :
    Deterministic (@Step object _ distance) := by
  rintro j c j' j'' ⟨told, hcall⟩ ⟨told', hcall'⟩
  rw [hcall] at hcall'
  cases hcall'
  rfl

theorem call_update {timestamp : Nat} {told : List (object × Callback)}
    (h : j.call distance (.update timestamp) = some (j', told)) :
    j.now < timestamp ∧ j'.manager = j.manager ∧ j'.now = timestamp ∧
      told = [] := by
  rw [call, PositionManager.update_eq] at h
  split at h
  · rename_i hlater
    cases h
    exact ⟨hlater, rfl, rfl, rfl⟩
  · cases h

theorem ready_of_step (h : j.Ready) (hstep : j.Step distance c j') :
    j'.Ready := by
  rcases hstep with ⟨told, hcall⟩
  cases c with
  | moveObject movable x y layer =>
      cases hcall
      constructor
      · intro other
        change 0 < ((j.manager.moveObject movable x y layer).movables
          other).currentSpeed
        rw [PositionManager.moveObject]
        split
        · exact h.speed other
        · change 0 < (Function.update j.manager.movables movable _
            other).currentSpeed
          rcases eq_or_ne other movable with rfl | hne
          · rw [Function.update_self]
            exact h.speed other
          · rw [Function.update_of_ne hne]
            exact h.speed other
      · intro other
        change ((j.manager.moveObject movable x y layer).movables
          other).lastUpdate ≤ j.now
        rw [PositionManager.moveObject]
        split
        · exact h.past other
        · change (Function.update j.manager.movables movable _
            other).lastUpdate ≤ j.now
          rcases eq_or_ne other movable with rfl | hne
          · rw [Function.update_self]
            exact h.past other
          · rw [Function.update_of_ne hne]
            exact h.past other
  | update timestamp =>
      rcases call_update hcall with ⟨hlater, hmanager, hnow, -⟩
      constructor
      · intro other
        rw [hmanager]
        exact h.speed other
      · intro other
        rw [hmanager, hnow]
        exact Nat.le_trans (h.past other) (Nat.le_of_lt hlater)

omit [DecidableEq object] in
theorem reach_pos (h : j.Ready) {timestamp : Nat} (hlater : j.now < timestamp)
    (movable : object) : 0 < reach (j.manager.movables movable) timestamp := by
  have hlt : ((j.manager.movables movable).lastUpdate : Rat) < timestamp :=
    Nat.cast_lt.mpr (Nat.lt_of_le_of_lt (h.past movable) hlater)
  have helapsed := div_pos (sub_pos.mpr hlt) (by decide : (0 : Rat) < 1000)
  exact mul_pos (h.speed movable) helapsed

theorem not_travels_self {m : Movable} {timestamp : Nat}
    (h : 0 < reach m timestamp) : ¬Travels distance m m timestamp 0 := by
  rw [Travels]
  split
  · rename_i hshort
    rintro ⟨hx, hy, -⟩
    have hlength := h.trans hshort
    have hratio := ne_of_gt (div_pos h hlength)
    have hdeltaX : m.targetX - m.x = 0 :=
      (mul_eq_zero.mp (left_eq_add.mp hx)).resolve_left hratio
    have hdeltaY : m.targetY - m.y = 0 :=
      (mul_eq_zero.mp (left_eq_add.mp hy)).resolve_left hratio
    rw [hdeltaX, hdeltaY, distance.nowhere] at hlength
    exact lt_irrefl 0 hlength
  · rintro ⟨-, -, hends⟩
    exact absurd hends (by decide)

theorem advances_of_not_delays (hstep : j.Step distance c j')
    (hgood : ¬j.Delays c) : j.Advances distance c j' := by
  rintro timestamp told rfl hcall movable
  rcases call_update hcall with ⟨-, hmanager, -, rfl⟩
  have hnone : movable ∉ j.underWay := fun hmem =>
    hgood ⟨⟨timestamp, rfl⟩, movable, hmem⟩
  change if _ then _ else _
  rw [if_neg hnone, hmanager]
  exact ⟨rfl, rfl, rfl⟩

theorem not_advances_of_delays (h : j.Ready) (hstep : j.Step distance c j')
    (hbad : j.Delays c) : ¬j.Advances distance c j' := by
  intro hadvances
  rcases hbad with ⟨⟨timestamp, rfl⟩, movable, hmem⟩
  rcases hstep with ⟨told, hcall⟩
  have htravels := hadvances timestamp told rfl hcall movable
  rcases call_update hcall with ⟨hlater, hmanager, -, rfl⟩
  change if _ then _ else _ at htravels
  rw [if_pos hmem, hmanager] at htravels
  exact not_travels_self (reach_pos h hlater movable) htravels

/--
Whatever is given a target and whenever the timer ticks, the ticks of a run
advance all objects as they should exactly if each one comes while no object
is under way.
-/
theorem advances_atEachStep_iff {start : Journeys object}
    (hstart : start.Ready) {history : List (PositionCall object)}
    (hrun : Run (Step distance) start history j) :
    AtEachStep (Step distance) start (Advances distance) history ↔
      Avoids (Step distance) start Delays history :=
  atEachStep_iff_avoids step_deterministic hstart
    (fun h hstep _ => ready_of_step h hstep)
    (fun _ hstep hgood => advances_of_not_delays hstep hgood)
    (fun h hstep hbad => not_advances_of_delays h hstep hbad) hrun

/-- Along the axes. -/
def straight : Distance where
  length deltaX deltaY := |deltaX| + |deltaY|
  nonneg deltaX deltaY := add_nonneg (abs_nonneg deltaX) (abs_nonneg deltaY)
  nowhere := by rw [abs_zero, add_zero]

def atRest : Journeys Unit where
  manager := ⟨fun _ => ⟨0, 0, 0, 0, 1, 0, 0⟩, []⟩
  now := 0
  underWay := ∅

theorem ready_atRest : atRest.Ready :=
  ⟨fun _ => zero_lt_one, fun _ => Nat.le_refl 0⟩

/-- The object is given a target. -/
def sentOff : Journeys Unit :=
  { atRest with
    manager := atRest.manager.moveObject () 10 0 0
    underWay := insert () ∅ }

theorem step_sentOff :
    atRest.Step straight (.moveObject () 10 0 0) sentOff := ⟨[], rfl⟩

theorem advances_atRest :
    AtEachStep (Step straight) atRest (Advances straight)
        [.moveObject () 10 0 0] ↔
      Avoids (Step straight) atRest Delays [.moveObject () 10 0 0] :=
  advances_atEachStep_iff ready_atRest (Run.snoc Run.nil step_sentOff)

/-- After a tenth of a second the object is still where it was. -/
theorem not_advances_sentOff :
    ¬AtEachStep (Step straight) atRest (Advances straight)
      [.moveObject () 10 0 0, .update 100] := by
  intro h
  have hstep : sentOff.Step straight (.update 100)
      { sentOff with now := 100 } := ⟨[], rfl⟩
  refine not_advances_of_delays
    (ready_of_step ready_atRest step_sentOff) hstep ?_
    (h [.moveObject () 10 0 0] (.update 100) [] _ _ rfl
      (Run.snoc Run.nil step_sentOff) hstep)
  exact ⟨⟨100, rfl⟩, (), Finset.mem_insert_self () ∅⟩

end Journeys

end Game
end Rzu
