import Mathlib.Algebra.Order.Group.Abs
import Mathlib.Algebra.Order.Ring.Int
import Mathlib.Data.List.Count
import Mathlib.Data.List.Nodup
import Mathlib.Data.Rat.Init
import Rzu.Packet.MessageBuffer

/-!
# Regions and who sees them

The world is cut into square regions.  From a region those of its layer are
visible that are at most three steps away.  An object that gets from one
region to another is told which regions it leaves behind and which are new.
-/

namespace Rzu
namespace Game

open Library
open Packet

structure Region where
  rx : Int
  ry : Int
  layer : UInt8
deriving DecidableEq

namespace Region

def REGION_SIZE : Int := 180

def VISIBILITY_RADIUS : Int := 3

/-- `int32_t(x / REGION_SIZE)`: towards zero. -/
def coordinate (x : Rat) : Int :=
  let quotient := x / REGION_SIZE
  int32.cast (quotient.num.tdiv quotient.den)

def ofPosition (x y : Rat) (layer : UInt8) : Region :=
  ⟨coordinate x, coordinate y, layer⟩

/-- Sums and differences are of 32-bit integers. -/
def isVisibleRegion (r other : Region) : Bool :=
  if other.layer ≠ r.layer then false
  else
    let distance := int32.cast (int32.cast |int32.cast (r.rx - other.rx)| +
      int32.cast |int32.cast (r.ry - other.ry)|)
    decide (distance ≤ VISIBILITY_RADIUS)

/-- `for(i = first; i <= last; i++)` -/
def upTo (first last : Int) : List Int :=
  (List.range (last + 1 - first).toNat).map fun i : Nat => first + i

def around (r : Region) : List Region :=
  (upTo (int32.cast (r.rx - VISIBILITY_RADIUS))
      (int32.cast (r.rx + VISIBILITY_RADIUS))).flatMap fun rx =>
    let ryStart := int32.cast (int32.cast (r.ry - VISIBILITY_RADIUS) +
      |int32.cast (rx - r.rx)|)
    let ryEnd := int32.cast (int32.cast (r.ry + VISIBILITY_RADIUS) -
      |int32.cast (rx - r.rx)|)
    (upTo ryStart ryEnd).map fun ry => ⟨rx, ry, r.layer⟩

end Region

/-- An object of the world. -/
structure Movable where
  x : Rat
  y : Rat
  layer : UInt8
  /-- In milliseconds. -/
  lastUpdate : Nat
  currentSpeed : Rat
  targetX : Rat
  targetY : Rat

/-- What a movable is told. -/
inductive Callback where
  | onMoveEnd
  | onRegionChange (oldRegion newRegion : Region)
  | onLeaveRegion (region : Region)
  | onEnterRegion (region : Region)
deriving DecidableEq

def Movable.region (movable : Movable) : Region :=
  Region.ofPosition movable.x movable.y movable.layer

/-- The callbacks of `PositionManager::updateRegion`. -/
def updateRegion (movable : Movable) (oldX oldY : Rat) (oldLayer : UInt8) :
    List Callback :=
  let oldRegion := Region.ofPosition oldX oldY oldLayer
  let newRegion := movable.region
  if oldRegion = newRegion then []
  else
    .onRegionChange oldRegion newRegion ::
      ((oldRegion.around.filter fun testRegion =>
          oldRegion.isVisibleRegion testRegion &&
            !newRegion.isVisibleRegion testRegion).map .onLeaveRegion ++
        (newRegion.around.filter fun testRegion =>
          newRegion.isVisibleRegion testRegion &&
            !oldRegion.isVisibleRegion testRegion).map .onEnterRegion)

/-!
## What is visible
-/

namespace Region

/-- In the plane, as far as it goes. -/
def Sees (r other : Region) : Prop :=
  other.layer = r.layer ∧
    |r.rx - other.rx| + |r.ry - other.ry| ≤ VISIBILITY_RADIUS

instance (r other : Region) : Decidable (r.Sees other) :=
  inferInstanceAs (Decidable (_ ∧ _))

/-- Far enough from the limits of 32-bit integers. -/
def Inner (r : Region) : Prop := |r.rx| < 2 ^ 29 ∧ |r.ry| < 2 ^ 29

variable {r other old new : Region}

theorem int32_cast {n : Int} (hlow : -2 ^ 31 ≤ n) (hhigh : n < 2 ^ 31) :
    int32.cast n = n := by
  have hmodulus : int32.modulus = 2 ^ 32 := by decide
  have hfits : -int32.modulus ≤ 2 * n ∧ 2 * n < int32.modulus := by
    rw [hmodulus]
    constructor <;> lia
  exact IntType.cast_eq hfits

theorem int32_cast_of_abs {n : Int} (h : |n| < 2 ^ 31) : int32.cast n = n := by
  rw [abs_lt] at h
  exact int32_cast (Int.le_of_lt h.left) h.right

theorem isVisibleRegion_iff
    (h : |r.rx - other.rx| + |r.ry - other.ry| < 2 ^ 31) :
    r.isVisibleRegion other = true ↔ r.Sees other := by
  have hx := abs_nonneg (r.rx - other.rx)
  have hy := abs_nonneg (r.ry - other.ry)
  have hcastx : int32.cast (r.rx - other.rx) = r.rx - other.rx :=
    int32_cast_of_abs (by lia)
  have hcasty : int32.cast (r.ry - other.ry) = r.ry - other.ry :=
    int32_cast_of_abs (by lia)
  have habsx : int32.cast |r.rx - other.rx| = |r.rx - other.rx| :=
    int32_cast (by lia) (by lia)
  have habsy : int32.cast |r.ry - other.ry| = |r.ry - other.ry| :=
    int32_cast (by lia) (by lia)
  have hsum : int32.cast (|r.rx - other.rx| + |r.ry - other.ry|) =
      |r.rx - other.rx| + |r.ry - other.ry| := int32_cast (by lia) (by lia)
  rw [isVisibleRegion, Sees, hcastx, hcasty, habsx, habsy, hsum]
  split
  · rename_i hlayer
    exact ⟨fun hfalse => absurd hfalse Bool.false_ne_true,
      fun hboth => absurd hboth.left hlayer⟩
  · rename_i hlayer
    rw [decide_eq_true_iff, and_iff_right (not_not.mp hlayer)]

theorem mem_upTo {first last i : Int} :
    i ∈ upTo first last ↔ first ≤ i ∧ i ≤ last := by
  rw [upTo, List.mem_map]
  constructor
  · rintro ⟨k, hk, rfl⟩
    rw [List.mem_range] at hk
    lia
  · rintro ⟨hfirst, hlast⟩
    refine ⟨(i - first).toNat, ?_, ?_⟩
    · rw [List.mem_range]
      lia
    · lia

theorem nodup_upTo (first last : Int) : (upTo first last).Nodup := by
  apply List.Nodup.map _ List.nodup_range
  intro i j h
  have heq : first + (i : Int) = first + (j : Int) := h
  lia

section Inner

variable (hinner : r.Inner)
include hinner

theorem around_eq :
    r.around = (upTo (r.rx - 3) (r.rx + 3)).flatMap fun rx =>
      (upTo (r.ry - 3 + |rx - r.rx|) (r.ry + 3 - |rx - r.rx|)).map fun ry =>
        ⟨rx, ry, r.layer⟩ := by
  rcases hinner with ⟨hx, hy⟩
  rw [abs_lt] at hx hy
  have hlow : int32.cast (r.rx - 3) = r.rx - 3 :=
    int32_cast (by lia) (by lia)
  have hhigh : int32.cast (r.rx + 3) = r.rx + 3 :=
    int32_cast (by lia) (by lia)
  have hstart : int32.cast (r.ry - 3) = r.ry - 3 :=
    int32_cast (by lia) (by lia)
  have hend : int32.cast (r.ry + 3) = r.ry + 3 :=
    int32_cast (by lia) (by lia)
  rw [around, VISIBILITY_RADIUS, hlow, hhigh, hstart, hend]
  apply List.flatMap_congr
  intro rx hrx
  rw [mem_upTo] at hrx
  have hnonneg := abs_nonneg (rx - r.rx)
  have hle : |rx - r.rx| ≤ 3 := abs_le.mpr (by lia)
  have hoffset : int32.cast (rx - r.rx) = rx - r.rx :=
    int32_cast (by lia) (by lia)
  have hfirst : int32.cast (r.ry - 3 + |rx - r.rx|) =
      r.ry - 3 + |rx - r.rx| := int32_cast (by lia) (by lia)
  have hlast : int32.cast (r.ry + 3 - |rx - r.rx|) =
      r.ry + 3 - |rx - r.rx| := int32_cast (by lia) (by lia)
  rw [hoffset, hfirst, hlast]

theorem mem_around : other ∈ r.around ↔ r.Sees other := by
  rw [around_eq hinner, List.mem_flatMap, Sees, VISIBILITY_RADIUS]
  constructor
  · rintro ⟨rx, -, hmem⟩
    rcases List.mem_map.mp hmem with ⟨ry, hry, rfl⟩
    rw [mem_upTo, abs_sub_comm] at hry
    refine ⟨rfl, ?_⟩
    have hy : |r.ry - ry| ≤ 3 - |r.rx - rx| := abs_le.mpr (by lia)
    change |r.rx - rx| + |r.ry - ry| ≤ 3
    lia
  · rintro ⟨hlayer, hsum⟩
    have hx := abs_nonneg (r.rx - other.rx)
    have hy : |r.ry - other.ry| ≤ 3 - |r.rx - other.rx| := by lia
    have hrange : |r.rx - other.rx| ≤ 3 := by
      have hnonneg := abs_nonneg (r.ry - other.ry)
      lia
    rw [abs_le] at hy
    rw [abs_le] at hrange
    refine ⟨other.rx, mem_upTo.mpr (by lia), ?_⟩
    refine List.mem_map.mpr ⟨other.ry, ?_, ?_⟩
    · rw [mem_upTo, abs_sub_comm]
      lia
    · rw [← hlayer]

theorem nodup_around : r.around.Nodup := by
  rw [around_eq hinner, List.nodup_flatMap]
  constructor
  · intro rx _
    apply List.Nodup.map _ (nodup_upTo _ _)
    intro ry ry' h
    cases h
    rfl
  · apply List.Pairwise.imp _ (nodup_upTo (r.rx - 3) (r.rx + 3))
    intro rx rx' hne region hmem hmem'
    rcases List.mem_map.mp hmem with ⟨ry, -, rfl⟩
    rcases List.mem_map.mp hmem' with ⟨ry', -, heq⟩
    cases heq
    exact hne rfl

end Inner

theorem isVisibleRegion_of_sees (hr : r.Inner) (hold : old.Inner)
    (h : old.Sees other) :
    r.isVisibleRegion other = true ↔ r.Sees other := by
  apply isVisibleRegion_iff
  rcases h with ⟨-, hsum⟩
  rw [VISIBILITY_RADIUS] at hsum
  have hx := abs_sub_le r.rx old.rx other.rx
  have hy := abs_sub_le r.ry old.ry other.ry
  have hapartx := abs_sub r.rx old.rx
  have haparty := abs_sub r.ry old.ry
  rcases hr with ⟨hrx, hry⟩
  rcases hold with ⟨holdx, holdy⟩
  lia

/-- What the two loops tell is the difference of two sets. -/
theorem count_difference (hr : r.Inner) (hother : other.Inner)
    (region : Region) :
    (r.around.filter fun testRegion =>
        r.isVisibleRegion testRegion &&
          !other.isVisibleRegion testRegion).count region =
      if r.Sees region ∧ ¬other.Sees region then 1 else 0 := by
  have hnodup : (r.around.filter fun testRegion =>
      r.isVisibleRegion testRegion &&
        !other.isVisibleRegion testRegion).Nodup :=
    (nodup_around hr).filter _
  have hmem : (region ∈ r.around.filter fun testRegion =>
      r.isVisibleRegion testRegion &&
        !other.isVisibleRegion testRegion) ↔
      r.Sees region ∧ ¬other.Sees region := by
    rw [List.mem_filter, mem_around hr]
    constructor
    · rintro ⟨hsees, htest⟩
      rw [Bool.and_eq_true, Bool.not_eq_true'] at htest
      refine ⟨hsees, fun hboth => ?_⟩
      rw [(isVisibleRegion_of_sees hother hr hsees).mpr hboth] at htest
      exact absurd htest.right.symm Bool.false_ne_true
    · rintro ⟨hsees, hnot⟩
      refine ⟨hsees, ?_⟩
      rw [Bool.and_eq_true, Bool.not_eq_true']
      refine ⟨(isVisibleRegion_of_sees hr hr hsees).mpr hsees, ?_⟩
      rw [Bool.eq_false_iff]
      exact fun htest =>
        hnot ((isVisibleRegion_of_sees hother hr hsees).mp htest)
  rw [hnodup.count]
  simp only [hmem]

end Region

/-!
## Changes of region
-/

theorem count_onLeaveRegion (enters leaves : List Region)
    (oldRegion newRegion region : Region) :
    (Callback.onRegionChange oldRegion newRegion ::
        (leaves.map .onLeaveRegion ++ enters.map .onEnterRegion)).count
          (.onLeaveRegion region) = leaves.count region := by
  rw [List.count_cons_of_ne (by simp), List.count_append,
    List.count_map_of_injective _ _ fun _ _ h => by cases h; rfl]
  have hnone : (enters.map Callback.onEnterRegion).count
      (.onLeaveRegion region) = 0 := by
    rw [List.count_eq_zero, List.mem_map]
    rintro ⟨other, -, heq⟩
    cases heq
  rw [hnone, Nat.add_zero]

theorem count_onEnterRegion (enters leaves : List Region)
    (oldRegion newRegion region : Region) :
    (Callback.onRegionChange oldRegion newRegion ::
        (leaves.map .onLeaveRegion ++ enters.map .onEnterRegion)).count
          (.onEnterRegion region) = enters.count region := by
  have hnone : (leaves.map Callback.onLeaveRegion).count
      (.onEnterRegion region) = 0 := by
    rw [List.count_eq_zero, List.mem_map]
    rintro ⟨other, -, heq⟩
    cases heq
  rw [List.count_cons_of_ne (by simp), List.count_append, hnone,
    Nat.zero_add, List.count_map_of_injective _ _ fun _ _ h => by cases h; rfl]

/--
An object that gets from one region to another leaves every region once that
it saw and does not see any more, and enters every region once that it did not
see; within a region it is told nothing.
-/
theorem updateRegion_exact (movable : Movable) (oldX oldY : Rat)
    (oldLayer : UInt8)
    (hold : (Region.ofPosition oldX oldY oldLayer).Inner)
    (hnew : movable.region.Inner) :
    (Region.ofPosition oldX oldY oldLayer = movable.region ->
      updateRegion movable oldX oldY oldLayer = []) ∧
    forall region,
      (updateRegion movable oldX oldY oldLayer).count
          (.onLeaveRegion region) =
        (if (Region.ofPosition oldX oldY oldLayer).Sees region ∧
            ¬movable.region.Sees region then 1 else 0) ∧
      (updateRegion movable oldX oldY oldLayer).count
          (.onEnterRegion region) =
        if movable.region.Sees region ∧
            ¬(Region.ofPosition oldX oldY oldLayer).Sees region then 1 else 0
    := by
  rw [updateRegion]
  by_cases hsame : Region.ofPosition oldX oldY oldLayer = movable.region
  · rw [if_pos hsame, hsame]
    refine ⟨fun _ => rfl, fun region => ?_⟩
    rw [if_neg fun h => h.right h.left, List.count_nil, List.count_nil]
    exact ⟨rfl, rfl⟩
  · rw [if_neg hsame]
    refine ⟨fun h => absurd h hsame, fun region => ?_⟩
    rw [count_onLeaveRegion, count_onEnterRegion]
    exact ⟨Region.count_difference hold hnew region,
      Region.count_difference hnew hold region⟩

def nextDoor : Movable := ⟨200, 0, 0, 0, 1, 200, 0⟩

theorem inner_atZero : (Region.ofPosition 0 0 0).Inner :=
  ⟨by decide +kernel, by decide +kernel⟩

theorem inner_nextDoor : nextDoor.region.Inner :=
  ⟨by decide +kernel, by decide +kernel⟩

theorem updateRegion_exact_nextDoor :
    (updateRegion nextDoor 0 0 0).count (.onEnterRegion ⟨4, 0, 0⟩) = 1 := by
  rw [((updateRegion_exact nextDoor 0 0 0 inner_atZero
    inner_nextDoor).right ⟨4, 0, 0⟩).right]
  decide +kernel

end Game
end Rzu
