import Mathlib.Algebra.Order.Field.Basic
import Mathlib.Analysis.Real.Sqrt
import Mathlib.Data.List.Induction
import Mathlib.Tactic.FieldSimp
import Mathlib.Tactic.Linarith
import Mathlib.Tactic.Ring

/-!
# Where a creature is

A creature that moves goes from target to target at a constant speed.  Its
position is brought up to date when it is needed.  Times, speeds and positions
are numbers of a field here, and the steps take exactly as long as they should.
-/

namespace Rzu
namespace Mirror

/-- How long a displacement is, `sqrtf(dx * dx + dy * dy)`. -/
structure StepLength (K : Type _) [Field K] [LinearOrder K] where
  length : K -> K -> K
  nonneg : forall dx dy, 0 ≤ length dx dy
  scale : forall k dx dy, 0 ≤ k ->
    length (k * dx) (k * dy) = k * length dx dy
  nowhere : forall dx dy, length dx dy = 0 -> dx = 0 ∧ dy = 0

@[ext]
structure Place (K : Type _) where
  x : K
  y : K
deriving DecidableEq

/-- The targets are `MOVE_INFO`, and the speed is for thirty units of time. -/
structure ActiveMove (K : Type _) where
  start_time : K
  speed : K
  move_infos : List (Place K)
deriving DecidableEq

structure MovingCreature (K : Type _) where
  activeMove : Option (ActiveMove K)
  place : Place K
deriving DecidableEq

section Field

variable {K : Type _} [Field K] [LinearOrder K]
variable (m : StepLength K)

/-- `nextStepEnd`, when a step to the target ends that starts at a time. -/
def nextStepEnd (speed start_time : K) (p target : Place K) : K :=
  start_time + m.length (target.x - p.x) (target.y - p.y) / (speed / 30)

/-- A part of the way to the target. -/
def Place.towards (p target : Place K) (ratio : K) : Place K :=
  ⟨p.x + (target.x - p.x) * ratio, p.y + (target.y - p.y) * ratio⟩

/--
The loop over the targets, with the time at which the step to the first one
starts.  A reference to the first target is used after that was erased: it is
the next target then, or else what the erased one has left behind.
-/
def followMove (speed gameTime : K) :
    K -> Place K -> List (Place K) -> K × Place K × List (Place K)
  | start_time, p, [] => (start_time, p, [])
  | start_time, p, moveInfo :: rest =>
      let erased := rest.headD moveInfo
      if speed / 30 ≤ 0 then followMove speed gameTime start_time erased rest
      else
        let stepEnd := nextStepEnd m speed start_time p moveInfo
        if stepEnd ≤ gameTime ∨ stepEnd < start_time then
          followMove speed gameTime stepEnd erased rest
        else
          let timeSinceLastUpdate := gameTime - start_time
          let remainingTime := stepEnd - start_time
          if remainingTime ≤ 0 then (start_time, p, moveInfo :: rest)
          else
            (gameTime,
              p.towards moveInfo (timeSinceLastUpdate / remainingTime),
              moveInfo :: rest)

def updateCreaturePlace (gameTime : K) (c : MovingCreature K) :
    MovingCreature K :=
  match c.activeMove with
  | none => c
  | some move =>
      let (start_time, place, move_infos) :=
        followMove m move.speed gameTime move.start_time c.place
          move.move_infos
      { activeMove :=
          if move_infos.isEmpty then none
          else some { move with
            start_time := start_time
            move_infos := move_infos }
        place := place }

/-!
## Paths
-/

/--
Where the path is at a time that goes from a place to one target after the
other: at the place until it starts, and at the last target once it has ended.
Without a speed it is there at once.
-/
def pathAt (speed time : K) : K -> Place K -> List (Place K) -> Place K
  | _, p, [] => p
  | start_time, p, target :: rest =>
      if speed ≤ 0 then pathAt speed time start_time target rest
      else
        let stepEnd := nextStepEnd m speed start_time p target
        if stepEnd ≤ time then pathAt speed time stepEnd target rest
        else if time < start_time then p
        else p.towards target ((time - start_time) / (stepEnd - start_time))

/-- The same for the move of a creature. -/
def MovingCreature.pathAt (c : MovingCreature K) (time : K) : Place K :=
  match c.activeMove with
  | none => c.place
  | some move =>
      Mirror.pathAt m move.speed time move.start_time c.place move.move_infos

/--
The move has started by that time, or its first step is none; and if the first
step has ended, the path is at its last target.
-/
def MovingCreature.OnTrack (c : MovingCreature K) (time : K) : Prop :=
  match c.activeMove with
  | none => True
  | some move =>
      match move.move_infos with
      | [] => True
      | first :: rest =>
          0 < move.speed ->
            (time < move.start_time -> first = c.place) ∧
              (nextStepEnd m move.speed move.start_time c.place first ≤ time ->
                c.pathAt m time = rest.getLastD first)

/-!
## The end of the first step
-/

section Steps

variable {m}

theorem length_nowhere : m.length 0 0 = 0 := by
  have hscale := m.scale 0 0 0 le_rfl
  simpa using hscale

theorem nextStepEnd_self (speed start_time : K) (p : Place K) :
    nextStepEnd m speed start_time p p = start_time := by
  rw [nextStepEnd, sub_self, sub_self, length_nowhere, zero_div, add_zero]

theorem followMove_erased (speed gameTime : K) (rest : List (Place K))
    (last : Place K) (start_time : K)
    (hended : speed / 30 ≤ 0 ∨ start_time ≤ gameTime) :
    (followMove m speed gameTime start_time (rest.headD last) rest).2 =
      (rest.getLastD last, []) := by
  induction rest generalizing last start_time with
  | nil => rfl
  | cons target rest ih =>
      rw [List.headD_cons, followMove]
      split
      · rename_i hspeed
        rw [ih target start_time (Or.inl hspeed)]
        cases rest with
        | nil => rfl
        | cons next rest => rfl
      · rename_i hspeed
        have hstarted := hended.resolve_left hspeed
        rw [nextStepEnd_self, if_pos (Or.inl hstarted),
          ih target start_time (Or.inr hstarted)]
        cases rest with
        | nil => rfl
        | cons next rest => rfl

variable [IsStrictOrderedRing K]
variable {speed start_time time time' : K} {p target : Place K}

theorem le_nextStepEnd (m : StepLength K) (start_time : K)
    (p target : Place K) (hspeed : 0 < speed) :
    start_time ≤ nextStepEnd m speed start_time p target := by
  have hlength := m.nonneg (target.x - p.x) (target.y - p.y)
  rw [nextStepEnd]
  exact le_add_of_nonneg_right (div_nonneg hlength (by positivity))

theorem eq_of_nextStepEnd_le (hspeed : 0 < speed)
    (hend : nextStepEnd m speed start_time p target ≤ start_time) :
    target = p := by
  have hlength := m.nonneg (target.x - p.x) (target.y - p.y)
  have hzero : m.length (target.x - p.x) (target.y - p.y) = 0 := by
    apply le_antisymm _ hlength
    rw [nextStepEnd, add_le_iff_nonpos_right, div_le_iff₀ (by positivity),
      zero_mul] at hend
    exact hend
  rcases m.nowhere _ _ hzero with ⟨hx, hy⟩
  exact Place.ext (sub_eq_zero.mp hx) (sub_eq_zero.mp hy)

theorem nextStepEnd_towards (hspeed : 0 < speed)
    (hlong : start_time < nextStepEnd m speed start_time p target)
    (htime : time ≤ nextStepEnd m speed start_time p target) :
    nextStepEnd m speed time
        (p.towards target ((time - start_time) /
          (nextStepEnd m speed start_time p target - start_time))) target =
      nextStepEnd m speed start_time p target := by
  have hremaining :
      0 < nextStepEnd m speed start_time p target - start_time :=
    sub_pos.mpr hlong
  have hlength : m.length (target.x - p.x) (target.y - p.y) =
      (nextStepEnd m speed start_time p target - start_time) *
        (speed / 30) := by
    rw [nextStepEnd]
    field_simp
    ring
  generalize hend : nextStepEnd m speed start_time p target = stepEnd at *
  have hleft : 0 ≤ (stepEnd - time) / (stepEnd - start_time) :=
    div_nonneg (sub_nonneg.mpr htime) (le_of_lt hremaining)
  have hscaled := m.scale _ (target.x - p.x) (target.y - p.y) hleft
  have hx : target.x - (p.towards target
      ((time - start_time) / (stepEnd - start_time))).x =
        (stepEnd - time) / (stepEnd - start_time) * (target.x - p.x) := by
    rw [Place.towards]
    field_simp
    ring
  have hy : target.y - (p.towards target
      ((time - start_time) / (stepEnd - start_time))).y =
        (stepEnd - time) / (stepEnd - start_time) * (target.y - p.y) := by
    rw [Place.towards]
    field_simp
    ring
  rw [nextStepEnd, hx, hy, hscaled, hlength]
  field_simp
  ring

theorem towards_towards
    {stepEnd : K} (hlong : start_time < stepEnd) (htime : time < stepEnd) :
    (p.towards target ((time - start_time) / (stepEnd - start_time))).towards
        target ((time' - time) / (stepEnd - time)) =
      p.towards target ((time' - start_time) / (stepEnd - start_time)) := by
  have hremaining : stepEnd - start_time ≠ 0 := ne_of_gt (sub_pos.mpr hlong)
  have hleft : stepEnd - time ≠ 0 := ne_of_gt (sub_pos.mpr htime)
  apply Place.ext
  · simp only [Place.towards]
    field_simp
    ring
  · simp only [Place.towards]
    field_simp
    ring

end Steps

/-!
## Updates
-/

/-- What an update at some time makes of a move that begins at a place. -/
def ActiveMove.after (move : ActiveMove K) (p : Place K) (time : K) :
    MovingCreature K :=
  match move.move_infos with
  | [] => ⟨none, p⟩
  | first :: rest =>
      let stepEnd := nextStepEnd m move.speed move.start_time p first
      if move.speed ≤ 0 ∨ stepEnd ≤ time then ⟨none, rest.getLastD first⟩
      else if stepEnd ≤ move.start_time then ⟨some move, p⟩
      else
        ⟨some { move with start_time := time },
          p.towards first
            ((time - move.start_time) / (stepEnd - move.start_time))⟩

def MovingCreature.updated (c : MovingCreature K) (times : List K) :
    MovingCreature K :=
  times.foldl (fun c time => updateCreaturePlace m time c) c

section Updates

variable {m}

theorem pathAt_motionless {speed : K} (hspeed : speed ≤ 0)
    (time start_time : K) (p : Place K) (rest : List (Place K)) :
    pathAt m speed time start_time p rest = rest.getLastD p := by
  induction rest generalizing p with
  | nil => rfl
  | cons target rest ih =>
      rw [pathAt, if_pos hspeed, ih]
      cases rest with
      | nil => rfl
      | cons next rest => rfl

theorem updated_still (times : List K) (p : Place K) :
    MovingCreature.updated m ⟨none, p⟩ times = ⟨none, p⟩ := by
  induction times with
  | nil => rfl
  | cons time times ih =>
      rw [MovingCreature.updated, List.foldl_cons]
      exact ih

variable [IsStrictOrderedRing K]
variable {move : ActiveMove K} {p : Place K} {time time' : K}

theorem update_eq_after (move : ActiveMove K) (p : Place K) (time : K) :
    updateCreaturePlace m time ⟨some move, p⟩ = move.after m p time := by
  rcases move with ⟨start_time, speed, move_infos⟩
  cases move_infos with
  | nil => rfl
  | cons first rest =>
      simp only [updateCreaturePlace, ActiveMove.after, followMove]
      by_cases hspeed : speed ≤ 0
      · have hstill : speed / 30 ≤ 0 := by linarith
        rw [if_pos hstill, if_pos (Or.inl hspeed)]
        have herased := followMove_erased (m := m) speed time rest first
          start_time (Or.inl hstill)
        simp only [herased, List.isEmpty_nil, if_true]
      · have hpos := lt_of_not_ge hspeed
        have hmoves : ¬speed / 30 ≤ 0 := by
          intro hle
          linarith
        have hends := le_nextStepEnd m start_time p first hpos
        rw [if_neg hmoves]
        by_cases hended : nextStepEnd m speed start_time p first ≤ time
        · rw [if_pos (Or.inl hended), if_pos (Or.inr hended)]
          have herased := followMove_erased (m := m) speed time rest first
            _ (Or.inr hended)
          simp only [herased, List.isEmpty_nil, if_true]
        · have hgoes : ¬(nextStepEnd m speed start_time p first ≤ time ∨
              nextStepEnd m speed start_time p first < start_time) :=
            not_or.mpr ⟨hended, not_lt.mpr hends⟩
          have hnot : ¬(speed ≤ 0 ∨
              nextStepEnd m speed start_time p first ≤ time) :=
            not_or.mpr ⟨hspeed, hended⟩
          rw [if_neg hgoes, if_neg hnot]
          by_cases hnone :
              nextStepEnd m speed start_time p first ≤ start_time
          · rw [if_pos (sub_nonpos.mpr hnone), if_pos hnone]
            rfl
          · rw [if_neg (mt sub_nonpos.mp hnone), if_neg hnone]
            rfl

theorem update_after (hle : time ≤ time') :
    updateCreaturePlace m time' (move.after m p time) =
      move.after m p time' := by
  rcases move with ⟨start_time, speed, move_infos⟩
  cases move_infos with
  | nil => rfl
  | cons first rest =>
      by_cases hended : speed ≤ 0 ∨
          nextStepEnd m speed start_time p first ≤ time
      · have hlater : speed ≤ 0 ∨
            nextStepEnd m speed start_time p first ≤ time' :=
          hended.imp_right fun h => le_trans h hle
        simp only [ActiveMove.after, if_pos hended, if_pos hlater]
        rfl
      · by_cases hnone : nextStepEnd m speed start_time p first ≤ start_time
        · have hsame : ActiveMove.after m
              ⟨start_time, speed, first :: rest⟩ p time =
                ⟨some ⟨start_time, speed, first :: rest⟩, p⟩ := by
            simp only [ActiveMove.after, if_neg hended, if_pos hnone]
          rw [hsame, update_eq_after]
        · have hpos := lt_of_not_ge (not_or.mp hended).1
          have hlong := lt_of_not_ge hnone
          have htime := lt_of_not_ge (not_or.mp hended).2
          have hend := nextStepEnd_towards (m := m) hpos hlong htime.le
          have hstart : ActiveMove.after m
              ⟨start_time, speed, first :: rest⟩ p time =
                ⟨some ⟨time, speed, first :: rest⟩, p.towards first
                  ((time - start_time) / (nextStepEnd m speed start_time p
                    first - start_time))⟩ := by
            simp only [ActiveMove.after, if_neg hended, if_neg hnone]
          rw [hstart, update_eq_after]
          simp only [ActiveMove.after, hend, if_neg (not_le.mpr htime),
            if_neg hnone, towards_towards hlong htime]

theorem updated_eq_after {times : List K} {time : K}
    (hsorted : (times ++ [time]).Pairwise (· ≤ ·)) :
    MovingCreature.updated m ⟨some move, p⟩ (times ++ [time]) =
      move.after m p time := by
  induction times using List.reverseRecOn generalizing time with
  | nil => exact update_eq_after move p time
  | append_singleton times earlier ih =>
      rcases List.pairwise_append.mp hsorted with ⟨hbefore, -, hlast⟩
      rw [MovingCreature.updated, List.foldl_append]
      change updateCreaturePlace m time
        (MovingCreature.updated m ⟨some move, p⟩ (times ++ [earlier])) = _
      rw [ih hbefore]
      exact update_after (hlast earlier (by simp) time (by simp))

/-!
## The place after updates
-/

theorem towards_eq_iff {target : Place K} {ratio : K} (hratio : ratio ≠ 0) :
    p.towards target ratio = p ↔ target = p := by
  constructor
  · intro hsame
    have hx := congrArg Place.x hsame
    have hy := congrArg Place.y hsame
    simp only [Place.towards, add_eq_left, mul_eq_zero, hratio,
      or_false] at hx hy
    exact Place.ext (sub_eq_zero.mp hx) (sub_eq_zero.mp hy)
  · intro hsame
    rw [hsame]
    apply Place.ext
    · simp only [Place.towards, sub_self, zero_mul, add_zero]
    · simp only [Place.towards, sub_self, zero_mul, add_zero]

theorem after_place_eq_iff (move : ActiveMove K) (p : Place K) (time : K) :
    (move.after m p time).place =
        MovingCreature.pathAt m ⟨some move, p⟩ time ↔
      MovingCreature.OnTrack m ⟨some move, p⟩ time := by
  rcases move with ⟨start_time, speed, move_infos⟩
  cases move_infos with
  | nil => exact iff_of_true rfl trivial
  | cons first rest =>
      simp only [MovingCreature.OnTrack, MovingCreature.pathAt]
      rcases le_or_gt speed 0 with hstill | hspeed
      · have hnever : ¬0 < speed := not_lt.mpr hstill
        refine iff_of_true ?_ fun hpos => absurd hpos hnever
        rw [pathAt_motionless hstill]
        simp only [ActiveMove.after, if_pos (Or.inl hstill)]
        cases rest with
        | nil => rfl
        | cons next rest => rfl
      have hends := le_nextStepEnd m start_time p first hspeed
      by_cases hended : nextStepEnd m speed start_time p first ≤ time
      · -- the step is over, and the creature at its last target
        have hstarted : ¬time < start_time :=
          not_lt.mpr (le_trans hends hended)
        have hplace : (ActiveMove.after m ⟨start_time, speed, first :: rest⟩
            p time).place = rest.getLastD first := by
          simp only [ActiveMove.after, if_pos (Or.inr hended)]
        rw [hplace]
        constructor
        · intro hsame _
          exact ⟨fun hearly => absurd hearly hstarted, fun _ => hsame.symm⟩
        · intro htrack
          exact ((htrack hspeed).2 hended).symm
      have hpath : pathAt m speed time start_time p (first :: rest) =
          if time < start_time then p
          else p.towards first ((time - start_time) /
            (nextStepEnd m speed start_time p first - start_time)) := by
        rw [pathAt, if_neg (not_le.mpr hspeed), if_neg hended]
      have hnot : ¬(speed ≤ 0 ∨
          nextStepEnd m speed start_time p first ≤ time) :=
        not_or.mpr ⟨not_le.mpr hspeed, hended⟩
      rw [hpath]
      by_cases hnone : nextStepEnd m speed start_time p first ≤ start_time
      · -- it does not move at all before the start
        have hearly : time < start_time :=
          lt_of_lt_of_le (lt_of_not_ge hended) hnone
        rw [if_pos hearly]
        simp only [ActiveMove.after, if_neg hnot, if_pos hnone, true_iff]
        intro _
        exact ⟨fun _ => eq_of_nextStepEnd_le hspeed hnone,
          fun h => absurd h hended⟩
      simp only [ActiveMove.after, if_neg hnot, if_neg hnone]
      by_cases hearly : time < start_time
      · -- the move is drawn out to before its start
        have hratio : (time - start_time) /
            (nextStepEnd m speed start_time p first - start_time) ≠ 0 :=
          div_ne_zero (sub_ne_zero.mpr (ne_of_lt hearly))
            (sub_ne_zero.mpr (ne_of_gt (lt_of_not_ge hnone)))
        rw [if_pos hearly, towards_eq_iff hratio]
        constructor
        · intro hsame _
          exact ⟨fun _ => hsame, fun h => absurd h hended⟩
        · intro htrack
          exact (htrack hspeed).1 hearly
      · rw [if_neg hearly]
        refine iff_of_true rfl fun _ => ?_
        exact ⟨fun h => absurd h hearly, fun h => absurd h hended⟩

theorem updated_split (c : MovingCreature K) {times : List K} {time : K}
    (hsorted : (times ++ [time]).Pairwise (· ≤ ·)) :
    c.updated m (times ++ [time]) = updateCreaturePlace m time c := by
  rcases c with ⟨_ | move, p⟩
  · exact updated_still _ p
  · rw [updated_eq_after hsorted, update_eq_after]

theorem updated_place_iff (m : StepLength K) (c : MovingCreature K)
    {times : List K} {time : K}
    (hsorted : (times ++ [time]).Pairwise (· ≤ ·)) :
    ((c.updated m (times ++ [time])).place = c.pathAt m time ↔
        c.OnTrack m time) ∧
      c.updated m (times ++ [time]) = c.updated m [time] := by
  refine ⟨?_, updated_split c hsorted⟩
  rcases c with ⟨_ | move, p⟩
  · exact iff_of_true (by rw [updated_still]; rfl) trivial
  · rw [updated_eq_after hsorted]
    exact after_place_eq_iff move p time

end Updates

end Field

/-- How long a displacement is in the plane. -/
noncomputable def straight : StepLength Real where
  length dx dy := Real.sqrt (dx * dx + dy * dy)
  nonneg dx dy := Real.sqrt_nonneg _
  scale k dx dy hk := by
    have hsquare : k * dx * (k * dx) + k * dy * (k * dy) =
        k ^ 2 * (dx * dx + dy * dy) := by
      ring
    rw [hsquare, Real.sqrt_mul (sq_nonneg k), Real.sqrt_sq hk]
  nowhere dx dy hzero := by
    have hx := mul_self_nonneg dx
    have hy := mul_self_nonneg dy
    have hsum := Real.sqrt_eq_zero'.mp hzero
    exact ⟨mul_self_eq_zero.mp (by linarith),
      mul_self_eq_zero.mp (by linarith)⟩

theorem straight_along_x (d : Real) : straight.length d 0 = |d| := by
  change Real.sqrt (d * d + 0 * 0) = _
  rw [mul_zero, add_zero, Real.sqrt_mul_self_eq_abs]

theorem straight_along_y (d : Real) : straight.length 0 d = |d| := by
  change Real.sqrt (0 * 0 + d * d) = _
  rw [mul_zero, zero_add, Real.sqrt_mul_self_eq_abs]

/-- A move around a corner, ten units of time for each of its two steps. -/
noncomputable def cornering : MovingCreature Real :=
  ⟨some ⟨0, 30, [⟨10, 0⟩, ⟨10, 10⟩]⟩, ⟨0, 0⟩⟩

theorem updated_place_half :
    ((cornering.updated straight ([3] ++ [5])).place =
        cornering.pathAt straight 5 ↔ cornering.OnTrack straight 5) ∧
      cornering.updated straight ([3] ++ [5]) =
        cornering.updated straight [5] :=
  updated_place_iff straight cornering (by simp; norm_num)

theorem not_updated_place_corner :
    ¬(forall (c : MovingCreature Real) (times : List Real) (time : Real),
      (times ++ [time]).Pairwise (· ≤ ·) ->
        (c.updated straight (times ++ [time])).place =
          c.pathAt straight time) := by
  intro hpath
  have hplace := hpath cornering [] 12 (by simp)
  have hend : nextStepEnd straight 30 0 ⟨0, 0⟩ ⟨10, 0⟩ = 10 := by
    norm_num [nextStepEnd, straight_along_x]
  have hend' : nextStepEnd straight 30 10 ⟨10, 0⟩ ⟨10, 10⟩ = 20 := by
    norm_num [nextStepEnd, straight_along_y]
  have hcode : (cornering.updated straight ([] ++ [12])).place =
      ⟨10, 10⟩ := by
    rw [cornering, updated_eq_after (by simp)]
    norm_num [ActiveMove.after, hend]
  have hreached : cornering.pathAt straight 12 = ⟨10, 2⟩ := by
    norm_num [cornering, MovingCreature.pathAt, pathAt, hend, hend',
      Place.towards]
  rw [hcode, hreached] at hplace
  norm_num at hplace

end Mirror
end Rzu
