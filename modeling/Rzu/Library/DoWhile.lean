import Rzu.Library.Consumer

/-!
# Loops that test at the end

A loop whose body may leave it, and that goes round again while its condition
holds.  It drains a consumer if one pass of its body does so step by step and
the loop only ends where the consumer is idle.
-/

namespace Rzu
namespace Library

structure DoWhile (state output : Type _) where
  /-- One pass; `none` leaves the loop. -/
  body : state -> Option (state × List output)
  again : state -> Bool
  measure : state -> Nat
  decreases : forall {s s' out}, body s = some (s', out) ->
    again s' = true -> measure s' < measure s

namespace DoWhile

variable {state output : Type _} (L : DoWhile state output)

def run (s : state) : state × List output :=
  match _h : L.body s with
  | none => (s, [])
  | some (s', out) =>
      if _hagain : L.again s' = true then
        ((run s').1, out ++ (run s').2)
      else
        (s', out)
termination_by L.measure s
decreasing_by all_goals exact L.decreases _h _hagain

theorem run_of_none {s : state} (h : L.body s = none) :
    L.run s = (s, []) := by
  rw [run]
  split
  · rfl
  · rename_i heq
    rw [h] at heq
    cases heq

theorem run_of_some {s s' : state} {out : List output}
    (h : L.body s = some (s', out)) :
    L.run s =
      if L.again s' = true then ((L.run s').1, out ++ (L.run s').2)
      else (s', out) := by
  rw [run]
  split
  · rename_i heq
    rw [h] at heq
    cases heq
  · rename_i heq
    rw [h] at heq
    cases heq
    rfl

section Refinement

variable {state' input' output' : Type _}
variable (C : Consumer state' input' output')
variable (view : state -> state') (viewOut : output -> output')

/-- A loop that drains a consumer, seen through a view of its state. -/
structure Drains : Prop where
  leaves : forall {s}, L.body s = none -> C.step (view s) = none
  passes : forall {s s' out}, L.body s = some (s', out) ->
    C.drain (view s) =
      ((C.drain (view s')).1, out.map viewOut ++ (C.drain (view s')).2)
  ends : forall {s s' out}, L.body s = some (s', out) ->
    ¬L.again s' = true -> C.step (view s') = none

variable {L C view viewOut}

theorem Drains.run (h : Drains L C view viewOut) (s : state) :
    (view (L.run s).1, (L.run s).2.map viewOut) = C.drain (view s) := by
  induction s using DoWhile.run.induct L with
  | case1 s hnone =>
      rw [L.run_of_none hnone, C.drain_of_none (h.leaves hnone)]
      rfl
  | case2 s s' out hsome hagain ih =>
      rw [L.run_of_some hsome, if_pos hagain, h.passes hsome, ← ih,
        List.map_append]
  | case3 s s' out hsome hagain =>
      rw [L.run_of_some hsome, if_neg hagain, h.passes hsome,
        C.drain_of_none (h.ends hsome hagain), List.append_nil]

/-- Input that arrives in pieces, each of which a loop works on. -/
def receiveAll (receive : state -> List input' -> state × List output)
    (s : state) : List (List input') -> state × List output
  | [] => (s, [])
  | chunk :: rest =>
      let first := receive s chunk
      let later := receiveAll receive first.1 rest
      (later.1, first.2 ++ later.2)

theorem receiveAll_eq_drain
    {receive : state -> List input' -> state × List output}
    (hreceive : forall s chunk, C.step (view s) = none ->
      (view (receive s chunk).1, (receive s chunk).2.map viewOut) =
        C.drain (C.feed (view s) chunk))
    {s : state} (hidle : C.step (view s) = none)
    (chunks : List (List input')) :
    (view (receiveAll receive s chunks).1,
      (receiveAll receive s chunks).2.map viewOut) =
        C.drain (C.feed (view s) chunks.flatten) := by
  rw [← C.receiveAll_eq_drain hidle]
  induction chunks generalizing s with
  | nil => rfl
  | cons chunk rest ih =>
      have hfirst := hreceive s chunk hidle
      have hview : view (receive s chunk).1 =
          (C.drain (C.feed (view s) chunk)).1 := congrArg Prod.fst hfirst
      have hidle' : C.step (view (receive s chunk).1) = none := by
        rw [hview]
        exact C.step_drain _
      rw [C.receiveAll_cons, ← hfirst, ← ih hidle']
      simp only [receiveAll, List.map_append]

end Refinement

end DoWhile

end Library
end Rzu
