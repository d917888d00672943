import Mathlib.Data.List.Basic

/-!
# Consumers of a growing queue

A consumer takes deterministic steps on a state that owns a queue of input.
A step that is enabled stays enabled, with the same effect, when more input
is appended to the queue.  Draining such a consumer therefore does not depend
on how the input was cut into pieces.
-/

namespace Rzu
namespace Library

structure Consumer (state input output : Type _) where
  step : state -> Option (state × List output)
  feed : state -> List input -> state
  pending : state -> Nat
  feed_nil : forall s, feed s [] = s
  feed_append : forall s xs ys, feed s (xs ++ ys) = feed (feed s xs) ys
  step_pending : forall {s s' out},
    step s = some (s', out) -> pending s' < pending s
  step_feed : forall {s s' out} (xs : List input),
    step s = some (s', out) -> step (feed s xs) = some (feed s' xs, out)

namespace Consumer

variable {state input output : Type _} (C : Consumer state input output)

/-- Take steps until none is enabled, collecting the output. -/
def drain (s : state) : state × List output :=
  match _h : C.step s with
  | none => (s, [])
  | some (s', out) => ((drain s').1, out ++ (drain s').2)
termination_by C.pending s
decreasing_by all_goals exact C.step_pending _h

theorem drain_of_none {s : state} (h : C.step s = none) :
    C.drain s = (s, []) := by
  rw [drain]
  split
  · rfl
  · rename_i heq
    rw [h] at heq
    cases heq

theorem drain_of_some {s s' : state} {out : List output}
    (h : C.step s = some (s', out)) :
    C.drain s = ((C.drain s').1, out ++ (C.drain s').2) := by
  rw [drain]
  split
  · rename_i heq
    rw [h] at heq
    cases heq
  · rename_i heq
    rw [h] at heq
    cases heq
    rfl

theorem drain_induction {motive : state -> Prop}
    (idle : forall s, C.step s = none -> motive s)
    (move : forall s s' out, C.step s = some (s', out) -> motive s' -> motive s)
    (s : state) : motive s := by
  induction hn : C.pending s using Nat.strongRecOn generalizing s with
  | ind n ih =>
      cases hstep : C.step s with
      | none => exact idle s hstep
      | some next =>
          have hlt := C.step_pending hstep
          exact move s next.1 next.2 hstep (ih _ (hn ▸ hlt) next.1 rfl)

theorem step_drain (s : state) : C.step (C.drain s).1 = none := by
  induction s using C.drain_induction with
  | idle s hstep =>
      rw [C.drain_of_none hstep]
      exact hstep
  | move s s' out hstep ih =>
      rw [C.drain_of_some hstep]
      exact ih

theorem drain_feed (s : state) (xs : List input) :
    C.drain (C.feed s xs) =
      ((C.drain (C.feed (C.drain s).1 xs)).1,
        (C.drain s).2 ++ (C.drain (C.feed (C.drain s).1 xs)).2) := by
  induction s using C.drain_induction with
  | idle s hstep =>
      rw [C.drain_of_none hstep]
      rfl
  | move s s' out hstep ih =>
      rw [C.drain_of_some (C.step_feed xs hstep), C.drain_of_some hstep, ih]
      simp

def receiveAll (s : state) : List (List input) -> state × List output
  | [] => (s, [])
  | chunk :: rest =>
      let first := C.drain (C.feed s chunk)
      let later := receiveAll first.1 rest
      (later.1, first.2 ++ later.2)

theorem receiveAll_cons (s : state) (chunk : List input)
    (rest : List (List input)) :
    C.receiveAll s (chunk :: rest) =
      ((C.receiveAll (C.drain (C.feed s chunk)).1 rest).1,
        (C.drain (C.feed s chunk)).2 ++
          (C.receiveAll (C.drain (C.feed s chunk)).1 rest).2) := rfl

theorem receiveAll_eq_drain {s : state} (hidle : C.step s = none)
    (chunks : List (List input)) :
    C.receiveAll s chunks = C.drain (C.feed s chunks.flatten) := by
  induction chunks generalizing s with
  | nil =>
      rw [List.flatten_nil, C.feed_nil, C.drain_of_none hidle]
      rfl
  | cons chunk rest ih =>
      rw [receiveAll_cons, List.flatten_cons, C.feed_append,
        C.drain_feed (C.feed s chunk), ih (C.step_drain _)]

section Simulation

variable {state' input' output' : Type _}
variable (D : Consumer state' input' output')
variable {R : state -> state' -> Prop} (view : output -> output')

/-- Two consumers that step together produce the same output, up to a view. -/
theorem drain_of_simulation
    (idle : forall {s t}, R s t -> C.step s = none -> D.step t = none)
    (move : forall {s t s' out}, R s t -> C.step s = some (s', out) ->
      exists t', D.step t = some (t', out.map view) ∧ R s' t')
    {s : state} {t : state'} (hrel : R s t) :
    R (C.drain s).1 (D.drain t).1 ∧
      (C.drain s).2.map view = (D.drain t).2 := by
  induction s using C.drain_induction generalizing t with
  | idle s hstep =>
      rw [C.drain_of_none hstep, D.drain_of_none (idle hrel hstep)]
      exact ⟨hrel, rfl⟩
  | move s s' out hstep ih =>
      rcases move hrel hstep with ⟨t', hstep', hrel'⟩
      rcases ih hrel' with ⟨hstate, hout⟩
      rw [C.drain_of_some hstep, D.drain_of_some hstep']
      constructor
      · exact hstate
      · rw [List.map_append, hout]

end Simulation

end Consumer

end Library
end Rzu
