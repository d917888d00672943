import Mathlib.Data.List.Induction

/-!
# Outcomes of computations that may go wrong

Which faults a computation does not have, and what its result has if there is
one, step by step.
-/

namespace Rzu
namespace Library

variable {ε α β : Type}

/-- A computation does not go wrong in one way. -/
def Without (fault : ε) (result : Except ε α) : Prop :=
  result ≠ Except.error fault

/-- The result, if there is one, has a property. -/
def Yields (holds : α -> Prop) (result : Except ε α) : Prop :=
  forall a, result = Except.ok a -> holds a

section Without

variable {fault : ε}

theorem without_ok (a : α) : Without fault (Except.ok a) := by
  intro h
  cases h

theorem without_pure (a : α) : Without fault (pure a : Except ε α) :=
  without_ok a

theorem without_ite {c : Prop} [Decidable c] {x y : Except ε α}
    (hx : c -> Without fault x) (hy : ¬c -> Without fault y) :
    Without fault (if c then x else y) := by
  split
  · rename_i hc
    exact hx hc
  · rename_i hc
    exact hy hc

theorem without_bind {x : Except ε α} {f : α -> Except ε β}
    (hx : Without fault x)
    (hf : forall a, x = Except.ok a -> Without fault (f a)) :
    Without fault (x >>= f) := by
  cases x with
  | error fault' =>
      intro h
      cases h
      exact hx rfl
  | ok a => exact hf a rfl

theorem without_bind_pure {x : Except ε α} {f : α -> β} :
    Without fault (x >>= fun a => pure (f a)) ↔ Without fault x := by
  constructor
  · intro h heq
    rw [heq] at h
    exact h rfl
  · intro h
    exact without_bind h fun a _ => without_ok (f a)

theorem without_foldlM {f : β -> α -> Except ε β} {xs : List α}
    (h : forall x, x ∈ xs -> forall b, Without fault (f b x)) (b : β) :
    Without fault (xs.foldlM f b) := by
  induction xs generalizing b with
  | nil => exact without_ok b
  | cons x xs ih =>
      rw [List.foldlM_cons]
      refine without_bind (h x List.mem_cons_self b) ?_
      intro b' _
      exact ih (fun x' hx' => h x' (List.mem_cons_of_mem x hx')) b'

end Without

section Yields

theorem yields_ok {holds : α -> Prop} {a : α} (h : holds a) :
    Yields holds (Except.ok a : Except ε α) := by
  intro a' heq
  cases heq
  exact h

theorem yields_pure {holds : α -> Prop} {a : α} (h : holds a) :
    Yields holds (pure a : Except ε α) :=
  yields_ok h

theorem yields_error {holds : α -> Prop} (fault : ε) :
    Yields holds (Except.error fault) := by
  intro a h
  cases h

theorem yields_ite {c : Prop} [Decidable c] {holds : α -> Prop}
    {x y : Except ε α} (hx : c -> Yields holds x) (hy : ¬c -> Yields holds y) :
    Yields holds (if c then x else y) := by
  split
  · rename_i hc
    exact hx hc
  · rename_i hc
    exact hy hc

theorem yields_bind {holds : β -> Prop} {x : Except ε α}
    {f : α -> Except ε β}
    (hf : forall a, x = Except.ok a -> Yields holds (f a)) :
    Yields holds (x >>= f) := by
  cases x with
  | error fault => exact yields_error fault
  | ok a => exact hf a rfl

theorem yields_foldlM {holds : β -> Prop} {f : β -> α -> Except ε β}
    {xs : List α}
    (h : forall x, x ∈ xs -> forall b, holds b -> Yields holds (f b x))
    {b : β} (hb : holds b) : Yields holds (xs.foldlM f b) := by
  induction xs generalizing b with
  | nil => exact yields_ok hb
  | cons x xs ih =>
      rw [List.foldlM_cons]
      refine yields_bind fun b' hb' => ?_
      exact ih (fun x' hx' => h x' (List.mem_cons_of_mem x hx'))
        (h x List.mem_cons_self b hb b' hb')

end Yields

theorem foldlM_range {f : β -> Nat -> Except ε β} {g : β -> α -> β}
    {xs : List α}
    (h : forall i x, xs[i]? = some x ->
      forall b, f b i = Except.ok (g b x)) (b : β) :
    (List.range xs.length).foldlM f b = Except.ok (xs.foldl g b) := by
  induction xs using List.reverseRecOn with
  | nil => rfl
  | append_singleton xs x ih =>
      have hinit := ih fun i x' hx' => h i x' (by
        rw [List.getElem?_append_left (List.getElem?_eq_some_iff.mp hx').1]
        exact hx')
      have hlast := h xs.length x List.getElem?_concat_length
      rw [List.length_append, List.length_singleton, List.range_succ,
        List.foldlM_append, hinit]
      change List.foldlM f (xs.foldl g b) [xs.length] = _
      rw [List.foldlM_cons, hlast, List.foldl_append]
      rfl

end Library
end Rzu
