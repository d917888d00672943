import Rzu.Library.Run

/-!
# Observations of a run

What a run shows to the outside, and properties of what has been shown so far:
that something was seen and nothing against it since, and that everything seen
is justified by what was seen before.
-/

namespace Rzu
namespace Library

section Observing

variable {state label observation : Type _}
variable (step : state -> label -> state -> Prop)
variable (observe : state -> label -> state -> List observation)

/-- A system whose labels also tell what is observed. -/
def Observing (s : state) (l : label × List observation) (s' : state) :
    Prop :=
  step s l.1 s' ∧ l.2 = observe s l.1 s'

/-- What is observed along the labels of a run. -/
def trace (history : List (label × List observation)) : List observation :=
  (history.map Prod.snd).flatten

theorem trace_snoc (history : List (label × List observation))
    (l : label × List observation) :
    trace (history ++ [l]) = trace history ++ l.2 := by
  rw [trace, List.map_append, List.flatten_append, List.map_cons,
    List.map_nil, List.flatten_singleton, trace]

theorem trace_append (front back : List (label × List observation)) :
    trace (front ++ back) = trace front ++ trace back := by
  rw [trace, List.map_append, List.flatten_append, trace, trace]

variable {step observe}

end Observing

section Since

variable {observation : Type _}

/-- Something was observed, and only certain things since. -/
def Since (allowed : observation -> Prop) (seen : observation)
    (before trace : List observation) : Prop :=
  exists since, trace = before ++ seen :: since ∧
    forall o, o ∈ since -> allowed o

namespace Since

variable {allowed : observation -> Prop} {seen : observation}
variable {before trace : List observation}

theorem now : Since allowed seen trace (trace ++ [seen]) :=
  ⟨[], rfl, nofun⟩

theorem append (h : Since allowed seen before trace)
    {new : List observation} (hnew : forall o, o ∈ new -> allowed o) :
    Since allowed seen before (trace ++ new) := by
  rcases h with ⟨since, heq, hsince⟩
  refine ⟨since ++ new, ?_, ?_⟩
  · rw [heq, List.append_assoc, List.cons_append]
  · intro o ho
    rcases List.mem_append.mp ho with hold | hlate
    · exact hsince o hold
    · exact hnew o hlate

theorem mem (h : Since allowed seen before trace) : seen ∈ trace := by
  rcases h with ⟨since, heq, -⟩
  rw [heq]
  exact List.mem_append_right _ List.mem_cons_self

theorem before_subset (h : Since allowed seen before trace) :
    before ⊆ trace := by
  rcases h with ⟨since, heq, -⟩
  rw [heq]
  exact List.subset_append_left _ _

end Since

/-- Every observation is justified by those before it. -/
def Justified (reason : List observation -> observation -> Prop)
    (trace : List observation) : Prop :=
  forall before o after, trace = before ++ o :: after -> reason before o

namespace Justified

variable {reason : List observation -> observation -> Prop}
variable {trace : List observation}

theorem nil : Justified reason [] := by
  intro before o after h
  exact absurd h (by simp)

theorem snoc (h : Justified reason trace) {new : observation}
    (hnew : reason trace new) : Justified reason (trace ++ [new]) := by
  intro before o after heq
  rcases List.eq_nil_or_concat after with hnil | ⟨init, last, hsnoc⟩
  · subst hnil
    rcases List.append_inj' heq rfl with ⟨hbefore, hlast⟩
    cases hlast
    subst hbefore
    exact hnew
  · rw [hsnoc, List.concat_eq_append, ← List.cons_append,
      ← List.append_assoc] at heq
    rcases List.append_inj' heq rfl with ⟨hinit, -⟩
    exact h before o init hinit

theorem append (h : Justified reason trace) {new : List observation}
    (hnew : forall before o, o ∈ new -> reason before o) :
    Justified reason (trace ++ new) := by
  induction new generalizing trace with
  | nil =>
      rw [List.append_nil]
      exact h
  | cons o new ih =>
      rw [List.append_cons]
      apply ih (h.snoc (hnew trace o List.mem_cons_self))
      intro before o' ho'
      exact hnew before o' (List.mem_cons_of_mem _ ho')

end Justified

end Since

end Library
end Rzu
