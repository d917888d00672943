import Mathlib.Data.List.Basic

/-!
# Programs that ask

A program asks questions one after the other; an answer may depend on all that
has been asked and answered before.
-/

namespace Rzu
namespace Library

/-- What has been asked, and the answers, oldest first. -/
abbrev Dialogue (question answer : Type _) := List (question × answer)

abbrev Oracle (question answer : Type _) :=
  Dialogue question answer -> question -> answer

section Dialogue

variable {question answer : Type _}

def ask (oracle : Oracle question answer) (d : Dialogue question answer)
    (q : question) : Dialogue question answer :=
  d ++ [(q, oracle d q)]

def askAll (oracle : Oracle question answer) (d : Dialogue question answer)
    (qs : List question) : Dialogue question answer :=
  qs.foldl (ask oracle) d

variable {oracle : Oracle question answer} {d : Dialogue question answer}

theorem askAll_cons (q : question) (qs : List question) :
    askAll oracle d (q :: qs) = askAll oracle (ask oracle d q) qs := rfl

theorem askAll_said (qs : List question) :
    exists said, askAll oracle d qs = d ++ said ∧
      said.map Prod.fst = qs := by
  induction qs generalizing d with
  | nil => exact ⟨[], (List.append_nil d).symm, rfl⟩
  | cons q qs ih =>
      rcases ih (d := ask oracle d q) with ⟨said, heq, hmap⟩
      refine ⟨(q, oracle d q) :: said, ?_, ?_⟩
      · rw [askAll_cons, heq, ask, List.append_assoc, List.singleton_append]
      · rw [List.map_cons, hmap]

end Dialogue

end Library
end Rzu
