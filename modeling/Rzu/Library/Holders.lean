import Mathlib.Data.Multiset.AddSub
import Mathlib.Data.Multiset.MapFold
import Mathlib.Logic.Function.Basic

/-!
# Holders

Items that are handed to owners, each of whom holds one at most.  What they
hold together is a multiset: it tells how often an item is out, not who has
it.
-/

namespace Rzu
namespace Library

section Holders

variable {owner item : Type _}

/-- What the owners of a list hold together. -/
def held (owners : List owner) (holds : owner -> Option item) :
    Multiset item :=
  (owners.filterMap holds : Multiset item)

variable {owners : List owner} {holds holds' : owner -> Option item}
variable {o : owner} {i : item}

theorem held_append (first later : List owner) :
    held (first ++ later) holds = held first holds + held later holds := by
  rw [held, List.filterMap_append]
  rfl

theorem mem_held :
    i ∈ held owners holds ↔ exists o, o ∈ owners ∧ holds o = some i := by
  rw [held, Multiset.mem_coe, List.mem_filterMap]

theorem held_eq_zero :
    held owners holds = 0 ↔ forall o, o ∈ owners -> holds o = none := by
  rw [held, Multiset.coe_eq_zero, List.filterMap_eq_nil_iff]

theorem held_congr (h : forall o, o ∈ owners -> holds o = holds' o) :
    held owners holds = held owners holds' := by
  rw [held, held, List.filterMap_congr h]

theorem held_erase [DecidableEq owner] (h : holds o = none) :
    held (owners.erase o) holds = held owners holds := by
  induction owners with
  | nil => rfl
  | cons first later ih =>
      by_cases heq : first = o
      · subst heq
        rw [List.erase_cons_head, held, held, List.filterMap_cons, h]
      · rw [List.erase_cons_tail (by simpa using heq)]
        change held ([first] ++ later.erase o) holds =
          held ([first] ++ later) holds
        rw [held_append, held_append, ih]

theorem held_release (hnodup : owners.Nodup)
    (ho : o ∈ owners) (h : holds o = some i)
    (hother : forall o', o' ≠ o -> holds' o' = holds o')
    (hnone : holds' o = none) :
    held owners holds = i ::ₘ held owners holds' := by
  induction owners with
  | nil => exact absurd ho List.not_mem_nil
  | cons first later ih =>
      rcases List.nodup_cons.mp hnodup with ⟨hfirst, hlater⟩
      rcases List.mem_cons.mp ho with heq | hmem
      · subst heq
        have hsame : held later holds = held later holds' := by
          apply held_congr
          intro o' ho'
          exact (hother o' fun heq => hfirst (heq ▸ ho')).symm
        rw [held, List.filterMap_cons, h, held, List.filterMap_cons, hnone]
        change i ::ₘ held later holds = i ::ₘ held later holds'
        rw [hsame]
      · have hne : first ≠ o := fun heq => hfirst (heq ▸ hmem)
        have hrest := ih hlater hmem
        change held ([first] ++ later) holds =
          i ::ₘ held ([first] ++ later) holds'
        rw [held_append, held_append, hrest, Multiset.add_cons]
        congr 2
        apply held_congr
        intro o' ho'
        rw [List.mem_singleton.mp ho', hother first hne]

theorem held_take (hnodup : owners.Nodup)
    (ho : o ∈ owners) (h : holds o = none)
    (hother : forall o', o' ≠ o -> holds' o' = holds o')
    (hsome : holds' o = some i) :
    held owners holds' = i ::ₘ held owners holds :=
  held_release hnodup ho hsome (fun o' hne => (hother o' hne).symm) h

end Holders

end Library
end Rzu
