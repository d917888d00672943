import Rzu.Library.Getline

/-!
# Splitting a text

`Utils::stringSplit` cuts a text at every delimiter.  A field that the end of
the text ends counts only if it has a character.
-/

namespace Rzu
namespace Core

open Library

def stringSplit (delim : UInt8) : List UInt8 -> List (List UInt8)
  | [] => []
  | c :: rest =>
      if c = delim then [] :: stringSplit delim rest
      else
        match stringSplit delim rest with
        | [] => [[c]]
        | field :: fields => (c :: field) :: fields

variable {delim : UInt8}

theorem stringSplit_append {field : List UInt8} (h : delim ∉ field)
    (rest : List UInt8) :
    stringSplit delim (field ++ delim :: rest) =
      field :: stringSplit delim rest := by
  induction field with
  | nil =>
      rw [List.nil_append, stringSplit, if_pos rfl]
  | cons c field ih =>
      rw [List.mem_cons, not_or] at h
      rw [List.cons_append, stringSplit, if_neg (Ne.symm h.left),
        ih h.right]

theorem stringSplit_terminated {fields : List (List UInt8)}
    (h : forall field, field ∈ fields -> delim ∉ field) :
    stringSplit delim (terminated delim fields) = fields := by
  induction fields with
  | nil => rfl
  | cons field fields ih =>
      have hfield := h field List.mem_cons_self
      have hrest := ih fun other hother =>
        h other (List.mem_cons_of_mem _ hother)
      rw [terminated, List.flatMap_cons, List.append_assoc,
        List.singleton_append, stringSplit_append hfield, ← terminated, hrest]

theorem notMem_of_mem_stringSplit {text field : List UInt8}
    (h : field ∈ stringSplit delim text) : delim ∉ field := by
  induction text generalizing field with
  | nil => cases h
  | cons c text ih =>
      rw [stringSplit] at h
      split at h
      · rcases List.mem_cons.mp h with heq | hrest
        · rw [heq]
          exact List.not_mem_nil
        · exact ih hrest
      · rename_i hc
        split at h
        · rw [List.mem_singleton.mp h]
          exact fun hmem => hc (List.mem_singleton.mp hmem).symm
        · rename_i first fields hsplit
          rcases List.mem_cons.mp h with heq | hrest
          · rw [heq, List.mem_cons, not_or]
            refine ⟨Ne.symm hc, ih ?_⟩
            rw [hsplit]
            exact List.mem_cons_self
          · refine ih ?_
            rw [hsplit]
            exact List.mem_cons_of_mem _ hrest

end Core
end Rzu
