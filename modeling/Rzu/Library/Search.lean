import Mathlib.Data.List.Infix

/-!
# Searching with one counter

A search that counts how much of a pattern it has just seen, and begins anew at
a mismatch, against the first occurrence of the pattern.
-/

namespace Rzu
namespace Library

section Search

variable {symbol : Type _} [DecidableEq symbol] (pattern : List symbol)

/-- What is behind the first occurrence of the pattern. -/
def behindFirst : List symbol -> Option (List symbol)
  | [] => if pattern = [] then some [] else none
  | c :: text =>
      if pattern <+: c :: text then some ((c :: text).drop pattern.length)
      else behindFirst text

/--
A symbol that does not continue a partial match is not the end of a shorter
one either.
-/
def LosesNothing (counter : Nat) (c : symbol) : Prop :=
  forall i, i ≤ counter ->
    ¬((pattern.take counter).drop i ++ [c]) <+: pattern

/--
Where the pattern begins again inside of itself, it goes on with the symbol
that is due, or with its first one.
-/
def OnlyFirstRestarts : Prop :=
  forall counter, counter < pattern.length -> forall i, i ≤ counter ->
    (pattern.take counter).drop i <+: pattern ->
      pattern[counter - i]? = pattern[counter]? ∨
        pattern[counter - i]? = pattern[0]?

variable {pattern}

theorem behindFirst_occurrence (text : List symbol) :
    behindFirst pattern (pattern ++ text) = some text := by
  cases hboth : pattern ++ text with
  | nil =>
      rcases List.append_eq_nil_iff.mp hboth with ⟨hpattern, htext⟩
      rw [behindFirst, if_pos hpattern, htext]
  | cons c rest =>
      have hprefix : pattern <+: c :: rest := by
        rw [← hboth]
        exact List.prefix_append pattern text
      rw [behindFirst, if_pos hprefix, ← hboth, List.drop_left]

theorem behindFirst_skip {c : symbol} {text : List symbol}
    (h : ¬pattern <+: c :: text) :
    behindFirst pattern (c :: text) = behindFirst pattern text := by
  rw [behindFirst, if_neg h]

theorem behindFirst_short {text : List symbol}
    (h : text.length < pattern.length) :
    behindFirst pattern text = none := by
  induction text with
  | nil =>
      have hne : pattern ≠ [] := List.ne_nil_of_length_pos h
      rw [behindFirst, if_neg hne]
  | cons c text ih =>
      rw [behindFirst_skip, ih]
      · rw [List.length_cons] at h
        lia
      · intro hprefix
        have hle := hprefix.length_le
        lia

theorem length_behindFirst {text rest : List symbol}
    (h : behindFirst pattern text = some rest) :
    rest.length + pattern.length ≤ text.length := by
  induction text with
  | nil =>
      rw [behindFirst] at h
      split at h
      · rename_i hnil
        cases h
        rw [hnil]
        exact Nat.le_refl 0
      · cases h
  | cons c text ih =>
      rw [behindFirst] at h
      split at h
      · rename_i hprefix
        cases h
        have hle := hprefix.length_le
        rw [List.length_drop]
        lia
      · have hle := ih h
        rw [List.length_cons]
        lia

/-- What no occurrence begins in can be left out. -/
theorem behindFirst_append {front text : List symbol}
    (h : forall i, i < front.length -> ¬pattern <+: front.drop i ++ text) :
    behindFirst pattern (front ++ text) = behindFirst pattern text := by
  induction front with
  | nil => rfl
  | cons c front ih =>
      have hhere := h 0 (Nat.zero_lt_succ _)
      rw [List.drop_zero, List.cons_append] at hhere
      rw [List.cons_append, behindFirst_skip hhere]
      apply ih
      intro i hi
      exact h (i + 1) (Nat.succ_lt_succ hi)

omit [DecidableEq symbol] in
theorem take_append_continue {counter : Nat} {c : symbol}
    (h : pattern[counter]? = some c) (text : List symbol) :
    pattern.take counter ++ c :: text =
      pattern.take (counter + 1) ++ text := by
  rw [List.take_add_one, h, Option.toList_some, List.append_assoc]
  rfl

/-- The match is given up, and nothing is lost. -/
theorem behindFirst_giveUp {counter : Nat} {c : symbol}
    (hcounter : counter < pattern.length)
    (h : LosesNothing pattern counter c) (text : List symbol) :
    behindFirst pattern (pattern.take counter ++ c :: text) =
      behindFirst pattern text := by
  rw [List.append_cons]
  apply behindFirst_append
  intro i hi hprefix
  have hlength : (pattern.take counter ++ [c]).length = counter + 1 := by
    rw [List.length_append, List.length_take, List.length_singleton]
    lia
  rw [hlength] at hi
  have hle : i ≤ counter := Nat.le_of_lt_succ hi
  have hdrop : (pattern.take counter ++ [c]).drop i =
      (pattern.take counter).drop i ++ [c] := by
    apply List.drop_append_of_le_length
    rw [List.length_take]
    lia
  rw [hdrop] at hprefix
  apply h i hle
  apply List.prefix_of_prefix_length_le (List.prefix_append _ text) hprefix
  rw [List.length_append, List.length_drop, List.length_take,
    List.length_singleton]
  lia

omit [DecidableEq symbol] in
/-- For such patterns only the first symbol is lost. -/
theorem OnlyFirstRestarts.losesNothing (h : OnlyFirstRestarts pattern)
    {counter : Nat} {c : symbol} (hcounter : counter < pattern.length)
    (hdue : pattern[counter]? ≠ some c) (hfirst : pattern[0]? ≠ some c) :
    LosesNothing pattern counter c := by
  intro i hi hprefix
  have hlength : ((pattern.take counter).drop i).length = counter - i := by
    rw [List.length_drop, List.length_take, Nat.min_eq_left]
    exact Nat.le_of_lt hcounter
  have hbegins : (pattern.take counter).drop i <+: pattern :=
    (List.prefix_append _ [c]).trans hprefix
  have hnext : pattern[counter - i]? = some c := by
    rcases hprefix with ⟨rest, hrest⟩
    rw [← hrest, List.append_assoc, ← hlength,
      List.getElem?_append_right (Nat.le_refl _), Nat.sub_self]
    rfl
  rcases h counter hcounter i hi hbegins with hsame | hagain
  · exact hdue (hsame.symm.trans hnext)
  · exact hfirst (hagain.symm.trans hnext)

end Search

end Library
end Rzu
