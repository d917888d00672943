import Mathlib.Data.List.Basic

/-!
# Patterns with wildcards

One symbol of the alphabet stands for any text, another for any one symbol.
-/

namespace Rzu
namespace Library

section Glob

variable {symbol : Type _} (star one : symbol)

/-- A symbol of a pattern, other than the star, may stand for a symbol. -/
def StandsFor (p c : symbol) : Prop := p = one ∨ p = c

inductive Glob : List symbol -> List symbol -> Prop where
  | nil : Glob [] []
  | star {front text pattern : List symbol} (h : Glob text pattern) :
      Glob (front ++ text) (star :: pattern)
  | symbol {c p : symbol} {text pattern : List symbol} (hp : p ≠ star)
      (hc : StandsFor one p c) (h : Glob text pattern) :
      Glob (c :: text) (p :: pattern)

variable {star one}

theorem glob_nil_iff {text : List symbol} :
    Glob star one text [] ↔ text = [] := by
  constructor
  · intro h
    cases h
    rfl
  · intro h
    rw [h]
    exact Glob.nil

theorem glob_cons_iff {p c : symbol} {text pattern : List symbol}
    (hp : p ≠ star) :
    Glob star one (c :: text) (p :: pattern) ↔
      StandsFor one p c ∧ Glob star one text pattern := by
  constructor
  · intro h
    generalize htext : c :: text = text' at h
    generalize hpattern : p :: pattern = pattern' at h
    cases h with
    | nil => cases hpattern
    | star h =>
        injection hpattern with hfirst _
        exact absurd hfirst hp
    | symbol _ hc h =>
        cases htext
        cases hpattern
        exact ⟨hc, h⟩
  · rintro ⟨hc, h⟩
    exact Glob.symbol hp hc h

theorem not_glob_nil_cons {p : symbol} {pattern : List symbol}
    (hp : p ≠ star) : ¬Glob star one [] (p :: pattern) := by
  intro h
  generalize htext : ([] : List symbol) = text at h
  generalize hpattern : p :: pattern = pattern' at h
  cases h with
  | nil => cases hpattern
  | star h =>
      injection hpattern with hfirst _
      exact hp hfirst
  | symbol _ _ _ => cases htext

/-- A star leaves some end of the text to the rest of the pattern. -/
theorem glob_star_iff {text pattern : List symbol} :
    Glob star one text (star :: pattern) ↔
      exists k, k ≤ text.length ∧ Glob star one (text.drop k) pattern := by
  constructor
  · intro h
    generalize hpattern : star :: pattern = pattern' at h
    cases h with
    | nil => cases hpattern
    | star h =>
        rename_i front text pattern'
        cases hpattern
        refine ⟨front.length, ?_, ?_⟩
        · rw [List.length_append]
          exact Nat.le_add_right _ _
        · rw [List.drop_left]
          exact h
    | symbol hp _ _ =>
        injection hpattern with hfirst _
        exact absurd hfirst.symm hp
  · rintro ⟨k, _, h⟩
    have hstar : Glob star one (text.take k ++ text.drop k)
        (star :: pattern) := Glob.star h
    rw [List.take_append_drop] at hstar
    exact hstar

theorem glob_star_star_iff {text pattern : List symbol} :
    Glob star one text (star :: star :: pattern) ↔
      Glob star one text (star :: pattern) := by
  constructor
  · intro h
    rcases glob_star_iff.mp h with ⟨k, hk, hrest⟩
    rcases glob_star_iff.mp hrest with ⟨k', hk', hrest'⟩
    rw [List.drop_drop] at hrest'
    rw [List.length_drop] at hk'
    exact glob_star_iff.mpr ⟨k + k', by lia, hrest'⟩
  · intro h
    have hstar : Glob star one ([] ++ text) (star :: star :: pattern) :=
      Glob.star h
    exact hstar

theorem glob_nil_star_iff {pattern : List symbol} :
    Glob star one [] (star :: pattern) ↔ Glob star one [] pattern := by
  rw [glob_star_iff]
  constructor
  · rintro ⟨k, _, h⟩
    rw [List.drop_nil] at h
    exact h
  · intro h
    exact ⟨0, Nat.le_refl 0, h⟩

variable [DecidableEq symbol]

theorem glob_star_dropWhile_iff {text pattern : List symbol} :
    Glob star one text (star :: pattern) ↔
      Glob star one text (star :: pattern.dropWhile (· = star)) := by
  induction pattern with
  | nil => rfl
  | cons p pattern ih =>
      by_cases hp : p = star
      · rw [hp, glob_star_star_iff, ih,
          List.dropWhile_cons_of_pos (by simp)]
      · rw [List.dropWhile_cons_of_neg (by simpa using hp)]

theorem glob_nil_left_iff {pattern : List symbol} :
    Glob star one [] pattern ↔ pattern.dropWhile (· = star) = [] := by
  induction pattern with
  | nil => simp [glob_nil_iff]
  | cons p pattern ih =>
      by_cases hp : p = star
      · rw [hp, glob_nil_star_iff, ih, List.dropWhile_cons_of_pos (by simp)]
      · rw [List.dropWhile_cons_of_neg (by simpa using hp)]
        constructor
        · intro h
          exact absurd h (not_glob_nil_cons hp)
        · intro h
          cases h

end Glob

end Library
end Rzu
