import Rzu.Core.WildcardMatch

/-!
# Wildcards against globs

Where the attempt that goes wrong was begun, and where the code begins again,
decide which starts of a match it still takes into account.
-/

namespace Rzu
namespace Core

open Library

section Match

variable (text wild : CString)

/-- The text from a place on matches the pattern from a place on. -/
def GlobAt (i j : Nat) : Prop :=
  Glob star questionMark (text.chars.drop i) (wild.chars.drop j)

/-- A match of the end of the pattern begins at a place or later. -/
def MatchFrom (j i : Nat) : Prop :=
  exists k, i ≤ k ∧ k ≤ text.chars.length ∧ GlobAt text wild k j

/-- Where the attempt began that the pointers are in the middle of. -/
def Walk.attempt (s : Walk) (b : Bookmark) : Nat :=
  s.pTameText - (s.pWildText - b.pWildBookmark)

variable {text wild}

/-!
## Matches from a place on
-/

theorem matchFrom_mono {i i' j : Nat} (hle : i ≤ i')
    (h : MatchFrom text wild j i') : MatchFrom text wild j i := by
  rcases h with ⟨k, hk, hlength, hglob⟩
  exact ⟨k, Nat.le_trans hle hk, hlength, hglob⟩

theorem matchFrom_skip {i i' j : Nat} (hle : i ≤ i')
    (h : forall k, i ≤ k -> k < i' -> ¬GlobAt text wild k j) :
    MatchFrom text wild j i ↔ MatchFrom text wild j i' := by
  constructor
  · rintro ⟨k, hk, hlength, hglob⟩
    refine ⟨k, ?_, hlength, hglob⟩
    by_contra hlt
    exact h k hk (Nat.not_le.mp hlt) hglob
  · exact matchFrom_mono hle

theorem globAt_star_iff {i j : Nat}
    (hstar : wild.chars.drop j = star :: wild.chars.drop (j + 1)) {j' : Nat}
    (hskip : wild.chars.drop j' =
      (wild.chars.drop (j + 1)).dropWhile (· = star))
    (hi : i ≤ text.chars.length) :
    GlobAt text wild i j ↔ MatchFrom text wild j' i := by
  rw [GlobAt, hstar, glob_star_dropWhile_iff, ← hskip, glob_star_iff]
  constructor
  · rintro ⟨k, hk, hglob⟩
    rw [List.length_drop] at hk
    rw [List.drop_drop] at hglob
    exact ⟨i + k, Nat.le_add_right i k, by lia, hglob⟩
  · rintro ⟨k, hk, hlength, hglob⟩
    refine ⟨k - i, ?_, ?_⟩
    · rw [List.length_drop]
      lia
    · rw [List.drop_drop, Nat.add_sub_cancel' hk]
      exact hglob

theorem globAt_cons_iff {i j : Nat} {t w : UInt8}
    (ht : text.chars.drop i = t :: text.chars.drop (i + 1))
    (hw : wild.chars.drop j = w :: wild.chars.drop (j + 1))
    (hplain : w ≠ star) :
    GlobAt text wild i j ↔
      StandsFor questionMark w t ∧ GlobAt text wild (i + 1) (j + 1) := by
  rw [GlobAt, ht, hw]
  exact glob_cons_iff hplain

theorem not_globAt_end {i : Nat} (hi : i < text.chars.length) {j : Nat}
    (hj : wild.chars.length ≤ j) : ¬GlobAt text wild i j := by
  intro h
  rw [GlobAt, List.drop_eq_nil_of_le hj] at h
  have hnil := glob_nil_iff.mp h
  rw [List.drop_eq_nil_iff] at hnil
  lia

/-!
## Inner loops
-/

theorem skipStars_of_star {j : Nat} (h : wild.read j = some star) :
    skipStars wild j = skipStars wild (j + 1) := by
  rw [skipStars]
  split
  · rename_i hnone
    rw [h] at hnone
    cases hnone
  · rename_i c hsome
    rw [h] at hsome
    injection hsome with heq
    rw [dif_pos heq.symm]

theorem skipStars_of_other {j : Nat} {c : UInt8} (h : wild.read j = some c)
    (hc : c ≠ star) : skipStars wild j = some j := by
  rw [skipStars]
  split
  · rename_i hnone
    rw [h] at hnone
    cases hnone
  · rename_i c' hsome
    rw [h] at hsome
    injection hsome with heq
    rw [dif_neg (fun hstar => hc (heq.trans hstar))]

theorem skipStars_spec {j : Nat} (hj : j ≤ wild.chars.length) :
    exists j', skipStars wild j = some j' ∧ j ≤ j' ∧
      j' ≤ wild.chars.length ∧
        wild.chars.drop j' = (wild.chars.drop j).dropWhile (· = star) ∧
          wild.read j' ≠ some star := by
  induction hn : wild.chars.length - j generalizing j with
  | zero =>
      have heq : j = wild.chars.length := by lia
      have hread := wild.read_length
      refine ⟨j, ?_, Nat.le_refl j, hj, ?_, ?_⟩
      · rw [← heq] at hread
        exact skipStars_of_other hread (by decide)
      · rw [heq, List.drop_length]
        rfl
      · rw [heq, hread]
        decide
  | succ n ih =>
      have hlt : j < wild.chars.length := by lia
      rcases CString.read_of_lt hlt with ⟨c, hread, hc, hdrop⟩
      by_cases hstar : c = star
      · rcases ih (j := j + 1) hlt (by lia) with
          ⟨j', hskip, hle, hlength, hrest, hnext⟩
        refine ⟨j', ?_, by lia, hlength, ?_, hnext⟩
        · rw [hstar] at hread
          rw [skipStars_of_star hread]
          exact hskip
        · rw [hrest, hdrop, List.dropWhile_cons_of_pos (by simpa using hstar)]
      · refine ⟨j, ?_, Nat.le_refl j, hj, ?_, ?_⟩
        · exact skipStars_of_other hread hstar
        · rw [hdrop, List.dropWhile_cons_of_neg (by simpa using hstar)]
        · rw [hread]
          intro heq
          cases heq
          exact hstar rfl

theorem fastForward_of_eq {c : UInt8} {i : Nat} (h : text.read i = some c) :
    fastForward text c i = some (some i) := by
  rw [fastForward, h]
  dsimp only
  rw [if_pos rfl]

theorem fastForward_of_ne {c t t' : UInt8} {i : Nat}
    (h : text.read i = some t) (hc : t ≠ c)
    (hnext : text.read (i + 1) = some t') :
    fastForward text c i =
      if t' = 0 then some none else fastForward text c (i + 1) := by
  rw [fastForward, h]
  dsimp only
  rw [if_neg hc]
  split
  · rename_i hnone
    rw [hnext] at hnone
    cases hnone
  · rename_i t'' hsome
    rw [hnext] at hsome
    cases hsome
    rfl

theorem fastForward_end {c : UInt8} (hc : c ≠ 0) :
    fastForward text c text.chars.length = none := by
  rw [fastForward, text.read_length]
  dsimp only
  rw [if_neg (Ne.symm hc)]
  split
  · rfl
  · rename_i t hsome
    rw [CString.read_of_gt (Nat.lt_succ_self _)] at hsome
    cases hsome

theorem fastForward_spec {c : UInt8} {i : Nat} (hi : i < text.chars.length) :
    (exists i', fastForward text c i = some (some i') ∧ i ≤ i' ∧
      i' < text.chars.length ∧ text.read i' = some c ∧
        forall k, i ≤ k -> k < i' -> text.read k ≠ some c) ∨
      (fastForward text c i = some none ∧
        forall k, i ≤ k -> k < text.chars.length ->
          text.read k ≠ some c) := by
  induction hn : text.chars.length - i generalizing i with
  | zero => lia
  | succ n ih =>
      rcases CString.read_of_lt hi with ⟨t, hread, ht, _⟩
      by_cases heq : t = c
      · rw [heq] at hread
        exact Or.inl ⟨i, fastForward_of_eq hread, Nat.le_refl i, hi, hread,
          fun k hk hlt => absurd hlt (by lia)⟩
      · have hhere : text.read i ≠ some c := by
          rw [hread]
          intro hsome
          exact heq (Option.some.inj hsome)
        by_cases hlast : i + 1 < text.chars.length
        · rcases CString.read_of_lt hlast with ⟨t', hread', ht', _⟩
          rw [fastForward_of_ne hread heq hread', if_neg ht']
          have hcases : forall k, i ≤ k -> k ≠ i -> i + 1 ≤ k := by lia
          rcases ih hlast (by lia) with
            ⟨i', hfound, hle, hlt, hc, hskipped⟩ | ⟨hnone, hall⟩
          · refine Or.inl ⟨i', hfound, by lia, hlt, hc, ?_⟩
            intro k hk hlt'
            by_cases hki : k = i
            · rw [hki]
              exact hhere
            · exact hskipped k (hcases k hk hki) hlt'
          · refine Or.inr ⟨hnone, ?_⟩
            intro k hk hlt'
            by_cases hki : k = i
            · rw [hki]
              exact hhere
            · exact hall k (hcases k hk hki) hlt'
        · have hend : i + 1 = text.chars.length := by lia
          have hread' := text.read_length
          rw [← hend] at hread'
          rw [fastForward_of_ne hread heq hread', if_pos rfl]
          refine Or.inr ⟨rfl, ?_⟩
          intro k hk hlt
          have hki : k = i := by lia
          rw [hki]
          exact hhere

/-!
## Passes of the loop
-/

theorem advance_next {s : Walk} (h : s.pTameText + 1 < text.chars.length) :
    advance text wild s = some (Sum.inl
      { s with
        pTameText := s.pTameText + 1
        pWildText := s.pWildText + 1 }) := by
  rcases CString.read_of_lt h with ⟨t, hread, ht, _⟩
  unfold advance
  dsimp only
  rw [hread, Option.bind_eq_bind, Option.bind_some, if_neg ht]
  rfl

theorem advance_end {s : Walk} (h : s.pTameText + 1 = text.chars.length)
    (hwild : s.pWildText < wild.chars.length) :
    exists result, advance text wild s = some (Sum.inr result) ∧
      (result = true ↔
        GlobAt text wild (s.pTameText + 1) (s.pWildText + 1)) := by
  have hnext : s.pWildText + 1 ≤ wild.chars.length := hwild
  rcases skipStars_spec hnext with
    ⟨j, hskip, _, hlength, hrest, _⟩
  have hread := text.read_length
  rw [← h] at hread
  have hglob : GlobAt text wild (s.pTameText + 1) (s.pWildText + 1) ↔
      wild.chars.drop j = [] := by
    rw [GlobAt, List.drop_eq_nil_of_le (Nat.le_of_eq h.symm),
      glob_nil_left_iff, hrest]
  have hadvance : forall w, wild.read j = some w ->
      advance text wild s = some (Sum.inr (w == 0)) := by
    intro w hw
    unfold advance
    dsimp only
    rw [hread, Option.bind_eq_bind, Option.bind_some, if_pos rfl, hskip,
      Option.bind_eq_bind, Option.bind_some, hw]
    rfl
  rcases Nat.lt_or_eq_of_le hlength with hlt | heq
  · rcases CString.read_of_lt hlt with ⟨w, hw, hne, hdrop⟩
    refine ⟨_, hadvance w hw, ?_⟩
    rw [hglob, hdrop]
    simp [hne]
  · rw [heq] at hadvance hglob
    refine ⟨_, hadvance 0 wild.read_length, ?_⟩
    rw [hglob, List.drop_length]
    simp

theorem advance_overrun {s : Walk} (h : s.pTameText = text.chars.length) :
    advance text wild s = none := by
  unfold advance
  dsimp only
  rw [CString.read_of_gt (by lia)]
  rfl

theorem step_star {s : Walk} {j : Nat} {c : UInt8}
    (hstar : wild.read s.pWildText = some star)
    (hskip : skipStars wild (s.pWildText + 1) = some j)
    (hread : wild.read j = some c) :
    step text wild s =
      if c = 0 then some (Sum.inr true)
      else
        (nextPossible text c s.pTameText).bind fun found =>
          found.elim (some (Sum.inr false)) fun i =>
            advance text wild ⟨i, j, some ⟨i, j⟩⟩ := by
  unfold step
  rw [hstar, Option.bind_eq_bind, Option.bind_some, if_pos rfl, hskip,
    Option.bind_eq_bind, Option.bind_some, hread, Option.bind_eq_bind,
    Option.bind_some]
  congr 1
  cases nextPossible text c s.pTameText with
  | none => rfl
  | some found =>
      cases found with
      | none => rfl
      | some i => rfl

theorem step_agrees {s : Walk} {t w : UInt8}
    (hw : wild.read s.pWildText = some w) (hstar : w ≠ star)
    (ht : text.read s.pTameText = some t) (h : StandsFor questionMark w t) :
    step text wild s = advance text wild s := by
  unfold step
  rw [hw, Option.bind_eq_bind, Option.bind_some, if_neg hstar, ht,
    Option.bind_some, if_neg]
  rintro ⟨hne, hplain⟩
  rcases h with hone | hsame
  · exact hplain hone
  · exact hne hsame.symm

theorem step_differs {s : Walk} {t w : UInt8}
    (hw : wild.read s.pWildText = some w) (hstar : w ≠ star)
    (ht : text.read s.pTameText = some t) (h : ¬StandsFor questionMark w t) :
    step text wild s =
      s.bookmark.elim (some (Sum.inr false)) fun bookmark =>
        if s.pWildText ≠ bookmark.pWildBookmark then
          (wild.read bookmark.pWildBookmark).bind fun first =>
            if t ≠ first then
              some (Sum.inl
                ⟨bookmark.pTameBookmark + 1, bookmark.pWildBookmark,
                  some ⟨bookmark.pTameBookmark + 1,
                    bookmark.pWildBookmark⟩⟩)
            else if t ≠ 0 then
              some (Sum.inl
                ⟨s.pTameText + 1, bookmark.pWildBookmark + 1, s.bookmark⟩)
            else some (Sum.inr false)
        else if t ≠ 0 then
          some (Sum.inl ⟨s.pTameText + 1, s.pWildText, s.bookmark⟩)
        else some (Sum.inr false) := by
  unfold step
  rw [hw, Option.bind_eq_bind, Option.bind_some, if_neg hstar, ht,
    Option.bind_some, if_pos]
  · cases s.bookmark with
    | none => rfl
    | some bookmark => rfl
  · constructor
    · intro heq
      exact h (Or.inr heq.symm)
    · intro heq
      exact h (Or.inl heq)

end Match

end Core
end Rzu
