import Rzu.Core.GlobMatching

/-!
# Attempts to match

Behind a star the code attempts to match the next part of the pattern, at one
place of the text after another.  Every attempt stands for the matches that
begin at its place or later.
-/

namespace Rzu
namespace Core

open Library

section Match

variable (text wild : CString)

/-- The part of the pattern before the pointer matches from the attempt on. -/
structure Attempting (s : Walk) (b : Bookmark) : Prop where
  wild_lt : b.pWildBookmark < wild.chars.length
  wild_le : b.pWildBookmark ≤ s.pWildText
  tame_le : b.pTameBookmark + (s.pWildText - b.pWildBookmark) ≤ s.pTameText
  plain : wild.read b.pWildBookmark ≠ some star
  agrees : forall j, j < s.pWildText - b.pWildBookmark ->
    exists p t, wild.read (b.pWildBookmark + j) = some p ∧ p ≠ star ∧
      text.read (s.attempt b + j) = some t ∧ StandsFor questionMark p t

/--
The saved places belong to an attempt.  Nothing matches from the saved place of
the text on, once a later attempt has begun.  At the end of the text the
pattern has only been begun.
-/
structure Saved (s : Walk) (b : Bookmark) : Prop
    extends Attempting text wild s b where
  first : s.attempt b = b.pTameBookmark ∨
    ¬GlobAt text wild b.pTameBookmark b.pWildBookmark
  atEnd : s.pTameText = text.chars.length ->
    (s.pWildText = b.pWildBookmark ∧
      wild.read b.pWildBookmark ≠ some questionMark) ∨
        (s.pWildText = b.pWildBookmark + 1 ∧
          b.pTameBookmark < s.attempt b)

/-- What holds of the pointers at the beginning of a pass. -/
structure Walking (s : Walk) : Prop where
  wild_le : s.pWildText ≤ wild.chars.length
  tame_le : s.pTameText ≤ text.chars.length
  saved : forall b, s.bookmark = some b -> Saved text wild s b

/-- A match of the pattern is left to the attempt or to a later one. -/
def Live (s : Walk) : Prop :=
  s.bookmark.elim (GlobAt text wild s.pTameText s.pWildText) fun b =>
    MatchFrom text wild b.pWildBookmark (s.attempt b)

/-- A match begins at the saved place or later. -/
def Backed (s : Walk) : Prop :=
  s.bookmark.elim (GlobAt text wild s.pTameText s.pWildText) fun b =>
    MatchFrom text wild b.pWildBookmark b.pTameBookmark

variable {text wild}

/-!
## What an attempt stands for
-/

theorem globAt_agree_iff {i j : Nat} {p t : UInt8}
    (hp : wild.read j = some p) (hj : j < wild.chars.length)
    (hplain : p ≠ star) (ht : text.read i = some t)
    (hi : i < text.chars.length) (hstands : StandsFor questionMark p t) :
    GlobAt text wild i j ↔ GlobAt text wild (i + 1) (j + 1) := by
  rcases CString.read_of_lt hj with ⟨p', hp', _, hdropWild⟩
  rcases CString.read_of_lt hi with ⟨t', ht', _, hdropText⟩
  rw [hp] at hp'
  rw [ht] at ht'
  cases hp'
  cases ht'
  rw [globAt_cons_iff hdropText hdropWild hplain]
  constructor
  · intro hboth
    exact hboth.right
  · intro hrest
    exact ⟨hstands, hrest⟩

theorem globAt_add_iff {i j m : Nat}
    (h : forall k, k < m -> exists p t, wild.read (j + k) = some p ∧
      p ≠ star ∧ text.read (i + k) = some t ∧ StandsFor questionMark p t)
    (hi : i + m ≤ text.chars.length) (hj : j + m ≤ wild.chars.length) :
    GlobAt text wild i j ↔ GlobAt text wild (i + m) (j + m) := by
  induction m with
  | zero => rfl
  | succ m ih =>
      rw [ih (fun k hk => h k (Nat.lt_succ_of_lt hk)) (by lia) (by lia)]
      rcases h m (Nat.lt_succ_self m) with ⟨p, t, hp, hplain, ht, hstands⟩
      exact globAt_agree_iff hp (by lia) hplain ht (by lia) hstands

theorem globAt_add {i j m : Nat}
    (h : forall k, k < m -> exists p, wild.read (j + k) = some p ∧ p ≠ star)
    (hi : i ≤ text.chars.length) (hj : j + m ≤ wild.chars.length)
    (hglob : GlobAt text wild i j) :
    i + m ≤ text.chars.length ∧ GlobAt text wild (i + m) (j + m) := by
  induction m with
  | zero => exact ⟨hi, hglob⟩
  | succ m ih =>
      rcases ih (fun k hk => h k (Nat.lt_succ_of_lt hk)) (by lia) with
        ⟨hle, hrest⟩
      rcases h m (Nat.lt_succ_self m) with ⟨p, hp, hplain⟩
      rcases CString.read_of_lt (s := wild) (i := j + m) (by lia) with
        ⟨p', hp', _, hdropWild⟩
      rw [hp] at hp'
      cases hp'
      have hlt : i + m < text.chars.length := by
        by_contra hnot
        rw [GlobAt, List.drop_eq_nil_of_le (Nat.not_lt.mp hnot),
          hdropWild] at hrest
        exact not_glob_nil_cons hplain hrest
      rcases CString.read_of_lt hlt with ⟨t, _, _, hdropText⟩
      have hboth := (globAt_cons_iff hdropText hdropWild hplain).mp hrest
      exact ⟨hlt, hboth.right⟩

namespace Attempting

variable {s : Walk} {b : Bookmark}

theorem add_attempt (h : Attempting text wild s b) :
    s.attempt b + (s.pWildText - b.pWildBookmark) = s.pTameText := by
  have hle := h.tame_le
  rw [Walk.attempt]
  lia

theorem le_attempt (h : Attempting text wild s b) :
    b.pTameBookmark ≤ s.attempt b := by
  have hle := h.tame_le
  rw [Walk.attempt]
  lia

theorem globAt_iff (h : Attempting text wild s b)
    (hwild : s.pWildText ≤ wild.chars.length)
    (htame : s.pTameText ≤ text.chars.length) :
    GlobAt text wild (s.attempt b) b.pWildBookmark ↔
      GlobAt text wild s.pTameText s.pWildText := by
  have hadd := h.add_attempt
  have hle := h.wild_le
  rw [globAt_add_iff h.agrees (by lia) (by lia), hadd,
    Nat.add_sub_cancel' hle]

theorem exists_rest (h : Attempting text wild s b)
    (hwild : s.pWildText ≤ wild.chars.length)
    (hmatch : MatchFrom text wild b.pWildBookmark (s.attempt b)) :
    exists k, s.pTameText ≤ k ∧ k ≤ text.chars.length ∧
      GlobAt text wild k s.pWildText := by
  rcases hmatch with ⟨k, hk, hlength, hglob⟩
  have hadd := h.add_attempt
  have hle := h.wild_le
  have hplain : forall j, j < s.pWildText - b.pWildBookmark ->
      exists p, wild.read (b.pWildBookmark + j) = some p ∧ p ≠ star := by
    intro j hj
    rcases h.agrees j hj with ⟨p, t, hp, hne, _⟩
    exact ⟨p, hp, hne⟩
  rcases globAt_add hplain hlength (by lia) hglob with ⟨hbound, hrest⟩
  rw [Nat.add_sub_cancel' hle] at hrest
  exact ⟨_, by lia, hbound, hrest⟩

theorem matchFrom_iff_atEnd (h : Attempting text wild s b)
    (hwild : s.pWildText ≤ wild.chars.length)
    (hend : s.pTameText = text.chars.length) :
    MatchFrom text wild b.pWildBookmark (s.attempt b) ↔
      GlobAt text wild s.pTameText s.pWildText := by
  have htame := Nat.le_of_eq hend
  constructor
  · intro hmatch
    rcases h.exists_rest hwild hmatch with ⟨k, hk, hlength, hglob⟩
    have heq : k = s.pTameText := by lia
    rw [heq] at hglob
    exact hglob
  · intro hglob
    have hadd := h.add_attempt
    exact ⟨s.attempt b, Nat.le_refl _, by lia,
      (h.globAt_iff hwild htame).mpr hglob⟩

theorem matchFrom_iff_atStar (h : Attempting text wild s b)
    (htame : s.pTameText ≤ text.chars.length)
    (hwild : s.pWildText < wild.chars.length)
    (hstar : wild.read s.pWildText = some star) :
    MatchFrom text wild b.pWildBookmark (s.attempt b) ↔
      GlobAt text wild s.pTameText s.pWildText := by
  constructor
  · intro hmatch
    rcases h.exists_rest (Nat.le_of_lt hwild) hmatch with
      ⟨k, hk, hlength, hglob⟩
    rcases CString.read_of_lt hwild with ⟨w, hw, _, hdrop⟩
    rw [hstar] at hw
    cases hw
    have hnext : s.pWildText + 1 ≤ wild.chars.length := hwild
    rcases skipStars_spec hnext with
      ⟨j, _, _, _, hskip, _⟩
    apply (globAt_star_iff hdrop hskip htame).mpr
    exact matchFrom_mono hk ((globAt_star_iff hdrop hskip hlength).mp hglob)
  · intro hglob
    have hadd := h.add_attempt
    exact ⟨s.attempt b, Nat.le_refl _, by lia,
      (h.globAt_iff (Nat.le_of_lt hwild) htame).mpr hglob⟩

end Attempting

/-!
## What a pass can do
-/

section Passes

variable (text wild)

/-- The characters at the pointers differ. -/
def Fails (s : Walk) (t : UInt8) : Prop :=
  text.read s.pTameText = some t ∧
    exists w, wild.read s.pWildText = some w ∧ w ≠ star ∧
      ¬StandsFor questionMark w t

/-- "Don't go this far back again": the next attempt begins one further. -/
def Restarts (s : Walk) : Prop :=
  exists b t, s.bookmark = some b ∧ Fails text wild s t ∧
    s.pWildText ≠ b.pWildBookmark ∧ wild.read b.pWildBookmark ≠ some t

/-- The attempt fails at a character that it could begin with. -/
def Jumps (s : Walk) (b : Bookmark) : Prop :=
  exists t, s.bookmark = some b ∧ Fails text wild s t ∧
    s.pWildText ≠ b.pWildBookmark ∧ wild.read b.pWildBookmark = some t

/-- The pattern behind the end of the text is not told from its end. -/
def Overruns (s : Walk) : Prop :=
  s.pTameText = text.chars.length ∧
    (wild.read s.pWildText = some 0 ∨
      wild.read s.pWildText = some questionMark ∨
        (wild.read s.pWildText = some star ∧
          (wild.chars.drop s.pWildText).dropWhile (· = star) ≠ []))

/-- How a pass relates to what is live and backed. -/
inductive Change (s s' : Walk) : Prop where
  | plain (hplain : wild.read s.pWildText ≠ some star)
      (hrestart : ¬Restarts text wild s)
      (hlive : Live text wild s' ↔ Live text wild s)
      (hbacked : Backed text wild s' ↔ Backed text wild s)
  | star (hstar : wild.read s.pWildText = some star)
      (hlive : Live text wild s' ↔ Live text wild s)
      (hbacked : Backed text wild s' ↔ Live text wild s)
  | jump (b : Bookmark) (hjump : Jumps text wild s b)
      (hlive : Live text wild s' ↔
        MatchFrom text wild b.pWildBookmark s.pTameText)
      (hbacked : Backed text wild s' ↔ Backed text wild s)
  | restart (hrestart : Restarts text wild s)
      (hlive : Live text wild s' ↔ Backed text wild s)
      (hbacked : Backed text wild s' ↔ Backed text wild s)

/-- The pattern bookmark goes on, or that of the text, or the text. -/
def rank (s : Walk) : Nat × Nat × Nat :=
  (s.bookmark.elim (wild.chars.length + 1) fun b =>
    wild.chars.length - b.pWildBookmark,
    s.bookmark.elim 0 fun b => text.chars.length - b.pTameBookmark,
    text.chars.length - s.pTameText)

/-- Fewer passes are left. -/
def Nearer (s s' : Walk) : Prop :=
  Prod.Lex (· < ·) (Prod.Lex (· < ·) (· < ·)) (rank text wild s')
    (rank text wild s)

/-- What a pass leads to: a result, or the pointers of the next pass. -/
inductive Pass (s : Walk) : Option (Walk ⊕ Bool) -> Prop where
  | returned {result : Bool} (h : result = true ↔ Live text wild s)
      (hrestart : ¬Restarts text wild s) : Pass s (some (Sum.inr result))
  | next {s' : Walk} (hwalking : Walking text wild s')
      (hchange : Change text wild s s') (hnearer : Nearer text wild s s') :
      Pass s (some (Sum.inl s'))

end Passes

theorem not_restarts_atStar {s : Walk}
    (hstar : wild.read s.pWildText = some star) :
    ¬Restarts text wild s := by
  rintro ⟨b, t, _, ⟨_, w, hw, hplain, _⟩, _⟩
  rw [hstar] at hw
  cases hw
  exact hplain rfl

theorem Attempting.next {s : Walk} {b : Bookmark}
    (h : Attempting text wild s b) {p t : UInt8}
    (hp : wild.read s.pWildText = some p) (hplain : p ≠ star)
    (ht : text.read s.pTameText = some t)
    (hstands : StandsFor questionMark p t) :
    Attempting text wild
        ⟨s.pTameText + 1, s.pWildText + 1, s.bookmark⟩ b ∧
      (⟨s.pTameText + 1, s.pWildText + 1, s.bookmark⟩ : Walk).attempt b =
        s.attempt b := by
  have hwild := h.wild_le
  have htame := h.tame_le
  have hattempt :
      (⟨s.pTameText + 1, s.pWildText + 1, s.bookmark⟩ : Walk).attempt b =
        s.attempt b := by
    change s.pTameText + 1 - (s.pWildText + 1 - b.pWildBookmark) =
      s.pTameText - (s.pWildText - b.pWildBookmark)
    lia
  refine ⟨⟨h.wild_lt, Nat.le_succ_of_le hwild, ?_, h.plain, ?_⟩, hattempt⟩
  · change b.pTameBookmark + (s.pWildText + 1 - b.pWildBookmark) ≤
      s.pTameText + 1
    lia
  · intro j hj
    change j < s.pWildText + 1 - b.pWildBookmark at hj
    rw [hattempt]
    by_cases hlast : j = s.pWildText - b.pWildBookmark
    · have hadd := h.add_attempt
      refine ⟨p, t, ?_, hplain, ?_, hstands⟩
      · rw [hlast, Nat.add_sub_cancel' hwild]
        exact hp
      · rw [hlast, hadd]
        exact ht
    · exact h.agrees j (by lia)

theorem attempting_start {i j : Nat} (hj : j < wild.chars.length)
    (hplain : wild.read j ≠ some star) :
    Attempting text wild ⟨i, j, some ⟨i, j⟩⟩ ⟨i, j⟩ := by
  refine ⟨hj, Nat.le_refl j, ?_, hplain, ?_⟩
  · change i + (j - j) ≤ i
    lia
  · intro k hk
    change k < j - j at hk
    lia

/-- Where the characters at the pointers agree. -/
theorem advance_spec {s : Walk} {p t : UInt8}
    (hsaved : forall b, s.bookmark = some b -> Attempting text wild s b ∧
      (s.attempt b = b.pTameBookmark ∨
        ¬GlobAt text wild b.pTameBookmark b.pWildBookmark))
    (hp : wild.read s.pWildText = some p)
    (hwild : s.pWildText < wild.chars.length) (hplain : p ≠ star)
    (ht : text.read s.pTameText = some t)
    (htame : s.pTameText < text.chars.length)
    (hstands : StandsFor questionMark p t) :
    (exists result, advance text wild s = some (Sum.inr result) ∧
      (result = true ↔ Live text wild s)) ∨
      (advance text wild s =
          some (Sum.inl ⟨s.pTameText + 1, s.pWildText + 1, s.bookmark⟩) ∧
        Walking text wild ⟨s.pTameText + 1, s.pWildText + 1, s.bookmark⟩ ∧
          (Live text wild ⟨s.pTameText + 1, s.pWildText + 1, s.bookmark⟩ ↔
            Live text wild s) ∧
          (Backed text wild ⟨s.pTameText + 1, s.pWildText + 1, s.bookmark⟩ ↔
            Backed text wild s)) := by
  have hglob : GlobAt text wild s.pTameText s.pWildText ↔
      GlobAt text wild (s.pTameText + 1) (s.pWildText + 1) :=
    globAt_agree_iff hp hwild hplain ht htame hstands
  by_cases hend : s.pTameText + 1 = text.chars.length
  · rcases advance_end hend hwild with ⟨result, hresult, hiff⟩
    refine Or.inl ⟨result, hresult, ?_⟩
    rw [hiff]
    rcases s with ⟨ti, wi, bookmark⟩
    cases bookmark with
    | none => exact hglob.symm
    | some b =>
        rcases (hsaved b rfl).left.next hp hplain ht hstands with
          ⟨hnext, hattempt⟩
        have hatEnd := hnext.matchFrom_iff_atEnd hwild hend
        rw [hattempt] at hatEnd
        exact hatEnd.symm
  · refine Or.inr ⟨advance_next (by lia), ⟨hwild, htame, ?_⟩, ?_, ?_⟩
    · intro b hb
      rcases hsaved b hb with ⟨hattempting, hfirst⟩
      rcases hattempting.next hp hplain ht hstands with ⟨hnext, hattempt⟩
      refine ⟨hnext, ?_, fun hatEnd => absurd hatEnd hend⟩
      rw [hattempt]
      exact hfirst
    · rcases s with ⟨ti, wi, bookmark⟩
      cases bookmark with
      | none => exact hglob.symm
      | some b =>
          rcases (hsaved b rfl).left.next hp hplain ht hstands with
            ⟨_, hattempt⟩
          change MatchFrom text wild b.pWildBookmark _ ↔
            MatchFrom text wild b.pWildBookmark _
          rw [hattempt]
    · rcases s with ⟨ti, wi, bookmark⟩
      cases bookmark with
      | none => exact hglob.symm
      | some b => exact Iff.rfl

theorem Fails.not_globAt {s : Walk} {t : UInt8} (h : Fails text wild s t)
    (hwild : s.pWildText ≤ wild.chars.length)
    (htame : s.pTameText ≤ text.chars.length) :
    ¬GlobAt text wild s.pTameText s.pWildText := by
  rcases h with ⟨ht, w, hw, hplain, hdiffer⟩
  rcases Nat.lt_or_eq_of_le hwild with hwildLt | hwildEnd
  · rcases CString.read_of_lt hwildLt with ⟨w', hw', _, hdropWild⟩
    rw [hw] at hw'
    cases hw'
    rcases Nat.lt_or_eq_of_le htame with htameLt | htameEnd
    · rcases CString.read_of_lt htameLt with ⟨t', ht', _, hdropText⟩
      rw [ht] at ht'
      cases ht'
      rw [globAt_cons_iff hdropText hdropWild hplain]
      intro hboth
      exact hdiffer hboth.left
    · rw [GlobAt, List.drop_eq_nil_of_le (Nat.le_of_eq htameEnd.symm),
        hdropWild]
      exact not_glob_nil_cons hplain
  · rcases Nat.lt_or_eq_of_le htame with htameLt | htameEnd
    · exact not_globAt_end htameLt (Nat.le_of_eq hwildEnd.symm)
    · rw [htameEnd, text.read_length] at ht
      rw [hwildEnd, wild.read_length] at hw
      cases ht
      cases hw
      exact absurd (Or.inr rfl) hdiffer

theorem not_matchFrom_end {j : Nat} (hj : j < wild.chars.length)
    (hplain : wild.read j ≠ some star) :
    ¬MatchFrom text wild j text.chars.length := by
  rintro ⟨k, hk, hlength, hglob⟩
  rcases CString.read_of_lt hj with ⟨w, hw, _, hdrop⟩
  rw [GlobAt, List.drop_eq_nil_of_le hk, hdrop] at hglob
  apply not_glob_nil_cons _ hglob
  intro hstar
  rw [hstar] at hw
  exact hplain hw

theorem pass_restart {s : Walk} {b : Bookmark} (h : Walking text wild s)
    (hb : s.bookmark = some b) (hrestart : Restarts text wild s)
    (hne : s.pWildText ≠ b.pWildBookmark)
    (hfirst : ¬GlobAt text wild b.pTameBookmark b.pWildBookmark) :
    Pass text wild s (some (Sum.inl
      ⟨b.pTameBookmark + 1, b.pWildBookmark,
        some ⟨b.pTameBookmark + 1, b.pWildBookmark⟩⟩)) := by
  have hsaved := h.saved b hb
  have hwildLt := hsaved.wild_lt
  have hwildLe := hsaved.wild_le
  have hadd := hsaved.add_attempt
  have hle := hsaved.le_attempt
  have htame := h.tame_le
  have hlt : b.pTameBookmark + 1 < text.chars.length := by
    by_contra hnot
    rcases hsaved.atEnd (by lia) with ⟨heq, _⟩ | ⟨_, hlater⟩
    · exact hne heq
    · lia
  have hbacked : MatchFrom text wild b.pWildBookmark (b.pTameBookmark + 1) ↔
      Backed text wild s := by
    rw [Backed, hb]
    apply (matchFrom_skip (Nat.le_succ _) _).symm
    intro k hk hlt' hglob
    have heq : k = b.pTameBookmark := by lia
    rw [heq] at hglob
    exact hfirst hglob
  refine Pass.next ⟨Nat.le_of_lt hwildLt, Nat.le_of_lt hlt, ?_⟩
    (Change.restart hrestart ?_ hbacked) ?_
  · intro b' hb'
    cases hb'
    refine ⟨attempting_start hwildLt hsaved.plain, Or.inl ?_,
      fun hend => absurd hend (Nat.ne_of_lt hlt)⟩
    change b.pTameBookmark + 1 - (b.pWildBookmark - b.pWildBookmark) = _
    rw [Nat.sub_self, Nat.sub_zero]
  · have hattempt : (⟨b.pTameBookmark + 1, b.pWildBookmark,
        some ⟨b.pTameBookmark + 1, b.pWildBookmark⟩⟩ : Walk).attempt
          ⟨b.pTameBookmark + 1, b.pWildBookmark⟩ = b.pTameBookmark + 1 := by
      change b.pTameBookmark + 1 - (b.pWildBookmark - b.pWildBookmark) = _
      rw [Nat.sub_self, Nat.sub_zero]
    change MatchFrom text wild b.pWildBookmark _ ↔ _
    rw [hattempt]
    exact hbacked
  · rw [Nearer, rank, rank, hb]
    apply Prod.Lex.right
    apply Prod.Lex.left
    change text.chars.length - (b.pTameBookmark + 1) <
      text.chars.length - b.pTameBookmark
    lia

theorem pass_jump {s : Walk} {b : Bookmark} (h : Walking text wild s)
    (hb : s.bookmark = some b) (hjump : Jumps text wild s b)
    (hne : s.pWildText ≠ b.pWildBookmark)
    (hlt : s.pTameText < text.chars.length)
    (hfirst : ¬GlobAt text wild b.pTameBookmark b.pWildBookmark) :
    Pass text wild s (some (Sum.inl
      ⟨s.pTameText + 1, b.pWildBookmark + 1, s.bookmark⟩)) := by
  have hsaved := h.saved b hb
  have hwildLt := hsaved.wild_lt
  have hwildLe := hsaved.wild_le
  have hadd := hsaved.add_attempt
  have hle := hsaved.le_attempt
  have hattempt :
      (⟨s.pTameText + 1, b.pWildBookmark + 1, s.bookmark⟩ : Walk).attempt b =
        s.pTameText := by
    change s.pTameText + 1 - (b.pWildBookmark + 1 - b.pWildBookmark) = _
    lia
  refine Pass.next ⟨hwildLt, hlt, ?_⟩
    (Change.jump b hjump ?_ ?_) ?_
  · intro b' hb'
    rw [hb] at hb'
    cases hb'
    refine ⟨⟨hwildLt, Nat.le_succ _, ?_, hsaved.plain, ?_⟩, Or.inr hfirst, ?_⟩
    · change b.pTameBookmark + (b.pWildBookmark + 1 - b.pWildBookmark) ≤
        s.pTameText + 1
      lia
    · intro j hj
      change j < b.pWildBookmark + 1 - b.pWildBookmark at hj
      have hzero : j = 0 := by lia
      rcases hjump with ⟨t, _, ⟨ht, _⟩, _, hread⟩
      rw [hattempt, hzero]
      refine ⟨t, t, hread, ?_, ht, Or.inr rfl⟩
      intro hstar
      rw [hstar] at hread
      exact hsaved.plain hread
    · intro _
      refine Or.inr ⟨rfl, ?_⟩
      rw [hattempt]
      lia
  · rw [Live, hb]
    change MatchFrom text wild b.pWildBookmark _ ↔ _
    rw [hb] at hattempt
    rw [hattempt]
  · rw [Backed, Backed, hb]
    exact Iff.rfl
  · rw [Nearer, rank, rank, hb]
    apply Prod.Lex.right
    apply Prod.Lex.right
    change text.chars.length - (s.pTameText + 1) <
      text.chars.length - s.pTameText
    lia

theorem pass_later {s : Walk} {b : Bookmark} (h : Walking text wild s)
    (hb : s.bookmark = some b) (heq : s.pWildText = b.pWildBookmark)
    (hone : wild.read b.pWildBookmark ≠ some questionMark)
    (hlt : s.pTameText < text.chars.length)
    (hnot : ¬GlobAt text wild s.pTameText s.pWildText)
    (hfirst : ¬GlobAt text wild b.pTameBookmark b.pWildBookmark) :
    Pass text wild s (some (Sum.inl
      ⟨s.pTameText + 1, s.pWildText, s.bookmark⟩)) := by
  have hsaved := h.saved b hb
  have htame := hsaved.tame_le
  have hattempt :
      (⟨s.pTameText + 1, s.pWildText, s.bookmark⟩ : Walk).attempt b =
        s.pTameText + 1 := by
    change s.pTameText + 1 - (s.pWildText - b.pWildBookmark) = _
    lia
  refine Pass.next ⟨h.wild_le, hlt, ?_⟩
    (Change.plain (by rw [heq]; exact hsaved.plain) ?_ ?_ ?_) ?_
  · intro b' hb'
    rw [hb] at hb'
    cases hb'
    refine ⟨⟨hsaved.wild_lt, hsaved.wild_le, ?_, hsaved.plain, ?_⟩,
      Or.inr hfirst, fun _ => Or.inl ⟨heq, hone⟩⟩
    · change b.pTameBookmark + (s.pWildText - b.pWildBookmark) ≤
        s.pTameText + 1
      lia
    · intro j hj
      change j < s.pWildText - b.pWildBookmark at hj
      lia
  · rintro ⟨b', t, hb', _, hne, _⟩
    rw [hb] at hb'
    cases hb'
    exact hne heq
  · have hhere : s.attempt b = s.pTameText := by
      rw [Walk.attempt]
      lia
    rw [hb] at hattempt
    rw [Live, Live, hb]
    change MatchFrom text wild b.pWildBookmark _ ↔
      MatchFrom text wild b.pWildBookmark _
    rw [hattempt, hhere]
    apply (matchFrom_skip (Nat.le_succ _) _).symm
    intro k hk hlt' hglob
    have hk' : k = s.pTameText := by lia
    rw [hk', ← heq] at hglob
    exact hnot hglob
  · rw [Backed, Backed, hb]
    exact Iff.rfl
  · rw [Nearer, rank, rank, hb]
    apply Prod.Lex.right
    apply Prod.Lex.right
    change text.chars.length - (s.pTameText + 1) <
      text.chars.length - s.pTameText
    lia

theorem pass_differs {s : Walk} {t : UInt8} (h : Walking text wild s)
    (hfails : Fails text wild s t) : Pass text wild s (step text wild s) := by
  have hnot := hfails.not_globAt h.wild_le h.tame_le
  have hfails' := hfails
  rcases hfails with ⟨ht, w, hw, hplain, hdiffer⟩
  rw [step_differs hw hplain ht hdiffer]
  cases hb : s.bookmark with
  | none =>
      refine Pass.returned ?_ ?_
      · rw [Live, hb]
        constructor
        · intro hfalse
          cases hfalse
        · intro hlive
          exact absurd hlive hnot
      · rintro ⟨b, _, hb', _⟩
        rw [hb] at hb'
        cases hb'
  | some b =>
      have hsaved := h.saved b hb
      have hglob := hsaved.globAt_iff h.wild_le h.tame_le
      have hfirst : ¬GlobAt text wild b.pTameBookmark b.pWildBookmark := by
        rcases hsaved.first with hsame | hno
        · rw [← hsame, hglob]
          exact hnot
        · exact hno
      rw [Option.elim_some]
      by_cases hne : s.pWildText ≠ b.pWildBookmark
      · rcases CString.read_of_lt hsaved.wild_lt with ⟨first, hread, hzero, _⟩
        rw [if_pos hne, hread, Option.bind_some]
        by_cases hsame : t = first
        · rw [← hsame] at hread hzero
          rw [if_neg (fun hdiff => hdiff hsame), if_pos hzero, ← hb]
          exact pass_jump h hb ⟨t, hb, hfails', hne, hread⟩ hne
            (CString.lt_of_read ht hzero) hfirst
        · rw [if_pos hsame]
          apply pass_restart h hb ⟨b, t, hb, hfails', hne, ?_⟩ hne hfirst
          rw [hread]
          intro hsome
          exact hsame (Option.some.inj hsome).symm
      · have heq := not_ne_iff.mp hne
        rw [if_neg hne]
        by_cases hzero : t = 0
        · rw [if_neg (fun hnonzero => hnonzero hzero)]
          have hend : s.pTameText = text.chars.length := by
            by_contra hnotEnd
            have htame := h.tame_le
            rcases CString.read_of_lt (s := text) (i := s.pTameText)
              (by lia) with ⟨t', ht', hne', _⟩
            rw [ht, hzero] at ht'
            exact hne' (Option.some.inj ht').symm
          refine Pass.returned ?_ ?_
          · have hattempt : s.attempt b = text.chars.length := by
              rw [Walk.attempt, heq, Nat.sub_self, Nat.sub_zero, hend]
            rw [Live, hb, Option.elim_some, hattempt]
            constructor
            · intro hfalse
              cases hfalse
            · intro hlive
              exact absurd hlive
                (not_matchFrom_end hsaved.wild_lt hsaved.plain)
          · rintro ⟨b', _, hb', _, hne', _⟩
            rw [hb] at hb'
            cases hb'
            exact hne' heq
        · rw [if_pos hzero, ← hb]
          refine pass_later h hb heq ?_ (CString.lt_of_read ht hzero) hnot
            hfirst
          intro hone
          rw [← heq, hw] at hone
          exact hdiffer (Or.inl (Option.some.inj hone))

theorem pass_agrees {s : Walk} {p t : UInt8} (h : Walking text wild s)
    (hp : wild.read s.pWildText = some p)
    (hwild : s.pWildText < wild.chars.length) (hplain : p ≠ star)
    (ht : text.read s.pTameText = some t)
    (htame : s.pTameText < text.chars.length)
    (hstands : StandsFor questionMark p t) :
    Pass text wild s (step text wild s) := by
  have hrestart : ¬Restarts text wild s := by
    rintro ⟨_, t', _, ⟨ht', p', hp', _, hdiffer⟩, _⟩
    rw [ht] at ht'
    rw [hp] at hp'
    cases ht'
    cases hp'
    exact hdiffer hstands
  rw [step_agrees hp hplain ht hstands]
  rcases advance_spec (fun b hb => ⟨(h.saved b hb).toAttempting,
      (h.saved b hb).first⟩) hp hwild hplain ht htame hstands with
    ⟨result, hresult, hiff⟩ | ⟨hnext, hwalking, hlive, hbacked⟩
  · rw [hresult]
    exact Pass.returned hiff hrestart
  · rw [hnext]
    refine Pass.next hwalking (Change.plain ?_ hrestart hlive hbacked) ?_
    · rw [hp]
      intro hstar
      exact hplain (Option.some.inj hstar)
    rw [Nearer, rank, rank]
    apply Prod.Lex.right
    apply Prod.Lex.right
    change text.chars.length - (s.pTameText + 1) <
      text.chars.length - s.pTameText
    lia

theorem live_iff_atStar {s : Walk} (h : Walking text wild s)
    (hwild : s.pWildText < wild.chars.length)
    (hstar : wild.read s.pWildText = some star) :
    Live text wild s ↔ GlobAt text wild s.pTameText s.pWildText := by
  cases hb : s.bookmark with
  | none =>
      rw [Live, hb]
      exact Iff.rfl
  | some b =>
      rw [Live, hb]
      exact (h.saved b hb).matchFrom_iff_atStar h.tame_le hwild hstar

theorem pass_bookmark {s : Walk} {i j : Nat} {p t : UInt8}
    (h : Walking text wild s) (hstar : wild.read s.pWildText = some star)
    (hj : s.pWildText < j) (hjLt : j < wild.chars.length)
    (hp : wild.read j = some p) (hplain : p ≠ star)
    (hiLt : i < text.chars.length)
    (ht : text.read i = some t) (hstands : StandsFor questionMark p t)
    (hlive : MatchFrom text wild j i ↔ Live text wild s) :
    Pass text wild s (advance text wild ⟨i, j, some ⟨i, j⟩⟩) := by
  have hattempt : (⟨i, j, some ⟨i, j⟩⟩ : Walk).attempt ⟨i, j⟩ = i := by
    change i - (j - j) = i
    rw [Nat.sub_self, Nat.sub_zero]
  have hstart : Live text wild ⟨i, j, some ⟨i, j⟩⟩ ↔ Live text wild s := by
    change MatchFrom text wild j _ ↔ _
    rw [hattempt]
    exact hlive
  have hplain' : wild.read j ≠ some star := by
    rw [hp]
    intro hsome
    exact hplain (Option.some.inj hsome)
  rcases advance_spec
      (s := ⟨i, j, some ⟨i, j⟩⟩) (by
        intro b hb
        cases hb
        exact ⟨attempting_start hjLt hplain', Or.inl hattempt⟩)
      hp hjLt hplain ht hiLt hstands with
    ⟨result, hresult, hiff⟩ | ⟨hnext, hwalking, hlive', hbacked⟩
  · rw [hresult]
    exact Pass.returned (hiff.trans hstart) (not_restarts_atStar hstar)
  · rw [hnext]
    refine Pass.next hwalking (Change.star hstar (hlive'.trans hstart)
      (hbacked.trans hlive)) ?_
    rw [Nearer, rank, rank]
    apply Prod.Lex.left
    change wild.chars.length - j < _
    cases hb : s.bookmark with
    | none =>
        change wild.chars.length - j < wild.chars.length + 1
        lia
    | some b =>
        have hle := (h.saved b hb).wild_le
        change wild.chars.length - j < wild.chars.length - b.pWildBookmark
        lia

theorem pass_star {s : Walk} (h : Walking text wild s)
    (hinside : ¬Overruns text wild s)
    (hwild : s.pWildText < wild.chars.length)
    (hstar : wild.read s.pWildText = some star) :
    Pass text wild s (step text wild s) := by
  rcases CString.read_of_lt hwild with ⟨w, hw, _, hdrop⟩
  rw [hstar] at hw
  cases hw
  have hnext : s.pWildText + 1 ≤ wild.chars.length := hwild
  rcases skipStars_spec hnext with
    ⟨j, hskip, hle, hlength, hrest, hnext⟩
  have hlive := (live_iff_atStar h hwild hstar).trans
    (globAt_star_iff hdrop hrest h.tame_le)
  rcases Nat.lt_or_eq_of_le hlength with hlt | hend
  · rcases CString.read_of_lt hlt with ⟨p, hp, hzero, hdropRest⟩
    have hplain : p ≠ star := by
      intro heq
      rw [heq] at hp
      exact hnext hp
    have htame : s.pTameText < text.chars.length := by
      by_contra hnot
      apply hinside
      refine ⟨Nat.le_antisymm h.tame_le (Nat.not_lt.mp hnot),
        Or.inr (Or.inr ⟨hstar, ?_⟩)⟩
      rw [hdrop, List.dropWhile_cons_of_pos (by simp), ← hrest, hdropRest]
      exact List.cons_ne_nil _ _
    rw [step_star hstar hskip hp, if_neg hzero, nextPossible]
    by_cases hone : p = questionMark
    · rw [if_neg (fun hdiff => hdiff hone), Option.bind_some,
        Option.elim_some]
      rcases CString.read_of_lt htame with ⟨t, ht, _, _⟩
      exact pass_bookmark h hstar hle hlt hp hplain htame ht
        (Or.inl hone) hlive.symm
    · rw [if_pos hone]
      have hdiffer : forall k, k < text.chars.length ->
          text.read k ≠ some p -> ¬GlobAt text wild k j := by
        intro k hk hread hglob
        rcases CString.read_of_lt hk with ⟨t, ht, _, hdropText⟩
        rcases ((globAt_cons_iff hdropText hdropRest hplain).mp hglob).left
          with hquestion | hsame
        · exact hone hquestion
        · rw [← hsame] at ht
          exact hread ht
      rcases fastForward_spec (c := p) htame with
        ⟨i, hfound, hleText, hltText, ht, hpassed⟩ | ⟨hmissing, hall⟩
      · rw [hfound, Option.bind_some, Option.elim_some]
        refine pass_bookmark h hstar hle hlt hp hplain hltText ht
          (Or.inr rfl) ?_
        rw [hlive]
        apply (matchFrom_skip hleText _).symm
        intro k hk hlt'
        exact hdiffer k (Nat.lt_trans hlt' hltText) (hpassed k hk hlt')
      · rw [hmissing, Option.bind_some, Option.elim_none]
        refine Pass.returned ?_ (not_restarts_atStar hstar)
        rw [hlive]
        constructor
        · intro hfalse
          cases hfalse
        · intro hmatch
          rw [matchFrom_skip (Nat.le_of_lt htame) (fun k hk hlt' =>
            hdiffer k hlt' (hall k hk hlt'))] at hmatch
          exact absurd hmatch (not_matchFrom_end hlt hnext)
  · have hread := wild.read_length
    rw [← hend] at hread
    rw [step_star hstar hskip hread, if_pos rfl]
    refine Pass.returned ?_ (not_restarts_atStar hstar)
    rw [hlive]
    constructor
    · intro _
      refine ⟨text.chars.length, h.tame_le, Nat.le_refl _, ?_⟩
      rw [GlobAt, List.drop_length, hend, List.drop_length]
      exact Glob.nil
    · intro _
      rfl

/-- What one pass does, wherever it does not read behind the text. -/
theorem step_spec {s : Walk} (h : Walking text wild s)
    (hinside : ¬Overruns text wild s) :
    Pass text wild s (step text wild s) := by
  have hread : exists w, wild.read s.pWildText = some w ∧
      (s.pWildText = wild.chars.length -> w = 0) := by
    rcases Nat.lt_or_eq_of_le h.wild_le with hlt | heq
    · rcases CString.read_of_lt hlt with ⟨w, hw, _, _⟩
      exact ⟨w, hw, fun hend => absurd hend (Nat.ne_of_lt hlt)⟩
    · rw [heq]
      exact ⟨0, wild.read_length, fun _ => rfl⟩
  rcases hread with ⟨w, hw, hwEnd⟩
  by_cases hstar : w = star
  · rw [hstar] at hw hwEnd
    have hlt : s.pWildText < wild.chars.length := by
      by_contra hnot
      have hzero := hwEnd (Nat.le_antisymm h.wild_le (Nat.not_lt.mp hnot))
      exact absurd hzero (by decide)
    exact pass_star h hinside hlt hw
  · rcases Nat.lt_or_eq_of_le h.tame_le with hlt | heq
    · rcases CString.read_of_lt hlt with ⟨t, ht, hzero, _⟩
      by_cases hstands : StandsFor questionMark w t
      · refine pass_agrees h hw ?_ hstar ht hlt hstands
        by_contra hnot
        have hw0 := hwEnd (by
          have hle := h.wild_le
          lia)
        rcases hstands with hone | hsame
        · rw [hw0] at hone
          exact absurd hone (by decide)
        · exact hzero (hsame.symm.trans hw0)
      · exact pass_differs h ⟨ht, w, hw, hstar, hstands⟩
    · have ht := text.read_length
      rw [← heq] at ht
      refine pass_differs h ⟨ht, w, hw, hstar, ?_⟩
      rintro (hone | hsame)
      · rw [hone] at hw
        exact hinside ⟨heq, Or.inr (Or.inl hw)⟩
      · rw [hsame] at hw
        exact hinside ⟨heq, Or.inl hw⟩

theorem step_overrun {s : Walk} (h : Overruns text wild s) :
    step text wild s = none := by
  rcases h with ⟨hend, hcases⟩
  have ht := text.read_length
  rw [← hend] at ht
  rcases hcases with hzero | hone | ⟨hstar, hrest⟩
  · rw [step_agrees hzero (by decide) ht (Or.inr rfl)]
    exact advance_overrun hend
  · rw [step_agrees hone (by decide) ht (Or.inl rfl)]
    exact advance_overrun hend
  · have hlt := CString.lt_of_read hstar (by decide)
    rcases CString.read_of_lt hlt with ⟨w, hw, _, hdrop⟩
    rw [hstar] at hw
    cases hw
    have hnext : s.pWildText + 1 ≤ wild.chars.length := hlt
    rcases skipStars_spec hnext with
      ⟨j, hskip, _, hlength, hdropRest, hnext⟩
    rw [hdrop, List.dropWhile_cons_of_pos (by simp), ← hdropRest] at hrest
    have hjLt : j < wild.chars.length := by
      by_contra hnot
      exact hrest (List.drop_eq_nil_of_le (Nat.not_lt.mp hnot))
    rcases CString.read_of_lt hjLt with ⟨p, hp, hp0, _⟩
    rw [step_star hstar hskip hp, if_neg hp0, nextPossible]
    by_cases hquestion : p = questionMark
    · rw [if_neg (fun hdiff => hdiff hquestion), Option.bind_some,
        Option.elim_some]
      exact advance_overrun hend
    · rw [if_pos hquestion, hend, fastForward_end hp0]
      rfl

end Match

end Core
end Rzu
