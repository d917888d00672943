import Rzu.Core.MatchAttempts

/-!
# Matches that are passed over

A jump forgets the places between the beginning of an attempt and the character
that ended it.  The result is right if none of these mattered, or if the code
comes back to them.
-/

namespace Rzu
namespace Core

open Library

section Match

variable (text wild : CString)

/-- One pass leads to the next. -/
def Steps (s s' : Walk) : Prop := step text wild s = some (Sum.inl s')

/-- The pointers at the beginning of some pass. -/
def Reached (s : Walk) : Prop :=
  Relation.ReflTransGen (Steps text wild) Walk.start s

def Returns (s : Walk) (result : Bool) : Prop :=
  exists fuel, walk text wild fuel s = some (Outcome.returned result)

/--
The function returns, without having read behind the end of a string, and tells
whether the text matches the pattern.
-/
def MatchesGlob : Prop :=
  exists result, (exists fuel, stringWildcardMatch text wild fuel =
      some (Outcome.returned result)) ∧
    (result = true ↔ Glob star questionMark text.chars wild.chars)

/--
A jump passes over the last place where the rest of the pattern matches: one
behind the beginning of the attempt, before the character that ended it.
-/
def Drops (s : Walk) : Prop :=
  exists b, Jumps text wild s b ∧
    (exists k, s.attempt b < k ∧ k < s.pTameText ∧
      GlobAt text wild k b.pWildBookmark) ∧
        ¬MatchFrom text wild b.pWildBookmark s.pTameText

/-- The code begins again from the saved place before the next star. -/
inductive GoesBack : Walk -> Prop where
  | here {s : Walk} (h : Restarts text wild s) : GoesBack s
  | later {s s' : Walk} (hstar : wild.read s.pWildText ≠ some star)
      (hstep : Steps text wild s s') (h : GoesBack s') : GoesBack s

/-- No pass reads behind the end of the text. -/
def StaysInside : Prop :=
  forall s, Reached text wild s -> ¬Overruns text wild s

/-- Matches that are passed over are found again. -/
def LosesNoMatch : Prop :=
  forall s, Reached text wild s -> Drops text wild s -> GoesBack text wild s

variable {text wild}

/-!
## Passes one after the other
-/

theorem returns_next {s s' : Walk} {result : Bool}
    (h : Steps text wild s s') :
    Returns text wild s result ↔ Returns text wild s' result := by
  constructor
  · rintro ⟨fuel, hfuel⟩
    cases fuel with
    | zero => cases hfuel
    | succ fuel =>
        rw [walk, h] at hfuel
        exact ⟨fuel, hfuel⟩
  · rintro ⟨fuel, hfuel⟩
    refine ⟨fuel + 1, ?_⟩
    rw [walk, h]
    exact hfuel

theorem returns_last {s : Walk} {result : Bool}
    (h : step text wild s = some (Sum.inr result)) :
    Returns text wild s result := by
  refine ⟨1, ?_⟩
  rw [walk, h]

theorem Returns.cases {s : Walk} {result : Bool}
    (h : Returns text wild s result) :
    step text wild s = some (Sum.inr result) ∨
      exists s', Steps text wild s s' := by
  rcases h with ⟨fuel, hfuel⟩
  cases fuel with
  | zero => cases hfuel
  | succ fuel =>
      rw [walk] at hfuel
      cases hstep : step text wild s with
      | none =>
          rw [hstep] at hfuel
          cases hfuel
      | some outcome =>
          rw [hstep] at hfuel
          cases outcome with
          | inl s' => exact Or.inr ⟨s', hstep⟩
          | inr result' =>
              cases hfuel
              exact Or.inl rfl

theorem not_overruns_of_step {s : Walk} {outcome : Walk ⊕ Bool}
    (h : step text wild s = some outcome) : ¬Overruns text wild s := by
  intro hoverruns
  rw [step_overrun hoverruns] at h
  cases h

theorem Steps.pass {s s' : Walk} (h : Steps text wild s s')
    (hwalking : Walking text wild s) :
    Walking text wild s' ∧ Change text wild s s' ∧ Nearer text wild s s' := by
  have hpass := step_spec hwalking (not_overruns_of_step h)
  rw [h] at hpass
  cases hpass with
  | next hwalking' hchange hnearer => exact ⟨hwalking', hchange, hnearer⟩

theorem last_pass {s : Walk} {result : Bool}
    (h : step text wild s = some (Sum.inr result))
    (hwalking : Walking text wild s) :
    (result = true ↔ Live text wild s) ∧ ¬Restarts text wild s := by
  have hpass := step_spec hwalking (not_overruns_of_step h)
  rw [h] at hpass
  cases hpass with
  | returned hiff hrestart => exact ⟨hiff, hrestart⟩

theorem walking_start : Walking text wild Walk.start := by
  refine ⟨Nat.zero_le _, Nat.zero_le _, ?_⟩
  intro b hb
  cases hb

theorem Reached.walking {s : Walk} (h : Reached text wild s) :
    Walking text wild s := by
  induction h with
  | refl => exact walking_start
  | tail _ hstep ih => exact (hstep.pass ih).left

theorem Walking.backed_of_live {s : Walk} (h : Walking text wild s)
    (hlive : Live text wild s) : Backed text wild s := by
  cases hb : s.bookmark with
  | none =>
      rw [Live, hb] at hlive
      rw [Backed, hb]
      exact hlive
  | some b =>
      rw [Live, hb] at hlive
      rw [Backed, hb]
      exact matchFrom_mono (h.saved b hb).le_attempt hlive

theorem Change.backed {s s' : Walk} (h : Change text wild s s')
    (hwalking : Walking text wild s) (hbacked : Backed text wild s') :
    Backed text wild s := by
  cases h with
  | plain _ _ _ hiff => exact hiff.mp hbacked
  | star _ _ hiff => exact hwalking.backed_of_live (hiff.mp hbacked)
  | jump _ _ _ hiff => exact hiff.mp hbacked
  | restart _ _ hiff => exact hiff.mp hbacked

theorem Reached.glob_of_backed {s : Walk} (h : Reached text wild s)
    (hbacked : Backed text wild s) :
    Glob star questionMark text.chars wild.chars := by
  induction h with
  | refl => exact hbacked
  | tail hbefore hstep ih =>
      have hwalking := Reached.walking hbefore
      exact ih ((hstep.pass hwalking).right.left.backed hwalking hbacked)

/-!
## The result
-/

/-- Passes come to an end, unless one reads behind the text. -/
theorem exists_returns {s : Walk} (hwalking : Walking text wild s)
    (hinside : forall s', Relation.ReflTransGen (Steps text wild) s s' ->
      ¬Overruns text wild s') :
    exists result, Returns text wild s result := by
  have hwf : WellFounded fun r r' : Nat × Nat × Nat =>
      Prod.Lex (· < ·) (Prod.Lex (· < ·) (· < ·)) r r' :=
    (Prod.lex Nat.lt_wfRel (Prod.lex Nat.lt_wfRel Nat.lt_wfRel)).wf
  induction hrank : rank text wild s using hwf.induction generalizing s with
  | _ r ih =>
      have hpass := step_spec hwalking
        (hinside s Relation.ReflTransGen.refl)
      cases hstep : step text wild s with
      | none =>
          rw [hstep] at hpass
          cases hpass
      | some outcome =>
          cases outcome with
          | inr result => exact ⟨result, returns_last hstep⟩
          | inl s' =>
              rw [hstep] at hpass
              cases hpass with
              | next hwalking' hchange hnearer =>
                  rw [Nearer, hrank] at hnearer
                  rcases ih _ hnearer hwalking' (fun s'' hlater =>
                    hinside s'' (Relation.ReflTransGen.head hstep hlater))
                      rfl with ⟨result, hresult⟩
                  exact ⟨result, (returns_next hstep).mpr hresult⟩

theorem backed_of_returns_true {s : Walk} (hwalking : Walking text wild s)
    (h : Returns text wild s true) : Backed text wild s := by
  rcases h with ⟨fuel, hfuel⟩
  induction fuel generalizing s with
  | zero => cases hfuel
  | succ fuel ih =>
      rcases Returns.cases ⟨fuel + 1, hfuel⟩ with hlast | ⟨s', hstep⟩
      · exact hwalking.backed_of_live ((last_pass hlast hwalking).left.mp rfl)
      · rcases hstep.pass hwalking with ⟨hwalking', hchange, _⟩
        rw [walk, hstep] at hfuel
        exact hchange.backed hwalking (ih hwalking' hfuel)

theorem live_of_jump {s s' : Walk} {b : Bookmark}
    (hwalking : Walking text wild s) (hjump : Jumps text wild s b)
    (hiff : Live text wild s' ↔
      MatchFrom text wild b.pWildBookmark s.pTameText)
    (hlive : Live text wild s) :
    Live text wild s' ∨ Drops text wild s := by
  by_cases hmatch : MatchFrom text wild b.pWildBookmark s.pTameText
  · exact Or.inl (hiff.mpr hmatch)
  · right
    refine ⟨b, hjump, ?_, hmatch⟩
    rcases hjump with ⟨t, hb, hfails, _, _⟩
    rw [Live, hb] at hlive
    rcases hlive with ⟨k, hk, hlength, hglob⟩
    have hattempt : k ≠ s.attempt b := by
      intro heq
      rw [heq, (hwalking.saved b hb).globAt_iff hwalking.wild_le
        hwalking.tame_le] at hglob
      exact hfails.not_globAt hwalking.wild_le hwalking.tame_le hglob
    have hbefore : k < s.pTameText := by
      by_contra hnot
      exact hmatch ⟨k, Nat.not_lt.mp hnot, hlength, hglob⟩
    exact ⟨k, by lia, hbefore, hglob⟩

theorem not_restarts_of_jumps {s : Walk} {b : Bookmark}
    (h : Jumps text wild s b) : ¬Restarts text wild s := by
  rintro ⟨b', t', hb', ⟨ht', _⟩, _, hdiffer⟩
  rcases h with ⟨t, hb, ⟨ht, _⟩, _, hsame⟩
  rw [hb] at hb'
  rw [ht] at ht'
  cases hb'
  cases ht'
  exact hdiffer hsame

theorem Jumps.not_star {s : Walk} {b : Bookmark}
    (h : Jumps text wild s b) : wild.read s.pWildText ≠ some star := by
  rcases h with ⟨t, _, ⟨_, w, hw, hplain, _⟩, _⟩
  rw [hw]
  intro hstar
  exact hplain (Option.some.inj hstar)

theorem Jumps.live {s : Walk} {b : Bookmark} (h : Jumps text wild s b)
    (hwalking : Walking text wild s)
    (hmatch : MatchFrom text wild b.pWildBookmark s.pTameText) :
    Live text wild s := by
  rcases h with ⟨t, hb, _⟩
  rw [Live, hb]
  apply matchFrom_mono _ hmatch
  rw [← (hwalking.saved b hb).add_attempt]
  exact Nat.le_add_right _ _

theorem GoesBack.next {s s' : Walk} (h : GoesBack text wild s)
    (hrestart : ¬Restarts text wild s) (hstep : Steps text wild s s') :
    wild.read s.pWildText ≠ some star ∧ GoesBack text wild s' := by
  cases h with
  | here h => exact absurd h hrestart
  | later hstar hstep' h =>
      rw [Steps] at hstep hstep'
      rw [hstep] at hstep'
      cases hstep'
      exact ⟨hstar, h⟩

/--
While every match that is not live will be found again, the result tells
whether there is one.
-/
theorem returns_iff_backed {s : Walk} {result : Bool}
    (hwalking : Walking text wild s)
    (hloses : forall s', Relation.ReflTransGen (Steps text wild) s s' ->
      Drops text wild s' -> GoesBack text wild s')
    (hkept : Backed text wild s -> Live text wild s ∨ GoesBack text wild s)
    (h : Returns text wild s result) :
    result = true ↔ Backed text wild s := by
  rcases h with ⟨fuel, hfuel⟩
  induction fuel generalizing s with
  | zero => cases hfuel
  | succ fuel ih =>
      rcases Returns.cases ⟨fuel + 1, hfuel⟩ with hlast | ⟨s', hstep⟩
      · rcases last_pass hlast hwalking with ⟨hiff, hrestart⟩
        rw [hiff]
        constructor
        · exact hwalking.backed_of_live
        · intro hbacked
          rcases hkept hbacked with hlive | hback
          · exact hlive
          · cases hback with
            | here h => exact absurd h hrestart
            | later _ hstep _ =>
                rw [Steps, hlast] at hstep
                cases hstep
      · rcases hstep.pass hwalking with ⟨hwalking', hchange, _⟩
        have hloses' : forall s'',
            Relation.ReflTransGen (Steps text wild) s' s'' ->
              Drops text wild s'' -> GoesBack text wild s'' :=
          fun s'' hlater => hloses s''
            (Relation.ReflTransGen.head hstep hlater)
        rw [walk, hstep] at hfuel
        cases hchange with
        | plain hplain hrestart hlive hbacked =>
            rw [← hbacked]
            apply ih hwalking' hloses' _ hfuel
            intro hbacked'
            rcases hkept (hbacked.mp hbacked') with h | h
            · exact Or.inl (hlive.mpr h)
            · exact Or.inr (h.next hrestart hstep).right
        | star hstar hlive hbacked =>
            have hiff : Live text wild s ↔ Backed text wild s := by
              constructor
              · exact hwalking.backed_of_live
              · intro h
                rcases hkept h with hhere | hback
                · exact hhere
                · exact absurd hstar
                    (hback.next (not_restarts_atStar hstar) hstep).left
            rw [← hiff, ← hbacked]
            apply ih hwalking' hloses' _ hfuel
            intro hbacked'
            exact Or.inl (hlive.mpr (hbacked.mp hbacked'))
        | jump b hjump hlive hbacked =>
            rw [← hbacked]
            apply ih hwalking' hloses' _ hfuel
            intro hbacked'
            have hrestart := not_restarts_of_jumps hjump
            rcases hkept (hbacked.mp hbacked') with h | h
            · rcases live_of_jump hwalking hjump hlive h with hstays | hdrops
              · exact Or.inl hstays
              · exact Or.inr ((hloses s Relation.ReflTransGen.refl
                  hdrops).next hrestart hstep).right
            · exact Or.inr (h.next hrestart hstep).right
        | restart hrestart hlive hbacked =>
            rw [← hbacked]
            apply ih hwalking' hloses' _ hfuel
            intro hbacked'
            exact Or.inl (hlive.mpr (hbacked.mp hbacked'))

/-- Without a match that is live or will be found again, the result is no. -/
theorem returns_false_of_lost {s : Walk} {result : Bool}
    (hwalking : Walking text wild s) (hlost : ¬Live text wild s)
    (hback : ¬GoesBack text wild s) (h : Returns text wild s result) :
    result = false := by
  rcases h with ⟨fuel, hfuel⟩
  induction fuel generalizing s with
  | zero => cases hfuel
  | succ fuel ih =>
      rcases Returns.cases ⟨fuel + 1, hfuel⟩ with hlast | ⟨s', hstep⟩
      · rw [← (last_pass hlast hwalking).left] at hlost
        exact Bool.eq_false_iff.mpr hlost
      · rcases hstep.pass hwalking with ⟨hwalking', hchange, _⟩
        have hreturns : Returns text wild s' result :=
          (returns_next hstep).mp ⟨fuel + 1, hfuel⟩
        rw [walk, hstep] at hfuel
        cases hchange with
        | plain hplain hrestart hlive _ =>
            rw [← hlive] at hlost
            apply ih hwalking' hlost _ hfuel
            intro hback'
            exact hback (GoesBack.later hplain hstep hback')
        | star _ _ hbacked =>
            rw [← hbacked] at hlost
            rw [← Bool.not_eq_true]
            intro htrue
            rw [htrue] at hreturns
            exact hlost (backed_of_returns_true hwalking' hreturns)
        | jump b hjump hlive _ =>
            have hplain := hjump.not_star
            apply ih hwalking' _ _ hfuel
            · intro hlive'
              exact hlost (hjump.live hwalking (hlive.mp hlive'))
            · intro hback'
              exact hback (GoesBack.later hplain hstep hback')
        | restart hrestart _ _ => exact absurd (GoesBack.here hrestart) hback

theorem Jumps.steps {s : Walk} {b : Bookmark} (h : Jumps text wild s b)
    (hwalking : Walking text wild s) :
    Steps text wild s
      ⟨s.pTameText + 1, b.pWildBookmark + 1, s.bookmark⟩ := by
  rcases h with ⟨t, hb, ⟨ht, w, hw, hplain, hdiffer⟩, hne, hread⟩
  rcases CString.read_of_lt (hwalking.saved b hb).wild_lt with
    ⟨first, hfirst, hzero, _⟩
  rw [hread] at hfirst
  cases hfirst
  rw [Steps, step_differs hw hplain ht hdiffer, hb, Option.elim_some,
    if_pos hne, hread, Option.bind_some, if_neg (not_ne_iff.mpr rfl),
    if_pos hzero]

theorem Drops.exists_next {s : Walk} (h : Drops text wild s)
    (hwalking : Walking text wild s) :
    exists s', Steps text wild s s' ∧ ¬Live text wild s' := by
  rcases h with ⟨b, hjump, _, hnone⟩
  refine ⟨_, hjump.steps hwalking, ?_⟩
  rcases hjump with ⟨_, hb, _⟩
  have hattempt : (⟨s.pTameText + 1, b.pWildBookmark + 1, some b⟩ :
      Walk).attempt b = s.pTameText := by
    change s.pTameText + 1 - (b.pWildBookmark + 1 - b.pWildBookmark) = _
    lia
  rw [hb]
  change ¬MatchFrom text wild b.pWildBookmark _
  rw [hattempt]
  exact hnone

theorem Drops.backed {s : Walk} (h : Drops text wild s)
    (hwalking : Walking text wild s) : Backed text wild s := by
  rcases h with ⟨b, hjump, ⟨k, hattempt, hbefore, hglob⟩, _⟩
  rcases hjump with ⟨t, hb, _⟩
  have hle := (hwalking.saved b hb).le_attempt
  have htame := hwalking.tame_le
  rw [Backed, hb]
  exact ⟨k, by lia, by lia, hglob⟩

theorem returns_of_reached {s : Walk} {result : Bool}
    (hreached : Reached text wild s)
    (h : Returns text wild Walk.start result) :
    Returns text wild s result := by
  induction hreached with
  | refl => exact h
  | tail _ hstep ih => exact (returns_next hstep).mp ih

theorem not_overruns_of_returns {s : Walk} {result : Bool}
    (h : Returns text wild s result) : ¬Overruns text wild s := by
  rcases h.cases with hlast | ⟨s', hstep⟩
  · exact not_overruns_of_step hlast
  · exact not_overruns_of_step hstep

theorem matchesGlob_of_losesNoMatch (hinside : StaysInside text wild)
    (hloses : LosesNoMatch text wild) : MatchesGlob text wild := by
  rcases exists_returns walking_start hinside with ⟨result, hresult⟩
  exact ⟨result, hresult, returns_iff_backed walking_start hloses
    (fun hbacked => Or.inl hbacked) hresult⟩

theorem losesNoMatch_of_matchesGlob (h : MatchesGlob text wild) :
    LosesNoMatch text wild := by
  intro s hreached hdrops
  by_contra hback
  rcases h with ⟨result, hresult, hiff⟩
  have hwalking := hreached.walking
  have hreturns := returns_of_reached hreached hresult
  have hmatches :=
    hiff.mpr (hreached.glob_of_backed (hdrops.backed hwalking))
  rcases hdrops.exists_next hwalking with ⟨s', hstep, hlost⟩
  have hplain : wild.read s.pWildText ≠ some star := by
    rcases hdrops with ⟨b, hjump, _⟩
    exact hjump.not_star
  have hfalse := returns_false_of_lost (hstep.pass hwalking).left hlost
    (fun hback' => hback (GoesBack.later hplain hstep hback'))
    ((returns_next hstep).mp hreturns)
  rw [hmatches] at hfalse
  cases hfalse

/--
The result is right exactly when no pass reads behind the text and every match
that a jump drops is found again.
-/
theorem matchesGlob_iff (text wild : CString) :
    MatchesGlob text wild ↔
      StaysInside text wild ∧ LosesNoMatch text wild := by
  constructor
  · intro h
    refine ⟨?_, losesNoMatch_of_matchesGlob h⟩
    rcases h with ⟨result, hresult, _⟩
    intro s hreached
    exact not_overruns_of_returns (returns_of_reached hreached hresult)
  · rintro ⟨hinside, hloses⟩
    exact matchesGlob_of_losesNoMatch hinside hloses

theorem walk_unique {fuel fuel' : Nat} {s : Walk} {outcome outcome' : Outcome}
    (h : walk text wild fuel s = some outcome)
    (h' : walk text wild fuel' s = some outcome') : outcome = outcome' := by
  induction fuel generalizing fuel' s with
  | zero => cases h
  | succ fuel ih =>
      cases fuel' with
      | zero => cases h'
      | succ fuel' =>
          rw [walk] at h h'
          cases hstep : step text wild s with
          | none =>
              rw [hstep] at h h'
              exact (Option.some.inj h).symm.trans (Option.some.inj h')
          | some next =>
              rw [hstep] at h h'
              cases next with
              | inl s' => exact ih h h'
              | inr result =>
                  exact (Option.some.inj h).symm.trans (Option.some.inj h')

/-- `"aaab"` is said not to match `"*a?b"`. -/
theorem not_matchesGlob : ¬forall text wild, MatchesGlob text wild := by
  intro hall
  rcases hall ⟨[0x61, 0x61, 0x61, 0x62], by decide⟩
      ⟨[0x2A, 0x61, 0x3F, 0x62], by decide⟩ with ⟨result, ⟨fuel, h⟩, hiff⟩
  have hglob : Glob star questionMark ([0x61] ++ [0x61, 0x61, 0x62])
      [star, 0x61, questionMark, 0x62] := by
    refine Glob.star (Glob.symbol (by decide) (Or.inr rfl)
      (Glob.symbol (by decide) (Or.inl rfl)
        (Glob.symbol (by decide) (Or.inr rfl) Glob.nil)))
  have hfalse : stringWildcardMatch ⟨[0x61, 0x61, 0x61, 0x62], by decide⟩
      ⟨[0x2A, 0x61, 0x3F, 0x62], by decide⟩ 10 =
        some (Outcome.returned false) := by
    decide +kernel
  have heq := walk_unique h hfalse
  rw [hiff.mpr hglob] at heq
  cases heq

end Match

end Core
end Rzu
