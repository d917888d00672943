import Mathlib.Data.List.GetD
import Mathlib.Order.Bounds.Basic
import Rzu.Auction.SimpleDiffWriter

/-!
# Times of the categories in a round

The estimates of the manager are the greatest times of the categories up to
one.  A round that begins and ends every category once, and whose auctions lie
in the windows of their categories, leaves the times that it was given.
-/

namespace Rzu
namespace Auction

namespace CategoryTimeManager

def timesOf (m : CategoryTimeManager) (category : Nat) : CategoryTime :=
  m.categoryTime.getD category CategoryTime.zero

theorem foldl_latest_isGreatest (times : List Int64) (first : Int64) :
    IsGreatest {t | t = first ∨ t ∈ times}
      (times.foldl (fun latest time => if time > latest then time else latest)
        first) := by
  induction times generalizing first with
  | nil =>
      refine ⟨Or.inl rfl, ?_⟩
      rintro t (heq | hmem)
      · rw [heq]
        exact Int64.le_refl _
      · cases hmem
  | cons time times ih =>
      rw [List.foldl_cons]
      rcases ih (if time > first then time else first) with ⟨hmem, hupper⟩
      have hlater := hupper (Or.inl rfl)
      have hboth : first ≤ (if time > first then time else first) ∧
          time ≤ (if time > first then time else first) := by
        split
        · rename_i hlt
          exact ⟨Int64.le_of_lt hlt, Int64.le_refl _⟩
        · rename_i hnot
          exact ⟨Int64.le_refl _, Int64.not_lt.mp hnot⟩
      constructor
      · rcases hmem with heq | hmem
        · rw [heq]
          split
          · exact Or.inr List.mem_cons_self
          · exact Or.inl rfl
        · exact Or.inr (List.mem_cons_of_mem _ hmem)
      · rintro t (heq | hmem)
        · rw [heq]
          exact Int64.le_trans hboth.left hlater
        · rcases List.mem_cons.mp hmem with heq | hmem
          · rw [heq]
            exact Int64.le_trans hboth.right hlater
          · exact hupper (Or.inr hmem)

theorem maxTime_isGreatest (times : List Int64) :
    IsGreatest {t | t = 0 ∨ t ∈ times} (maxTime times) :=
  foldl_latest_isGreatest times 0

section Latest

variable (m : CategoryTimeManager) {field : CategoryTime -> Int64}

/-- The estimates are this for one of the times. -/
def latestUpTo (field : CategoryTime -> Int64) (category : Nat) : Int64 :=
  maxTime ((m.categoryTime.take (category + 1)).map field).reverse

theorem mem_latest_iff (hzero : field CategoryTime.zero = 0) (category : Nat)
    (t : Int64) :
    (t = 0 ∨ t ∈ ((m.categoryTime.take (category + 1)).map field).reverse) ↔
      t = 0 ∨ exists i, i ≤ category ∧ t = field (m.timesOf i) := by
  constructor
  · rintro (heq | hmem)
    · exact Or.inl heq
    · rcases List.mem_map.mp (List.mem_reverse.mp hmem)
        with ⟨times, htimes, heq⟩
      rcases List.mem_take_iff_getElem.mp htimes with ⟨i, hi, hget⟩
      have hlt : i < category + 1 ∧ i < m.categoryTime.length := by omega
      refine Or.inr ⟨i, by omega, ?_⟩
      rw [timesOf, List.getD_eq_getElem _ _ hlt.right, hget, heq]
  · rintro (heq | ⟨i, hi, heq⟩)
    · exact Or.inl heq
    · by_cases hlt : i < m.categoryTime.length
      · refine Or.inr (List.mem_reverse.mpr (List.mem_map.mpr
          ⟨m.timesOf i, ?_, heq.symm⟩))
        apply List.mem_take_iff_getElem.mpr
        refine ⟨i, by omega, ?_⟩
        rw [timesOf, List.getD_eq_getElem _ _ hlt]
      · refine Or.inl ?_
        rw [heq, timesOf, List.getD_eq_default _ _ (Nat.le_of_not_lt hlt),
          hzero]

theorem latestUpTo_isGreatest (hzero : field CategoryTime.zero = 0)
    (category : Nat) :
    IsGreatest {t | t = 0 ∨ exists i, i ≤ category ∧ t = field (m.timesOf i)}
      (m.latestUpTo field category) := by
  have hgreatest := maxTime_isGreatest
    ((m.categoryTime.take (category + 1)).map field).reverse
  constructor
  · exact (m.mem_latest_iff hzero category _).mp hgreatest.left
  · intro t ht
    exact hgreatest.right ((m.mem_latest_iff hzero category t).mpr ht)

theorem latestUpTo_isGreatest_of_pos (hzero : field CategoryTime.zero = 0)
    {category : Nat} {times : Set Int64}
    (htimes : forall t, t ∈ times ↔
      exists i, i ≤ category ∧ t = field (m.timesOf i))
    (hpos : forall t, t ∈ times -> 0 < t) :
    IsGreatest times (m.latestUpTo field category) := by
  rcases m.latestUpTo_isGreatest hzero category with ⟨hmem, hupper⟩
  constructor
  · rcases hmem with hnone | hmem
    · have hfirst : field (m.timesOf 0) ∈ times :=
        (htimes _).mpr ⟨0, Nat.zero_le _, rfl⟩
      have hle := hupper (Or.inr ⟨0, Nat.zero_le _, rfl⟩)
      rw [hnone] at hle
      exact absurd (hpos _ hfirst) (Int64.not_lt.mpr hle)
    · exact (htimes _).mpr hmem
  · intro t ht
    exact hupper (Or.inr ((htimes t).mp ht))

theorem latestUpTo_congr {m' : CategoryTimeManager}
    (hzero : field CategoryTime.zero = 0) {category : Nat}
    (hsame : forall i, i ≤ category ->
      field (m.timesOf i) = field (m'.timesOf i)) :
    m.latestUpTo field category = m'.latestUpTo field category := by
  have hset : {t | t = 0 ∨ exists i, i ≤ category ∧
        t = field (m.timesOf i)} =
      {t | t = 0 ∨ exists i, i ≤ category ∧ t = field (m'.timesOf i)} := by
    ext t
    constructor
    · rintro (heq | ⟨i, hi, heq⟩)
      · exact Or.inl heq
      · exact Or.inr ⟨i, hi, heq.trans (hsame i hi)⟩
    · rintro (heq | ⟨i, hi, heq⟩)
      · exact Or.inl heq
      · exact Or.inr ⟨i, hi, heq.trans (hsame i hi).symm⟩
  have hgreatest := m.latestUpTo_isGreatest hzero category
  have hgreatest' := m'.latestUpTo_isGreatest hzero category
  rw [← hset] at hgreatest'
  exact Int64.le_antisymm (hgreatest'.right hgreatest.left)
    (hgreatest.right hgreatest'.left)

end Latest

/-!
## What the calls do to one category
-/

section Times

variable (m : CategoryTimeManager) (category i : Nat)

@[simp] theorem timesOf_reserve :
    (m.reserve category).timesOf i = m.timesOf i := by
  unfold timesOf reserve
  by_cases hlt : i < m.categoryTime.length
  · rw [List.getD_append _ _ _ _ hlt]
  · have hle : m.categoryTime.length ≤ i := Nat.le_of_not_lt hlt
    rw [List.getD_append_right _ _ _ _ hle, List.getD_eq_default _ _ hle]
    by_cases hnew : i - m.categoryTime.length <
        category + 1 - m.categoryTime.length
    · rw [List.getD_replicate _ hnew]
    · apply List.getD_eq_default
      rw [List.length_replicate]
      exact Nat.le_of_not_lt hnew

theorem timesOf_modifyCategoryTime (f : CategoryTime -> CategoryTime) :
    (m.modifyCategoryTime category f).timesOf i =
      if i = category then f (m.timesOf i) else m.timesOf i := by
  have hthere : category < (m.reserve category).categoryTime.length := by
    simp only [reserve, List.length_append, List.length_replicate]
    omega
  have hsame := m.timesOf_reserve category i
  unfold timesOf modifyCategoryTime at *
  simp only [List.getD_eq_getElem?_getD, List.getElem?_modify] at *
  by_cases heq : i = category
  · subst heq
    rw [if_pos rfl, ← hsame]
    rw [List.getElem?_eq_getElem hthere]
    simp
  · rw [if_neg heq, ← hsame]
    simp [Ne.symm heq]

theorem timesOf_resetCategoryTime_previousBegin :
    (m.resetCategoryTime.timesOf i).previousBegin =
      (m.timesOf i).beginTime := by
  unfold timesOf resetCategoryTime
  simp only [List.getD_eq_getElem?_getD, List.getElem?_map]
  cases m.categoryTime[i]? with
  | none => rfl
  | some times => rfl

theorem timesOf_create (categoryCount : Nat) :
    (create categoryCount).timesOf i = CategoryTime.zero := by
  unfold timesOf create
  by_cases hlt : i < categoryCount
  · exact List.getD_replicate _ hlt
  · apply List.getD_eq_default
    rw [List.length_replicate]
    exact Nat.le_of_not_lt hlt

end Times

/-- What a call does to the times. -/
def onCall (m : CategoryTimeManager) :
    Call SimpleSighting -> CategoryTimeManager
  | Call.category c => m.call c
  | Call.addAuctionInfo s =>
      m.adjustCategoryTimeRange s.category.toNat s.time.toInt64

theorem onCall_previousBegin (m : CategoryTimeManager)
    (c : Call SimpleSighting) (i : Nat) :
    ((m.onCall c).timesOf i).previousBegin =
      (m.timesOf i).previousBegin := by
  cases c with
  | category c =>
      cases c with
      | beginCategory category time =>
          refine (congrArg CategoryTime.previousBegin
            (m.timesOf_modifyCategoryTime category i _)).trans ?_
          split <;> rfl
      | endCategory category time =>
          refine (congrArg CategoryTime.previousBegin
            (m.timesOf_modifyCategoryTime category i _)).trans ?_
          split <;> rfl
  | addAuctionInfo s =>
      refine (congrArg CategoryTime.previousBegin
        (m.timesOf_modifyCategoryTime s.category.toNat i _)).trans ?_
      split
      · dsimp only
        split
        · split <;> rfl
        · split <;> rfl
      · rfl

theorem foldl_settles {calls : List (Call SimpleSighting)} {i : Nat}
    {field : CategoryTime -> Int64} {v : Int64}
    {puts : Call SimpleSighting -> Prop}
    (hkeep : forall (m : CategoryTimeManager) c, c ∈ calls ->
      field (m.timesOf i) = v -> field ((m.onCall c).timesOf i) = v)
    (hput : forall (m : CategoryTimeManager) c, c ∈ calls -> puts c ->
      field ((m.onCall c).timesOf i) = v)
    {m : CategoryTimeManager}
    (hv : field (m.timesOf i) = v ∨ exists c, c ∈ calls ∧ puts c) :
    field ((calls.foldl onCall m).timesOf i) = v := by
  induction calls generalizing m with
  | nil =>
      rcases hv with heq | ⟨c, hc, -⟩
      · exact heq
      · cases hc
  | cons c calls ih =>
      rw [List.foldl_cons]
      apply ih
      · intro m' c' hc'
        exact hkeep m' c' (List.mem_cons_of_mem _ hc')
      · intro m' c' hc'
        exact hput m' c' (List.mem_cons_of_mem _ hc')
      · rcases hv with heq | ⟨c', hc', hputs⟩
        · exact Or.inl (hkeep m c List.mem_cons_self heq)
        · rcases List.mem_cons.mp hc' with hfirst | hlater
          · rw [← hfirst]
            exact Or.inl (hput m c' hc' hputs)
          · exact Or.inr ⟨c', hlater, hputs⟩

section OneCategory

variable (m : CategoryTimeManager) {i : Nat}

theorem onCall_beginCategory_beginTime (category : Nat) (time : Int64) :
    ((m.onCall (Call.category (CategoryCall.beginCategory category
      time))).timesOf i).beginTime =
        if i = category then time else (m.timesOf i).beginTime := by
  refine (congrArg CategoryTime.beginTime
    (m.timesOf_modifyCategoryTime category i _)).trans ?_
  split <;> rfl

theorem onCall_endCategory_beginTime (category : Nat) (time : Int64) :
    ((m.onCall (Call.category (CategoryCall.endCategory category
      time))).timesOf i).beginTime = (m.timesOf i).beginTime := by
  refine (congrArg CategoryTime.beginTime
    (m.timesOf_modifyCategoryTime category i _)).trans ?_
  split <;> rfl

theorem onCall_beginCategory_endTime (category : Nat) (time : Int64) :
    ((m.onCall (Call.category (CategoryCall.beginCategory category
      time))).timesOf i).endTime = (m.timesOf i).endTime := by
  refine (congrArg CategoryTime.endTime
    (m.timesOf_modifyCategoryTime category i _)).trans ?_
  split <;> rfl

theorem onCall_endCategory_endTime (category : Nat) (time : Int64) :
    ((m.onCall (Call.category (CategoryCall.endCategory category
      time))).timesOf i).endTime =
        if i = category then time else (m.timesOf i).endTime := by
  refine (congrArg CategoryTime.endTime
    (m.timesOf_modifyCategoryTime category i _)).trans ?_
  split <;> rfl

theorem onCall_addAuctionInfo_beginTime {s : SimpleSighting}
    (hpos : 0 < (m.timesOf i).beginTime)
    (hwindow : s.category.toNat = i ->
      (m.timesOf i).beginTime ≤ s.time.toInt64) :
    ((m.onCall (Call.addAuctionInfo s)).timesOf i).beginTime =
      (m.timesOf i).beginTime := by
  refine (congrArg CategoryTime.beginTime
    (m.timesOf_modifyCategoryTime s.category.toNat i _)).trans ?_
  split
  · rename_i heq
    have hkeep : ¬((m.timesOf i).beginTime = 0 ∨
        (m.timesOf i).beginTime > s.time.toInt64) := by
      rintro (hzero | hlt)
      · rw [hzero] at hpos
        exact Int64.lt_irrefl hpos
      · exact Int64.not_lt.mpr (hwindow heq.symm) hlt
    dsimp only
    rw [if_neg hkeep]
    split <;> rfl
  · rfl

theorem onCall_addAuctionInfo_endTime {s : SimpleSighting}
    (hwindow : s.category.toNat = i ->
      s.time.toInt64 ≤ (m.timesOf i).endTime) :
    ((m.onCall (Call.addAuctionInfo s)).timesOf i).endTime =
      (m.timesOf i).endTime := by
  refine (congrArg CategoryTime.endTime
    (m.timesOf_modifyCategoryTime s.category.toNat i _)).trans ?_
  split
  · rename_i heq
    have hkeep : ¬(m.timesOf i).endTime < s.time.toInt64 :=
      Int64.not_lt.mpr (hwindow heq.symm)
    dsimp only
    split
    · rfl
    · rfl
  · rfl

end OneCategory

theorem foldl_beginTime {calls : List (Call SimpleSighting)} {i : Nat}
    {b : Int64} (hpos : 0 < b)
    (honce : forall t,
      Call.category (CategoryCall.beginCategory i t) ∈ calls -> t = b)
    (hwindow : forall s, Call.addAuctionInfo s ∈ calls ->
      s.category.toNat = i -> b ≤ s.time.toInt64)
    (hmem : Call.category (CategoryCall.beginCategory i b) ∈ calls)
    (m : CategoryTimeManager) :
    ((calls.foldl onCall m).timesOf i).beginTime = b := by
  apply @foldl_settles calls i CategoryTime.beginTime b
    (· = Call.category (CategoryCall.beginCategory i b))
  · intro m c hc heq
    cases c with
    | category c =>
        cases c with
        | beginCategory category time =>
            rw [onCall_beginCategory_beginTime]
            split
            · rename_i hsame
              subst hsame
              exact honce time hc
            · exact heq
        | endCategory category time =>
            rw [onCall_endCategory_beginTime]
            exact heq
    | addAuctionInfo s =>
        rw [m.onCall_addAuctionInfo_beginTime (by rw [heq]; exact hpos)
          (by rw [heq]; exact hwindow s hc)]
        exact heq
  · rintro m c - rfl
    rw [onCall_beginCategory_beginTime, if_pos rfl]
  · exact Or.inr ⟨_, hmem, rfl⟩

theorem foldl_endTime {calls : List (Call SimpleSighting)} {i : Nat}
    {e : Int64}
    (honce : forall t,
      Call.category (CategoryCall.endCategory i t) ∈ calls -> t = e)
    (hwindow : forall s, Call.addAuctionInfo s ∈ calls ->
      s.category.toNat = i -> s.time.toInt64 ≤ e)
    (hmem : Call.category (CategoryCall.endCategory i e) ∈ calls)
    (m : CategoryTimeManager) :
    ((calls.foldl onCall m).timesOf i).endTime = e := by
  apply @foldl_settles calls i CategoryTime.endTime e
    (· = Call.category (CategoryCall.endCategory i e))
  · intro m c hc heq
    cases c with
    | category c =>
        cases c with
        | beginCategory category time =>
            rw [onCall_beginCategory_endTime]
            exact heq
        | endCategory category time =>
            rw [onCall_endCategory_endTime]
            split
            · rename_i hsame
              subst hsame
              exact honce time hc
            · exact heq
    | addAuctionInfo s =>
        rw [m.onCall_addAuctionInfo_endTime (by rw [heq]; exact hwindow s hc)]
        exact heq
  · rintro m c - rfl
    rw [onCall_endCategory_endTime, if_pos rfl]
  · exact Or.inr ⟨_, hmem, rfl⟩

theorem foldl_previousBegin (calls : List (Call SimpleSighting))
    (m : CategoryTimeManager) (i : Nat) :
    ((calls.foldl onCall m).timesOf i).previousBegin =
      (m.timesOf i).previousBegin := by
  induction calls generalizing m with
  | nil => rfl
  | cons c calls ih =>
      exact (ih (m.onCall c)).trans (m.onCall_previousBegin c i)

end CategoryTimeManager

/-!
## Rounds in order
-/

def CategoryCall.begun? : CategoryCall -> Option Nat
  | CategoryCall.beginCategory category _ => some category
  | CategoryCall.endCategory _ _ => none

def CategoryCall.ended? : CategoryCall -> Option Nat
  | CategoryCall.beginCategory _ _ => none
  | CategoryCall.endCategory category _ => some category

def CategoryCall.time : CategoryCall -> Int64
  | CategoryCall.beginCategory _ time => time
  | CategoryCall.endCategory _ time => time

namespace Round

def allCalls (r : Round SimpleSighting) : List (Call SimpleSighting) :=
  r.before.map Call.category ++ r.calls

def categoryCalls (r : Round SimpleSighting) : List CategoryCall :=
  r.before ++ r.calls.filterMap fun
    | Call.category c => some c
    | Call.addAuctionInfo _ => none

def Begins (r : Round SimpleSighting) (category : Nat) (time : Int64) : Prop :=
  CategoryCall.beginCategory category time ∈ r.categoryCalls

def Ends (r : Round SimpleSighting) (category : Nat) (time : Int64) : Prop :=
  CategoryCall.endCategory category time ∈ r.categoryCalls

/--
Every category begins and ends once, in the order of the indexes and of time,
and the auctions lie in the windows of their categories.
-/
structure Orderly (categoryCount : Nat) (r : Round SimpleSighting) : Prop where
  begins : r.categoryCalls.filterMap CategoryCall.begun? =
    List.range categoryCount
  ends : r.categoryCalls.filterMap CategoryCall.ended? =
    List.range categoryCount
  sorted : (r.categoryCalls.map CategoryCall.time).Pairwise (· ≤ ·)
  window : forall s, s ∈ r.infos -> exists b e,
    r.Begins s.category.toNat b ∧ r.Ends s.category.toNat e ∧
      b ≤ s.time.toInt64 ∧ s.time.toInt64 ≤ e

/-- A time of zero stands for none. -/
def Timed (r : Round SimpleSighting) : Prop :=
  forall c, c ∈ r.categoryCalls -> 0 < c.time

variable {r : Round SimpleSighting} {categoryCount : Nat}

theorem mem_allCalls_category {c : CategoryCall} :
    Call.category c ∈ r.allCalls ↔ c ∈ r.categoryCalls := by
  rw [allCalls, categoryCalls, List.mem_append, List.mem_append,
    List.mem_filterMap]
  constructor
  · rintro (hbefore | hcalls)
    · rcases List.mem_map.mp hbefore with ⟨c', hc', heq⟩
      cases heq
      exact Or.inl hc'
    · exact Or.inr ⟨_, hcalls, rfl⟩
  · rintro (hbefore | ⟨c', hc', heq⟩)
    · exact Or.inl (List.mem_map_of_mem hbefore)
    · cases c' with
      | category c' =>
          cases heq
          exact Or.inr hc'
      | addAuctionInfo s => cases heq

theorem mem_allCalls_addAuctionInfo {s : SimpleSighting} :
    Call.addAuctionInfo s ∈ r.allCalls ↔ s ∈ r.infos := by
  rw [allCalls, List.mem_append, Round.mem_infos]
  constructor
  · rintro (hbefore | hcalls)
    · rcases List.mem_map.mp hbefore with ⟨c, -, heq⟩
      cases heq
    · exact hcalls
  · exact Or.inr

theorem eq_of_filterMap_range {α : Type} {calls : List α}
    {index : α -> Option Nat} {n i : Nat}
    (h : calls.filterMap index = List.range n) {c c' : α}
    (hc : c ∈ calls) (hi : index c = some i) (hc' : c' ∈ calls)
    (hi' : index c' = some i) : c = c' := by
  have hnodup : (calls.filterMap index).Nodup := by
    rw [h]
    exact List.nodup_range
  clear h
  induction calls with
  | nil => cases hc
  | cons first rest ih =>
      have hlater : forall {x}, x ∈ rest -> index x = some i ->
          index first ≠ some i := by
        intro x hx hxi hfirst
        rw [List.filterMap_cons_some hfirst] at hnodup
        exact (List.nodup_cons.mp hnodup).left
          (List.mem_filterMap.mpr ⟨x, hx, hxi⟩)
      have hrest : (rest.filterMap index).Nodup := by
        cases hfirst : index first with
        | none =>
            rw [List.filterMap_cons_none hfirst] at hnodup
            exact hnodup
        | some k =>
            rw [List.filterMap_cons_some hfirst] at hnodup
            exact (List.nodup_cons.mp hnodup).right
      rcases List.mem_cons.mp hc with heq | hmem
      · rcases List.mem_cons.mp hc' with heq' | hmem'
        · exact heq.trans heq'.symm
        · rw [heq] at hi
          exact absurd hi (hlater hmem' hi')
      · rcases List.mem_cons.mp hc' with heq' | hmem'
        · rw [heq'] at hi'
          exact absurd hi' (hlater hmem hi)
        · exact ih hmem hmem' hrest

namespace Orderly

variable (h : r.Orderly categoryCount)
include h

theorem begins_once {i : Nat} {t t' : Int64} (ht : r.Begins i t)
    (ht' : r.Begins i t') : t = t' := by
  have heq := eq_of_filterMap_range h.begins ht rfl ht' rfl
  cases heq
  rfl

theorem ends_once {i : Nat} {t t' : Int64} (ht : r.Ends i t)
    (ht' : r.Ends i t') : t = t' := by
  have heq := eq_of_filterMap_range h.ends ht rfl ht' rfl
  cases heq
  rfl

theorem exists_begins {i : Nat} (hi : i < categoryCount) :
    exists t, r.Begins i t := by
  have hmem : i ∈ r.categoryCalls.filterMap CategoryCall.begun? := by
    rw [h.begins]
    exact List.mem_range.mpr hi
  rcases List.mem_filterMap.mp hmem with ⟨c, hc, heq⟩
  cases c with
  | beginCategory category time =>
      cases heq
      exact ⟨time, hc⟩
  | endCategory category time => cases heq

theorem exists_ends {i : Nat} (hi : i < categoryCount) :
    exists t, r.Ends i t := by
  have hmem : i ∈ r.categoryCalls.filterMap CategoryCall.ended? := by
    rw [h.ends]
    exact List.mem_range.mpr hi
  rcases List.mem_filterMap.mp hmem with ⟨c, hc, heq⟩
  cases c with
  | beginCategory category time => cases heq
  | endCategory category time =>
      cases heq
      exact ⟨time, hc⟩

theorem lt_of_begins {i : Nat} {t : Int64} (ht : r.Begins i t) :
    i < categoryCount := by
  have hmem : i ∈ r.categoryCalls.filterMap CategoryCall.begun? :=
    List.mem_filterMap.mpr ⟨_, ht, rfl⟩
  rw [h.begins] at hmem
  exact List.mem_range.mp hmem

theorem beginTime (htimed : r.Timed) (m : CategoryTimeManager) {i : Nat}
    {b : Int64} (hb : r.Begins i b) :
    ((r.allCalls.foldl CategoryTimeManager.onCall m).timesOf i).beginTime =
      b := by
  apply CategoryTimeManager.foldl_beginTime (htimed _ hb)
  · intro t ht
    exact h.begins_once (mem_allCalls_category.mp ht) hb
  · intro s hs heq
    rcases h.window s (mem_allCalls_addAuctionInfo.mp hs)
      with ⟨b', e', hb', -, hle, -⟩
    rw [heq] at hb'
    rw [h.begins_once hb hb']
    exact hle
  · exact mem_allCalls_category.mpr hb

theorem endTime (m : CategoryTimeManager) {i : Nat} {e : Int64}
    (he : r.Ends i e) :
    ((r.allCalls.foldl CategoryTimeManager.onCall m).timesOf i).endTime =
      e := by
  apply CategoryTimeManager.foldl_endTime
  · intro t ht
    exact h.ends_once (mem_allCalls_category.mp ht) he
  · intro s hs heq
    rcases h.window s (mem_allCalls_addAuctionInfo.mp hs)
      with ⟨b', e', -, he', -, hle⟩
    rw [heq] at he'
    rw [h.ends_once he he']
    exact hle
  · exact mem_allCalls_category.mpr he

end Orderly

end Round

end Auction
end Rzu
