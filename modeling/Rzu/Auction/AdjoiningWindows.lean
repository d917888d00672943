import Mathlib.Data.List.Induction
import Rzu.Auction.CategoryTimes

/-!
# Windows that adjoin

The simple writer gives every auction a window of time in each round.  The next
window of an auction begins where the last one ended, a new auction begins with
its category in the last round, and a deleted one ends with its category.
-/

namespace Rzu
namespace Auction

open Library

/-!
## One auction
-/

namespace AuctionSimpleData

/-- Besides the status, the data and the end of the window. -/
structure SameBegin (a b : AuctionSimpleData) : Prop where
  timeMin : b.timeMin = a.timeMin
  category : b.category = a.category

/-- The auction was seen in the round, and its window ends then. -/
structure SeenIn (r : Round SimpleSighting) (a : AuctionSimpleData) :
    Prop where
  time : exists s, s ∈ r.infos ∧ a.timeMax = s.time
  processed : a.processStatus ≠ ProcessStatus.notProcessed
  live : a.processStatus ≠ ProcessStatus.deleted

variable {a : AuctionSimpleData} {r : Round SimpleSighting}

theorem parseData_fields (a : AuctionSimpleData) (epic : UInt32)
    (data : List UInt8) :
    SameBegin a (a.parseData epic data).2 ∧
      (a.parseData epic data).2.timeMax = a.timeMax ∧
      (a.parseData epic data).2.processStatus = a.processStatus := by
  rw [parseData]
  split
  · exact ⟨⟨rfl, rfl⟩, rfl, rfl⟩
  · exact ⟨⟨rfl, rfl⟩, rfl, rfl⟩

theorem setStatus_sameBegin (a : AuctionSimpleData) (status : ProcessStatus)
    (time : UInt64) : SameBegin a (a.setStatus status time) := by
  rw [setStatus]
  split
  · exact ⟨rfl, rfl⟩
  · exact ⟨rfl, rfl⟩

theorem doUpdate_sameBegin (a : AuctionSimpleData) (timeMax : UInt64)
    (epic : UInt32) (data : List UInt8) :
    SameBegin a (a.doUpdate timeMax epic data) := by
  rcases (a.parseData_fields epic data).left with ⟨hmin, hcategory⟩
  have hset := fun status =>
    (a.parseData epic data).2.setStatus_sameBegin status timeMax
  simp only [doUpdate]
  split
  · exact ⟨(hset _).timeMin.trans hmin, (hset _).category.trans hcategory⟩
  · split
    · exact ⟨(hset _).timeMin.trans hmin, (hset _).category.trans hcategory⟩
    · exact ⟨hmin, hcategory⟩

theorem doUpdate_seen {s : SimpleSighting} (hs : s ∈ r.infos)
    (h : a.SeenIn r ∨ a.processStatus = ProcessStatus.notProcessed) :
    (a.doUpdate s.time s.epic s.data).SeenIn r := by
  rcases a.parseData_fields s.epic s.data with ⟨-, hmax, hstatus⟩
  simp only [doUpdate]
  split
  · exact ⟨⟨s, hs, rfl⟩, by simp [setStatus], by simp [setStatus]⟩
  · rename_i hsame
    split
    · exact ⟨⟨s, hs, rfl⟩, by simp [setStatus], by simp [setStatus]⟩
    · rename_i hkeep
      -- an auction that was not processed yet does not come here
      have hseen : a.SeenIn r := by
        rcases h with hseen | hwaiting
        · exact hseen
        · rw [hstatus, hwaiting] at hsame hkeep
          simp at hsame hkeep
          rw [hsame] at hkeep
          cases hkeep
      rcases hseen.time with ⟨s', hs', htime⟩
      refine ⟨⟨s', hs', hmax.trans htime⟩, ?_, ?_⟩
      · rw [hstatus]
        exact hseen.processed
      · rw [hstatus]
        exact hseen.live

theorem create_seen {s : SimpleSighting} (hs : s ∈ r.infos)
    (memory uid : UInt32) (timeMin : UInt64) :
    (create memory uid timeMin s.time s.category s.epic s.data).SeenIn r ∧
      (create memory uid timeMin s.time s.category s.epic s.data).timeMin =
        timeMin ∧
      (create memory uid timeMin s.time s.category s.epic s.data).category =
        s.category := by
  have hfields := parseData_fields
    ⟨uid, s.category, timeMin, s.time, ProcessStatus.added, memory, []⟩
    s.epic s.data
  rcases hfields with ⟨⟨hmin, hcategory⟩, hmax, hstatus⟩
  refine ⟨⟨⟨s, hs, hmax⟩, ?_, ?_⟩, hmin, hcategory⟩
  · rw [create, hstatus]
    exact fun heq => ProcessStatus.noConfusion heq
  · rw [create, hstatus]
    exact fun heq => ProcessStatus.noConfusion heq

end AuctionSimpleData

/-!
## One auction in a round
-/

/--
What a round knows of an auction, by what the last round has left of it.
Before its first sighting it waits with the end of its last window; a new one
begins with its category.
-/
inductive Windowed (begins : UInt16 -> UInt64) (r : Round SimpleSighting) :
    Option AuctionSimpleData -> Option AuctionSimpleData -> Prop where
  | absent : Windowed begins r none none
  | fresh {a : AuctionSimpleData} {s : SimpleSighting} (hs : s ∈ r.infos)
      (hcategory : a.category = s.category)
      (hmin : a.timeMin = begins a.category) (hseen : a.SeenIn r) :
      Windowed begins r none (some a)
  | waiting {a old : AuctionSimpleData} (hcategory : a.category = old.category)
      (hmin : a.timeMin = old.timeMax)
      (hstatus : a.processStatus =
        AuctionSimpleData.ProcessStatus.notProcessed) :
      Windowed begins r (some old) (some a)
  | seen {a old : AuctionSimpleData} (hcategory : a.category = old.category)
      (hmin : a.timeMin = old.timeMax) (hseen : a.SeenIn r) :
      Windowed begins r (some old) (some a)

/-- What the end of a round makes of it. -/
inductive Ended (begins ends : UInt16 -> UInt64) (r : Round SimpleSighting) :
    Option AuctionSimpleData -> AuctionSimpleData -> Prop where
  | fresh {a : AuctionSimpleData} {s : SimpleSighting} (hs : s ∈ r.infos)
      (hcategory : a.category = s.category)
      (hmin : a.timeMin = begins a.category) (hseen : a.SeenIn r) :
      Ended begins ends r none a
  | seen {a old : AuctionSimpleData} (hcategory : a.category = old.category)
      (hmin : a.timeMin = old.timeMax) (hseen : a.SeenIn r) :
      Ended begins ends r (some old) a
  | deleted {a old : AuctionSimpleData} (hcategory : a.category = old.category)
      (hmin : a.timeMin = old.timeMax) (hmax : a.timeMax = ends a.category)
      (hstatus : a.processStatus = AuctionSimpleData.ProcessStatus.deleted) :
      Ended begins ends r (some old) a

section OneRound

variable {begins ends : UInt16 -> UInt64} {r : Round SimpleSighting}
  {old view : Option AuctionSimpleData}

theorem Windowed.doUpdate (h : Windowed begins r old view)
    {s : SimpleSighting} (hs : s ∈ r.infos) {a : AuctionSimpleData}
    (ha : view = some a) :
    Windowed begins r old (some (a.doUpdate s.time s.epic s.data)) := by
  have hsame := a.doUpdate_sameBegin s.time s.epic s.data
  cases h with
  | absent => cases ha
  | @fresh b first hfirst hcategory hmin hseen =>
      cases ha
      refine Windowed.fresh hfirst (hsame.category.trans hcategory) ?_
        (AuctionSimpleData.doUpdate_seen hs (Or.inl hseen))
      rw [hsame.timeMin, hsame.category]
      exact hmin
  | waiting hcategory hmin hstatus =>
      cases ha
      exact Windowed.seen (hsame.category.trans hcategory)
        (hsame.timeMin.trans hmin)
        (AuctionSimpleData.doUpdate_seen hs (Or.inr hstatus))
  | seen hcategory hmin hseen =>
      cases ha
      exact Windowed.seen (hsame.category.trans hcategory)
        (hsame.timeMin.trans hmin)
        (AuctionSimpleData.doUpdate_seen hs (Or.inl hseen))

theorem windowed_begin (view : Option AuctionSimpleData) :
    Windowed begins r (view.filter fun a => !a.isInFinalState)
      ((view.filter fun a => !a.isInFinalState).map
        AuctionSimpleData.beginProcess) := by
  cases hlive : view.filter fun a => !a.isInFinalState with
  | none => exact Windowed.absent
  | some a =>
      have hnot : a.processStatus ≠
          AuctionSimpleData.ProcessStatus.deleted := by
        have hfilter := (Option.filter_eq_some_iff.mp hlive).right
        simpa [AuctionSimpleData.isInFinalState] using hfilter
      rw [Option.map_some, AuctionSimpleData.beginProcess, if_neg hnot]
      exact Windowed.waiting rfl rfl rfl

theorem Windowed.endProcess (h : Windowed begins r old view)
    {a : AuctionSimpleData} (ha : view = some a) :
    Ended begins ends r old (a.endProcess (ends a.category)) := by
  have hkept : a.SeenIn r -> a.endProcess (ends a.category) = a := by
    intro hseen
    rw [AuctionSimpleData.endProcess, if_neg hseen.processed]
  cases h with
  | absent => cases ha
  | fresh hs hcategory hmin hseen =>
      cases ha
      rw [hkept hseen]
      exact Ended.fresh hs hcategory hmin hseen
  | waiting hcategory hmin hstatus =>
      cases ha
      have hsame := a.setStatus_sameBegin
        AuctionSimpleData.ProcessStatus.deleted (ends a.category)
      rw [AuctionSimpleData.endProcess, if_pos hstatus]
      refine Ended.deleted (hsame.category.trans hcategory)
        (hsame.timeMin.trans hmin) ?_ ?_
      · rw [hsame.category]
        simp [AuctionSimpleData.setStatus]
      · simp [AuctionSimpleData.setStatus]
  | seen hcategory hmin hseen =>
      cases ha
      rw [hkept hseen]
      exact Ended.seen hcategory hmin hseen

end OneRound

/-!
## One round of the writer
-/

namespace AuctionSimpleDiffWriter

variable {w : AuctionSimpleDiffWriter} {r : Round SimpleSighting}
  (memory : Memory)

theorem call_categoryTimeManager (w : AuctionSimpleDiffWriter)
    (c : Call SimpleSighting) :
    (w.call memory c).categoryTimeManager =
      w.categoryTimeManager.onCall c := by
  cases c with
  | category c => rfl
  | addAuctionInfo s =>
      simp only [call, addAuctionInfo]
      split
      · rfl
      · rfl

theorem foldl_call_categoryTimeManager (calls : List (Call SimpleSighting))
    (w : AuctionSimpleDiffWriter) :
    (calls.foldl (call memory) w).categoryTimeManager =
      calls.foldl CategoryTimeManager.onCall w.categoryTimeManager := by
  induction calls generalizing w with
  | nil => rfl
  | cons c calls ih =>
      rw [List.foldl_cons, List.foldl_cons, ih, call_categoryTimeManager]

theorem foldl_category_eq (calls : List CategoryCall)
    (w : AuctionSimpleDiffWriter) :
    calls.foldl category w =
      { w with categoryTimeManager :=
        calls.foldl CategoryTimeManager.call w.categoryTimeManager } := by
  induction calls generalizing w with
  | nil => rfl
  | cons c calls ih => exact ih (w.category c)

def inRound (w : AuctionSimpleDiffWriter) (before : List CategoryCall)
    (calls : List (Call SimpleSighting)) : AuctionSimpleDiffWriter :=
  calls.foldl (call memory) (beginProcess (before.foldl category w))

theorem inRound_categoryTimeManager (w : AuctionSimpleDiffWriter)
    (before : List CategoryCall) (calls : List (Call SimpleSighting)) :
    (w.inRound memory before calls).categoryTimeManager =
      (before.map Call.category ++ calls).foldl CategoryTimeManager.onCall
        w.categoryTimeManager := by
  rw [inRound, foldl_call_categoryTimeManager, List.foldl_append,
    List.foldl_map, foldl_category_eq]
  rfl

/-- The begin in the last round that a new auction of a category gets. -/
def previousBegin (w : AuctionSimpleDiffWriter) (category : UInt16) :
    UInt64 :=
  (w.categoryTimeManager.getEstimatedPreviousCategoryBeginTime
    category.toNat).toUInt64

theorem previousBegin_inRound (w : AuctionSimpleDiffWriter)
    (before : List CategoryCall) (calls : List (Call SimpleSighting))
    (category : UInt16) :
    (w.inRound memory before calls).previousBegin category =
      w.previousBegin category := by
  have hsame : forall i, i ≤ category.toNat ->
      (((w.inRound memory before calls).categoryTimeManager).timesOf
        i).previousBegin =
          (w.categoryTimeManager.timesOf i).previousBegin := by
    intro i hi
    rw [inRound_categoryTimeManager]
    exact CategoryTimeManager.foldl_previousBegin _ _ _
  exact congrArg Int64.toUInt64
    (CategoryTimeManager.latestUpTo_congr _ rfl hsame)

/-- The auctions that go on from one round to the next. -/
def held (w : AuctionSimpleDiffWriter) (uid : UInt32) :
    Option AuctionSimpleData :=
  (w.getAuction uid).filter fun a => !a.isInFinalState

theorem getAuction_begun (w : AuctionSimpleDiffWriter)
    (before : List CategoryCall) (uid : UInt32) :
    (w.inRound memory before []).getAuction uid =
      (w.held uid).map AuctionSimpleData.beginProcess := by
  rw [inRound, foldl_category_eq]
  exact AuctionGenericWriter.getAuction_beginProcess _ uid _

/-- The calls keep the windows as they should be. -/
theorem inRound_windowed (w : AuctionSimpleDiffWriter)
    {calls : List (Call SimpleSighting)}
    (hcalls : forall s, Call.addAuctionInfo s ∈ calls -> s ∈ r.infos)
    (before : List CategoryCall) (uid : UInt32) :
    Windowed w.previousBegin r (w.held uid)
      ((w.inRound memory before calls).getAuction uid) := by
  induction calls using List.reverseRecOn with
  | nil =>
      rw [getAuction_begun]
      exact windowed_begin (w.getAuction uid)
  | append_singleton calls c ih =>
      have hbefore := ih fun s hs =>
        hcalls s (List.mem_append_left _ hs)
      have hbegin := w.previousBegin_inRound memory before calls
      have hfold : w.inRound memory before (calls ++ [c]) =
          (w.inRound memory before calls).call memory c := by
        rw [inRound, List.foldl_append]
        rfl
      rw [hfold]
      generalize w.inRound memory before calls = w' at hbefore hbegin
      cases c with
      | category c => exact hbefore
      | addAuctionInfo s =>
          have hs := hcalls s (List.mem_append_right _ List.mem_cons_self)
          change Windowed _ r _ ((w'.addAuctionInfo memory s).getAuction uid)
          unfold addAuctionInfo
          cases hfound : w'.getAuction s.uid with
          | some a =>
              dsimp only
              change Windowed _ r _ ((w'.modifyAuction s.uid
                (AuctionSimpleData.onUpdate s.time s.epic s.data)).getAuction
                  uid)
              rw [AuctionGenericWriter.getAuction_modifyAuction]
              split
              · rename_i hsame
                rw [hsame] at hbefore ⊢
                rw [hfound, Option.map_some]
                exact hbefore.doUpdate hs hfound
              · exact hbefore
          | none =>
              dsimp only
              have hcreated := AuctionSimpleData.create_seen hs (memory s.uid)
                s.uid (w'.previousBegin s.category)
              have huid := AuctionSimpleData.create_uid (memory s.uid) s.uid
                (w'.previousBegin s.category) s.time s.category s.epic s.data
              rw [hbegin] at hcreated huid
              change Windowed _ r _ ((w'.addAuction
                (AuctionSimpleData.create (memory s.uid) s.uid
                  (w'.previousBegin s.category) s.time s.category s.epic
                    s.data)).getAuction uid)
              rw [hbegin]
              generalize AuctionSimpleData.create (memory s.uid) s.uid
                (w.previousBegin s.category) s.time s.category s.epic s.data =
                  created at hcreated huid
              rcases hcreated with ⟨hseen, hmin, hcategory⟩
              rw [AuctionGenericWriter.getAuction_addAuction]
              change Windowed _ r _ ((w'.getAuction uid).or
                (if created.uid = uid then some created else none))
              rw [huid]
              by_cases hsame : s.uid = uid
              · rw [if_pos hsame]
                rw [← hsame, hfound] at hbefore ⊢
                cases hheld : w.held s.uid with
                | some old =>
                    rw [hheld] at hbefore
                    cases hbefore
                | none =>
                    refine Windowed.fresh hs hcategory ?_ hseen
                    rw [hmin, hcategory]
              · rw [if_neg hsame, Option.or_none]
                exact hbefore

/-- The end that an auction of a category gets in this round. -/
def categoryEnd (w : AuctionSimpleDiffWriter) (r : Round SimpleSighting)
    (category : UInt16) : UInt64 :=
  ((w.inRound memory r.before
    r.calls).categoryTimeManager.getEstimatedCategoryEndTime
      category.toNat).toUInt64

theorem timesOf_foldl_reserve (auctions : List AuctionSimpleData)
    (m : CategoryTimeManager) (i : Nat) :
    (auctions.foldl (fun m auction => m.reserve auction.category.toNat)
      m).timesOf i = m.timesOf i := by
  induction auctions generalizing m with
  | nil => rfl
  | cons a auctions ih => exact (ih _).trans (m.timesOf_reserve _ i)

theorem round_ended (w : AuctionSimpleDiffWriter)
    (r : Round SimpleSighting) {uid : UInt32} {a : AuctionSimpleData}
    (ha : (w.round memory r).getAuction uid = some a) :
    Ended w.previousBegin (w.categoryEnd memory r) r (w.held uid) a := by
  have hcalls : forall s, Call.addAuctionInfo s ∈ r.calls -> s ∈ r.infos :=
    fun s hs => Round.mem_infos.mpr hs
  have hwindowed := w.inRound_windowed memory hcalls r.before uid
  have hends : forall category : UInt16,
      (((w.inRound memory r.before r.calls).auctions.elements.foldl
        (fun m auction => m.reserve auction.category.toNat)
          (w.inRound memory r.before
            r.calls).categoryTimeManager).getEstimatedCategoryEndTime
              category.toNat).toUInt64 = w.categoryEnd memory r category := by
    intro category
    apply congrArg Int64.toUInt64
    apply CategoryTimeManager.latestUpTo_congr _ rfl
    intro i hi
    rw [timesOf_foldl_reserve]
  change (AuctionGenericWriter.endProcess _ _).getAuction uid = some a at ha
  rw [AuctionGenericWriter.getAuction_endProcess] at ha
  rcases Option.map_eq_some_iff.mp ha with ⟨b, hb, heq⟩
  have hended := @Windowed.endProcess _ (w.categoryEnd memory r) _ _ _
    hwindowed _ hb
  rw [← hends] at hended
  rw [← heq]
  exact hended

theorem round_timesOf (w : AuctionSimpleDiffWriter)
    (r : Round SimpleSighting) (i : Nat) :
    ((w.round memory r).categoryTimeManager.timesOf i).previousBegin =
      ((r.allCalls.foldl CategoryTimeManager.onCall
        w.categoryTimeManager).timesOf i).beginTime := by
  refine (CategoryTimeManager.timesOf_resetCategoryTime_previousBegin _
    i).trans ?_
  refine (congrArg CategoryTime.beginTime
    (timesOf_foldl_reserve _ _ i)).trans ?_
  rw [Round.allCalls, ← inRound_categoryTimeManager memory]
  rfl

end AuctionSimpleDiffWriter

/-!
## Histories
-/

/-- The greatest begin up to a category, where nothing was before the first. -/
def LatestBegin : Option (Round SimpleSighting) -> Nat -> Int64 -> Prop
  | none, _, time => time = 0
  | some r, category, time =>
      IsGreatest {t | exists i, i ≤ category ∧ r.Begins i t} time

def LatestEnd (r : Round SimpleSighting) (category : Nat) (time : Int64) :
    Prop :=
  IsGreatest {t | exists i, i ≤ category ∧ r.Ends i t} time

/-- What is known between two rounds. -/
structure Resting (categoryCount : Nat) (last : Option (Round SimpleSighting))
    (w : AuctionSimpleDiffWriter) : Prop where
  begins : forall category : UInt16, category.toNat < categoryCount ->
    LatestBegin last category.toNat (w.previousBegin category).toInt64
  category : forall uid a, w.held uid = some a ->
    a.category.toNat < categoryCount
  time : forall uid a, w.held uid = some a ->
    exists r i e, last = some r ∧ r.Ends i e ∧ a.timeMax.toInt64 ≤ e

section Rounds

variable {categoryCount : Nat} {last : Option (Round SimpleSighting)}
  {w : AuctionSimpleDiffWriter} {r : Round SimpleSighting}

theorem resting_create (size : Nat) :
    Resting categoryCount none (AuctionSimpleDiffWriter.create size) where
  begins := by
    intro category hcategory
    have hgreatest := @CategoryTimeManager.latestUpTo_isGreatest
      (CategoryTimeManager.create size) CategoryTime.previousBegin rfl
      category.toNat
    change CategoryTimeManager.latestUpTo _ _ _ = 0
    rcases hgreatest.left with hzero | ⟨i, -, heq⟩
    · exact hzero
    · rw [CategoryTimeManager.timesOf_create] at heq
      exact heq
  category := by
    intro uid a ha
    cases ha
  time := by
    intro uid a ha
    cases ha

theorem Round.Orderly.latestBegin (horderly : r.Orderly categoryCount)
    (htimed : r.Timed) (memory : Memory) (w : AuctionSimpleDiffWriter)
    {category : UInt16} (hcategory : category.toNat < categoryCount) :
    LatestBegin (some r) category.toNat
      ((w.round memory r).previousBegin category).toInt64 := by
  apply @CategoryTimeManager.latestUpTo_isGreatest_of_pos _
    CategoryTime.previousBegin rfl
  · intro t
    constructor
    · rintro ⟨i, hi, ht⟩
      refine ⟨i, hi, ?_⟩
      rw [AuctionSimpleDiffWriter.round_timesOf,
        horderly.beginTime htimed _ ht]
    · rintro ⟨i, hi, heq⟩
      rcases horderly.exists_begins (i := i) (by omega) with ⟨b, hb⟩
      rw [AuctionSimpleDiffWriter.round_timesOf,
        horderly.beginTime htimed _ hb] at heq
      rw [heq]
      exact ⟨i, hi, hb⟩
  · rintro t ⟨i, -, ht⟩
    exact htimed _ ht

theorem Round.Orderly.latestEnd (horderly : r.Orderly categoryCount)
    (htimed : r.Timed) (memory : Memory) (w : AuctionSimpleDiffWriter)
    {category : UInt16} (hcategory : category.toNat < categoryCount) :
    LatestEnd r category.toNat
      (w.categoryEnd memory r category).toInt64 := by
  apply @CategoryTimeManager.latestUpTo_isGreatest_of_pos _
    CategoryTime.endTime rfl
  · intro t
    rw [AuctionSimpleDiffWriter.inRound_categoryTimeManager]
    constructor
    · rintro ⟨i, hi, ht⟩
      exact ⟨i, hi, (horderly.endTime _ ht).symm⟩
    · rintro ⟨i, hi, heq⟩
      rcases horderly.exists_ends (i := i) (by omega) with ⟨e, he⟩
      rw [heq]
      refine ⟨i, hi, ?_⟩
      have hend := horderly.endTime w.categoryTimeManager he
      rw [Round.allCalls] at hend
      rw [hend]
      exact he
  · rintro t ⟨i, -, ht⟩
    exact htimed _ ht

theorem Resting.round (h : Resting categoryCount last w)
    (horderly : r.Orderly categoryCount) (htimed : r.Timed)
    (memory : Memory) :
    Resting categoryCount (some r) (w.round memory r) where
  begins := by
    intro category hcategory
    exact horderly.latestBegin htimed memory w hcategory
  category := by
    intro uid a ha
    have hended := w.round_ended memory r
      (Option.filter_eq_some_iff.mp ha).left
    cases hheld : w.held uid with
    | none =>
        rw [hheld] at hended
        cases hended with
        | fresh hs hcategory hmin hseen =>
            rcases horderly.window _ hs with ⟨b, e, hb, -⟩
            rw [hcategory]
            exact horderly.lt_of_begins hb
    | some old =>
        have hold := h.category uid old hheld
        rw [hheld] at hended
        cases hended with
        | seen hcategory =>
            rw [hcategory]
            exact hold
        | deleted hcategory =>
            rw [hcategory]
            exact hold
  time := by
    intro uid a ha
    rcases Option.filter_eq_some_iff.mp ha with ⟨hfound, hlive⟩
    have hseen : a.SeenIn r := by
      have hended := w.round_ended memory r hfound
      generalize w.held uid = old at hended
      cases hended with
      | fresh hs hcategory hmin hseen => exact hseen
      | seen hcategory hmin hseen => exact hseen
      | deleted hcategory hmin hmax hstatus =>
          rw [AuctionSimpleData.isInFinalState, hstatus] at hlive
          simp at hlive
    rcases hseen.time with ⟨s, hs, htime⟩
    rcases horderly.window s hs with ⟨b, e, -, he, -, hle⟩
    refine ⟨r, _, e, rfl, he, ?_⟩
    rw [htime]
    exact hle

/-! ### The records of a round -/

def AuctionSimpleInfo.IsDeleted (record : AuctionSimpleInfo) : Prop :=
  record.diffType = DiffType.deleted.toUInt16

/--
What the records of a round say, by the last round and by the full dump after
it.  The window of an auction that was not deleted goes on.
-/
structure Chained (last : Option (Round SimpleSighting))
    (before : List AuctionSimpleInfo) (r : Round SimpleSighting)
    (record : AuctionSimpleInfo) : Prop where
  adjoins : forall old, old ∈ before -> old.uid = record.uid ->
    ¬old.IsDeleted -> record.previousTime = old.time
  begins : (forall old, old ∈ before -> old.uid = record.uid ->
    old.IsDeleted) -> LatestBegin last record.category.toNat
      record.previousTime
  ends : record.IsDeleted -> LatestEnd r record.category.toNat record.time

theorem isDeleted_serialize_iff (a : AuctionSimpleData) :
    a.serialize.IsDeleted ↔ a.isInFinalState = true := by
  change a.getAuctionDiffType.toUInt16 = DiffType.deleted.toUInt16 ↔
    decide (a.processStatus = AuctionSimpleData.ProcessStatus.deleted) = true
  rw [AuctionSimpleData.getAuctionDiffType]
  cases a.processStatus with
  | notProcessed => decide
  | unmodifed => decide
  | added => decide
  | updated => decide
  | deleted => decide

namespace AuctionSimpleDiffWriter

theorem mem_exportDump {doFullDump : Bool} {record : AuctionSimpleInfo}
    (h : record ∈ (w.exportDump doFullDump).auctions) :
    exists a, w.getAuction record.uid = some a ∧ a.serialize = record := by
  rcases List.mem_map.mp h with ⟨a, ha, heq⟩
  refine ⟨a, ?_, heq⟩
  rw [← heq]
  exact AuctionGenericWriter.mem_iff_getAuction.mp
    (List.mem_of_mem_filter ha)

theorem mem_fullDump_iff {record : AuctionSimpleInfo} :
    record ∈ (w.exportDump true).auctions ↔
      exists a, w.getAuction record.uid = some a ∧ a.serialize = record := by
  constructor
  · exact mem_exportDump
  · rintro ⟨a, ha, heq⟩
    refine List.mem_map.mpr ⟨a, List.mem_filter.mpr ⟨?_, rfl⟩, heq⟩
    apply AuctionGenericWriter.mem_iff_getAuction.mpr
    rw [← heq] at ha
    exact ha

theorem held_of_record {record : AuctionSimpleInfo}
    (hmem : record ∈ (w.exportDump true).auctions)
    (hlive : ¬record.IsDeleted) :
    exists a, w.held record.uid = some a ∧ a.serialize = record := by
  rcases mem_exportDump hmem with ⟨a, ha, heq⟩
  refine ⟨a, ?_, heq⟩
  rw [held, ha, Option.filter_some, if_pos]
  rw [← heq, isDeleted_serialize_iff] at hlive
  simpa using hlive

theorem record_of_held {uid : UInt32} {a : AuctionSimpleData}
    (h : w.held uid = some a) :
    a.serialize ∈ (w.exportDump true).auctions ∧ a.uid = uid ∧
      ¬a.serialize.IsDeleted := by
  rcases Option.filter_eq_some_iff.mp h with ⟨ha, hlive⟩
  have huid : a.uid = uid := AuctionGenericWriter.uid_of_getAuction ha
  refine ⟨mem_fullDump_iff.mpr ⟨a, ?_, rfl⟩, huid, ?_⟩
  · rw [← huid] at ha
    exact ha
  · rw [isDeleted_serialize_iff]
    simpa using hlive

end AuctionSimpleDiffWriter

theorem Resting.chained (h : Resting categoryCount last w)
    (horderly : r.Orderly categoryCount) (htimed : r.Timed)
    (memory : Memory) {doFullDump : Bool} {record : AuctionSimpleInfo}
    (hrecord : record ∈ ((w.round memory r).exportDump doFullDump).auctions) :
    Chained last (w.exportDump true).auctions r record := by
  rcases AuctionSimpleDiffWriter.mem_exportDump hrecord with ⟨a, ha, rfl⟩
  have hended := w.round_ended memory r ha
  have hlt : a.category.toNat < categoryCount := by
    cases hheld : w.held a.serialize.uid with
    | none =>
        rw [hheld] at hended
        cases hended with
        | fresh hs hcategory hmin hseen =>
            rcases horderly.window _ hs with ⟨b, e, hb, -⟩
            rw [hcategory]
            exact horderly.lt_of_begins hb
    | some old =>
        have hold := h.category _ old hheld
        rw [hheld] at hended
        cases hended with
        | seen hcategory =>
            rw [hcategory]
            exact hold
        | deleted hcategory =>
            rw [hcategory]
            exact hold
  refine ⟨?_, ?_, ?_⟩
  · intro old hold huid hlive
    rcases AuctionSimpleDiffWriter.held_of_record hold hlive
      with ⟨b, hb, hserialize⟩
    rw [← huid, hb] at hended
    rw [← hserialize]
    cases hended with
    | seen hcategory hmin => exact congrArg UInt64.toInt64 hmin
    | deleted hcategory hmin => exact congrArg UInt64.toInt64 hmin
  · intro hdeleted
    cases hheld : w.held a.serialize.uid with
    | some old =>
        rcases AuctionSimpleDiffWriter.record_of_held hheld
          with ⟨hmem, huid, hlive⟩
        exact absurd (hdeleted _ hmem huid) hlive
    | none =>
        rw [hheld] at hended
        cases hended with
        | fresh hs hcategory hmin hseen =>
            change LatestBegin last a.category.toNat a.timeMin.toInt64
            rw [hmin]
            exact h.begins a.category hlt
  · intro hdeleted
    rw [isDeleted_serialize_iff] at hdeleted
    have hstatus : a.processStatus =
        AuctionSimpleData.ProcessStatus.deleted := by
      simpa [AuctionSimpleData.isInFinalState] using hdeleted
    change LatestEnd r a.category.toNat a.timeMax.toInt64
    generalize w.held a.serialize.uid = old at hended
    cases hended with
    | fresh hs hcategory hmin hseen => exact absurd hstatus hseen.live
    | seen hcategory hmin hseen => exact absurd hstatus hseen.live
    | deleted hcategory hmin hmax =>
        rw [hmax]
        exact horderly.latestEnd htimed memory w hlt

/-- No time of the round is before one of the last round. -/
def Follows (last : Option (Round SimpleSighting))
    (r : Round SimpleSighting) : Prop :=
  forall p c c', last = some p -> c ∈ p.categoryCalls ->
    c' ∈ r.categoryCalls -> c.time ≤ c'.time

theorem Resting.ordered (h : Resting categoryCount last w)
    (horderly : r.Orderly categoryCount) (htimed : r.Timed)
    (hfollows : Follows last r) (memory : Memory) {doFullDump : Bool}
    {record : AuctionSimpleInfo}
    (hrecord : record ∈ ((w.round memory r).exportDump doFullDump).auctions) :
    record.previousTime ≤ record.time := by
  have hchained := h.chained horderly htimed memory hrecord
  rcases AuctionSimpleDiffWriter.mem_exportDump hrecord with ⟨a, ha, rfl⟩
  have hended := w.round_ended memory r ha
  -- a sighting is not before any time of the last round
  have hseen : a.SeenIn r -> forall p c, last = some p ->
      c ∈ p.categoryCalls -> c.time ≤ a.timeMax.toInt64 := by
    intro hseen p c hlast hc
    rcases hseen.time with ⟨s, hs, htime⟩
    rcases horderly.window s hs with ⟨b, e, hb, -, hle, -⟩
    have hlater := hfollows p c (CategoryCall.beginCategory _ b) hlast hc hb
    rw [htime]
    exact Int64.le_trans hlater hle
  change a.timeMin.toInt64 ≤ a.timeMax.toInt64
  cases hheld : w.held a.serialize.uid with
  | none =>
      rw [hheld] at hended
      cases hended with
      | fresh hs hcategory hmin hseen' =>
          rcases horderly.window _ hs with ⟨b, e, hb, -⟩
          have hlt := horderly.lt_of_begins hb
          rw [← hcategory] at hlt
          have hbegin := h.begins a.category hlt
          rw [← hmin] at hbegin
          cases hlast : last with
          | none =>
              rw [hlast] at hbegin
              rcases hseen'.time with ⟨s, hs', htime⟩
              rcases horderly.window s hs' with ⟨b', -, hb', -, hle, -⟩
              have hzero : a.timeMin.toInt64 = 0 := hbegin
              rw [hzero, htime]
              exact Int64.le_trans (Int64.le_of_lt (htimed _ hb')) hle
          | some p =>
              rw [hlast] at hbegin
              rcases hbegin.left with ⟨i, -, hi⟩
              exact hseen hseen' p (CategoryCall.beginCategory i _) hlast hi
  | some old =>
      rcases h.time _ old hheld with ⟨p, i, e, hlast, he, hle⟩
      rw [hheld] at hended
      cases hended with
      | seen hcategory hmin hseen' =>
          have hlater := hseen hseen' p (CategoryCall.endCategory i e) hlast he
          rw [hmin]
          exact Int64.le_trans hle hlater
      | deleted hcategory hmin hmax hstatus =>
          have hdeleted : a.serialize.IsDeleted := by
            rw [isDeleted_serialize_iff, AuctionSimpleData.isInFinalState,
              hstatus]
            rfl
          rcases (hchained.ends hdeleted).left with ⟨k, -, hk⟩
          have hlater := hfollows p (CategoryCall.endCategory i e)
            (CategoryCall.endCategory k a.timeMax.toInt64) hlast he hk
          rw [hmin]
          exact Int64.le_trans hle hlater

end Rounds

/-- The times of the categories do not go back in all of the history. -/
def Ascending (history : List (Round SimpleSighting)) : Prop :=
  (history.flatMap fun r =>
    r.categoryCalls.map CategoryCall.time).Pairwise (· ≤ ·)

theorem Ascending.follows {before : List (Round SimpleSighting)}
    {r : Round SimpleSighting} (h : Ascending (before ++ [r])) :
    Follows before.getLast? r := by
  intro p c c' hlast hc hc'
  rcases List.eq_nil_or_concat before with hnil | ⟨front, p', hconcat⟩
  · rw [hnil] at hlast
    cases hlast
  · rw [List.concat_eq_append] at hconcat
    rw [hconcat, List.getLast?_append_of_ne_nil _ (List.cons_ne_nil _ _)]
      at hlast
    cases hlast
    rw [hconcat, Ascending, List.flatMap_append, List.flatMap_append] at h
    have hpair := (List.pairwise_append.mp h).right.right
    apply hpair c.time _ c'.time _
    · apply List.mem_append_right
      simp only [List.flatMap_cons, List.flatMap_nil, List.append_nil]
      exact List.mem_map_of_mem hc
    · simp only [List.flatMap_cons, List.flatMap_nil, List.append_nil]
      exact List.mem_map_of_mem hc'

namespace AuctionSimpleDiffWriter

variable {size categoryCount : Nat} {memory : Nat -> Memory}
  {before : List (Round SimpleSighting)} {r : Round SimpleSighting}

theorem rounds_concat (memory : Nat -> Memory) (w : AuctionSimpleDiffWriter)
    (before : List (Round SimpleSighting)) (r : Round SimpleSighting) :
    rounds memory w (before ++ [r]) =
      (rounds memory w before).round (memory before.length) r := by
  induction before generalizing memory w with
  | nil => rfl
  | cons first before ih => exact ih (fun n => memory (n + 1)) _

theorem rounds_resting
    (horderly : forall r', r' ∈ before -> r'.Orderly categoryCount)
    (htimed : forall r', r' ∈ before -> r'.Timed) :
    Resting categoryCount before.getLast?
      (rounds memory (create size) before) := by
  induction before using List.reverseRecOn with
  | nil => exact resting_create size
  | append_singleton before r ih =>
      have hbefore := ih
        (fun r' hr' => horderly r' (List.mem_append_left _ hr'))
        (fun r' hr' => htimed r' (List.mem_append_left _ hr'))
      have hr : r ∈ before ++ [r] := List.mem_append_right _ List.mem_cons_self
      rw [rounds_concat,
        List.getLast?_append_of_ne_nil _ (List.cons_ne_nil _ _)]
      exact hbefore.round (horderly r hr) (htimed r hr) _

/--
The windows of every auction adjoin in every history, and if the times do not
go back either, every window ends after its begin.
-/
theorem windows_adjoin {doFullDump : Bool} {record : AuctionSimpleInfo}
    (horderly : forall r', r' ∈ before ++ [r] -> r'.Orderly categoryCount)
    (htimed : forall r', r' ∈ before ++ [r] -> r'.Timed)
    (hrecord : record ∈ ((rounds memory (create size)
      (before ++ [r])).exportDump doFullDump).auctions) :
    Chained before.getLast?
        ((rounds memory (create size) before).exportDump true).auctions r
        record ∧
      (Ascending (before ++ [r]) -> record.previousTime ≤ record.time) := by
  have hresting : Resting categoryCount before.getLast?
      (rounds memory (create size) before) := rounds_resting
    (fun r' hr' => horderly r' (List.mem_append_left _ hr'))
    (fun r' hr' => htimed r' (List.mem_append_left _ hr'))
  have hr : r ∈ before ++ [r] := List.mem_append_right _ List.mem_cons_self
  rw [rounds_concat] at hrecord
  refine ⟨hresting.chained (horderly r hr) (htimed r hr) _ hrecord, ?_⟩
  intro hascending
  exact hresting.ordered (horderly r hr) (htimed r hr) hascending.follows _
    hrecord

def singleRound (begin time fin : Int64) (uid : UInt32) :
    Round SimpleSighting where
  before := []
  calls :=
    [Call.category (CategoryCall.beginCategory 0 begin),
      Call.addAuctionInfo ⟨uid, time.toUInt64, 0, 7, [1]⟩,
      Call.category (CategoryCall.endCategory 0 fin)]

theorem singleRound_orderly {begin time fin : Int64} (uid : UInt32)
    (hbegin : begin ≤ time) (hfin : time ≤ fin) :
    (singleRound begin time fin uid).Orderly 1 where
  begins := rfl
  ends := rfl
  sorted := by
    have hle := Int64.le_trans hbegin hfin
    simp [singleRound, Round.categoryCalls, CategoryCall.time, hle]
  window := by
    intro s hs
    have hs' := Round.mem_infos.mp hs
    simp only [singleRound, List.mem_cons, reduceCtorEq, List.not_mem_nil,
      Call.addAuctionInfo.injEq, or_false, false_or] at hs'
    subst hs'
    refine ⟨begin, fin, List.mem_cons_self,
      List.mem_cons_of_mem _ List.mem_cons_self, hbegin, hfin⟩

theorem singleRound_timed {begin time fin : Int64} (uid : UInt32)
    (hpos : 0 < begin) (hle : begin ≤ fin) :
    (singleRound begin time fin uid).Timed := by
  intro c hc
  have hcases : c = CategoryCall.beginCategory 0 begin ∨
      c = CategoryCall.endCategory 0 fin := by
    simpa [singleRound, Round.categoryCalls] using hc
  rcases hcases with heq | heq
  · rw [heq]
    exact hpos
  · rw [heq]
    exact Int64.lt_of_lt_of_le hpos hle

theorem forall_mem_pair {holds : Round SimpleSighting -> Prop}
    {first second : Round SimpleSighting}
    (h : holds first ∧ holds second) :
    forall r', r' ∈ [first] ++ [second] -> holds r' := by
  intro r' hr'
  rcases List.mem_cons.mp hr' with heq | hr'
  · rw [heq]
    exact h.left
  · rw [List.mem_singleton.mp hr']
    exact h.right

def singleRecord (uid : UInt32) (previousTime time : Int64)
    (diffType : DiffType) : AuctionSimpleInfo where
  uid := uid
  time := time
  previousTime := previousTime
  diffType := diffType.toUInt16
  category := 0
  epic := 7
  data := [1]

theorem windows_adjoin_seenTwice :
    Chained (some (singleRound 10 15 20 1))
        ((rounds (fun _ _ => 0) (create 1)
          [singleRound 10 15 20 1]).exportDump true).auctions
        (singleRound 20 25 30 1)
        (singleRecord 1 15 25 DiffType.unmodified) ∧
      (Ascending [singleRound 10 15 20 1, singleRound 20 25 30 1] ->
        (15 : Int64) ≤ 25) := by
  apply @windows_adjoin 1 1 (fun _ _ => 0) [singleRound 10 15 20 1]
    (singleRound 20 25 30 1) true (singleRecord 1 15 25 DiffType.unmodified)
  · exact forall_mem_pair
      ⟨singleRound_orderly 1 (by decide) (by decide),
        singleRound_orderly 1 (by decide) (by decide)⟩
  · exact forall_mem_pair
      ⟨singleRound_timed 1 (by decide) (by decide),
        singleRound_timed 1 (by decide) (by decide)⟩
  · decide

/--
A category that begins at zero counts as one that has not begun, so that the
auction in it moves its begin.  And if a round is before the last one, the
window of an auction ends before it begins.
-/
theorem not_windows_adjoin :
    (¬forall (memory : Nat -> Memory) before r record,
      (forall r', r' ∈ before ++ [r] -> r'.Orderly 1) ->
        Ascending (before ++ [r]) ->
          record ∈ ((rounds memory (create 1)
            (before ++ [r])).exportDump true).auctions ->
              Chained before.getLast? ((rounds memory (create 1)
                before).exportDump true).auctions r record) ∧
    ¬forall (memory : Nat -> Memory) before r record,
      (forall r', r' ∈ before ++ [r] -> r'.Orderly 1) ->
        record ∈ ((rounds memory (create 1)
          (before ++ [r])).exportDump true).auctions ->
            record.previousTime ≤ record.time := by
  constructor
  · intro h
    have hchained := h (fun _ _ => 0) [singleRound 0 5 10 1]
      (singleRound 10 11 12 2) (singleRecord 2 5 11 DiffType.added)
      (forall_mem_pair
        ⟨singleRound_orderly 1 (by decide) (by decide),
          singleRound_orderly 2 (by decide) (by decide)⟩)
      (by unfold Ascending; decide) (by decide)
    have hnew : forall old, old ∈ ((rounds (fun _ _ => 0) (create 1)
        [singleRound 0 5 10 1]).exportDump true).auctions ->
          old.uid = 2 -> old.IsDeleted := by
      have hnone : forall old, old ∈ ((rounds (fun _ _ => 0) (create 1)
          [singleRound 0 5 10 1]).exportDump true).auctions ->
            old.uid ≠ 2 := by
        decide
      intro old hold huid
      exact absurd huid (hnone old hold)
    rcases (hchained.begins hnew).left with ⟨i, -, hi⟩
    have hcalls : (singleRound 0 5 10 1).categoryCalls =
        [CategoryCall.beginCategory 0 0, CategoryCall.endCategory 0 10] := rfl
    have hmem : CategoryCall.beginCategory i 5 ∈
        [CategoryCall.beginCategory 0 0, CategoryCall.endCategory 0 10] := by
      rw [← hcalls]
      exact hi
    simp at hmem
  · intro h
    have hle := h (fun _ _ => 0) [singleRound 10 15 20 1]
      (singleRound 1 2 3 1) (singleRecord 1 15 2 DiffType.unmodified)
      (forall_mem_pair
        ⟨singleRound_orderly 1 (by decide) (by decide),
          singleRound_orderly 1 (by decide) (by decide)⟩)
      (by decide)
    exact absurd hle (by decide)

end AuctionSimpleDiffWriter

end Auction
end Rzu
