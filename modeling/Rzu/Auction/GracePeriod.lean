import Rzu.Auction.Facts

/-!
# Auctions that are not seen

In full mode an auction that a round does not mention may be deleted; when four
rounds in a row have not mentioned it, it is, and the next round begins without
it.
-/

namespace Rzu
namespace Auction

open Library

/-!
## What is seen
-/

/-- The lines that say that an auction is there. -/
def DiffType.isSighting : Option DiffType -> Bool
  | some DiffType.base | some DiffType.added | some DiffType.updated => true
  | _ => false

namespace AuctionComplexDiffWriter

/-- The auction is seen in a category that there is. -/
def sights (w : AuctionComplexDiffWriter) (uid : UInt32) :
    Call AuctionSimpleInfo -> Bool
  | Call.category _ => false
  | Call.addAuctionInfo info =>
      info.uid == uid &&
        decide (info.category.toNat <
          w.categoryTimeManager.getCategoryNumber) &&
        DiffType.isSighting (DiffType.ofUInt16? info.diffType)

def seenIn (uid : UInt32) :
    AuctionComplexDiffWriter -> List (Call AuctionSimpleInfo) -> Bool
  | _, [] => false
  | w, c :: calls => w.sights uid c || seenIn uid (w.call c) calls

def begun (w : AuctionComplexDiffWriter) (before : List CategoryCall) :
    AuctionComplexDiffWriter :=
  (before.foldl category w).beginProcess

def sees (w : AuctionComplexDiffWriter) (uid : UInt32)
    (r : Round AuctionSimpleInfo) : Bool :=
  seenIn uid (w.begun r.before) r.calls

/-- How many rounds have not seen the auction since one did. -/
def unseenRounds (uid : UInt32) :
    AuctionComplexDiffWriter -> Option Nat -> List (Round AuctionSimpleInfo) ->
      Option Nat
  | _, unseen, [] => unseen
  | w, unseen, r :: rs =>
      unseenRounds uid (w.round r)
        (if w.sees uid r then some 0 else unseen.map (· + 1)) rs

/-- In a new writer, which is in full mode. -/
def roundsUnseen (categoryCount : Nat) (rs : List (Round AuctionSimpleInfo))
    (uid : UInt32) : Option Nat :=
  unseenRounds uid (create categoryCount) none rs

theorem unseenRounds_append (uid : UInt32) (w : AuctionComplexDiffWriter)
    (unseen : Option Nat) (rs later : List (Round AuctionSimpleInfo)) :
    unseenRounds uid w unseen (rs ++ later) =
      unseenRounds uid (w.rounds rs) (unseenRounds uid w unseen rs) later := by
  induction rs generalizing w unseen with
  | nil => rfl
  | cons r rs ih => exact ih (w.round r) _

end AuctionComplexDiffWriter

/-!
## One auction
-/

namespace AuctionComplexData

structure Sighted (a : AuctionComplexData) : Prop where
  status : a.processStatus = ProcessStatus.added ∨
    a.processStatus = ProcessStatus.updated ∨
    a.processStatus = ProcessStatus.unmodifed
  deleted : a.deleted = false
  count : a.deletedCount = 0

/-- The auction was not seen in so many rounds, and not yet in this one. -/
structure Missing (k : Nat) (a : AuctionComplexData) : Prop where
  count : a.deletedCount = k
  status : a.processStatus = ProcessStatus.notProcessed ∧
      a.deleted = decide (0 < k) ∨
    a.processStatus = ProcessStatus.maybeDeleted ∧ a.deleted = true

/-- A round has ended without the auction, so many in a row. -/
structure Overdue (k : Nat) (a : AuctionComplexData) : Prop where
  count : a.deletedCount = k
  deleted : a.deleted = true
  status : a.processStatus =
    if k ≤ 3 then ProcessStatus.maybeDeleted else ProcessStatus.deleted

variable {a : AuctionComplexData} {k : Nat}

theorem Sighted.live (h : a.Sighted) : a.isInFinalState = false := by
  rw [isInFinalState]
  rcases h.status with heq | heq | heq
  · rw [heq]
    rfl
  · rw [heq]
    rfl
  · rw [heq]
    rfl

theorem Sighted.processed (h : a.Sighted) :
    a.processStatus ≠ ProcessStatus.notProcessed := by
  rcases h.status with heq | heq | heq
  · rw [heq]
    decide
  · rw [heq]
    decide
  · rw [heq]
    decide

theorem Overdue.final_iff (h : a.Overdue k) :
    a.isInFinalState = true ↔ 3 < k := by
  rw [isInFinalState, h.status]
  split
  · rename_i hle
    constructor
    · intro hfinal
      cases hfinal
    · intro hlt
      exact absurd hlt (Nat.not_lt.mpr hle)
  · rename_i hlt
    exact ⟨fun _ => Nat.lt_of_not_le hlt, fun _ => rfl⟩

theorem Missing.deleted_of_pos (h : a.Missing k) (hk : 0 < k) :
    a.deleted = true := by
  rcases h.status with ⟨-, hdeleted⟩ | ⟨-, hdeleted⟩
  · rw [hdeleted]
    exact decide_eq_true hk
  · exact hdeleted

/-!
### What parsing leaves alone
-/

/-- Besides the data, which parsing changes. -/
structure SameStanding (a b : AuctionComplexData) : Prop where
  status : b.processStatus = a.processStatus
  deleted : b.deleted = a.deleted
  count : b.deletedCount = a.deletedCount
  timeMin : b.timeMin = a.timeMin
  timeMax : b.timeMax = a.timeMax

theorem parseData_standing (a : AuctionComplexData) (epic : UInt32)
    (data : List UInt8) : SameStanding a (a.parseData epic data).2 := by
  rw [parseData]
  split
  · exact ⟨rfl, rfl, rfl, rfl, rfl⟩
  · split
    · exact ⟨rfl, rfl, rfl, rfl, rfl⟩
    · exact ⟨rfl, rfl, rfl, rfl, rfl⟩

theorem postParseData_standing (a : AuctionComplexData) (newData : Bool) :
    SameStanding a (a.postParseData newData) := by
  simp only [postParseData]
  split
  · split
    · exact ⟨rfl, rfl, rfl, rfl, rfl⟩
    · split
      · exact ⟨rfl, rfl, rfl, rfl, rfl⟩
      · exact ⟨rfl, rfl, rfl, rfl, rfl⟩
  · exact ⟨rfl, rfl, rfl, rfl, rfl⟩

theorem Sighted.of_same {b : AuctionComplexData} (h : a.Sighted)
    (hsame : SameStanding a b) : b.Sighted where
  status := by
    rw [hsame.status]
    exact h.status
  deleted := hsame.deleted.trans h.deleted
  count := hsame.count.trans h.count

theorem sighted_create (uid : UInt32) (timeMin timeMax : UInt64)
    (category : UInt16) (epic : UInt32) (data : List UInt8) :
    (create uid timeMin timeMax category epic data).Sighted := by
  rw [create]
  have hnew (a : AuctionComplexData) (h : a.Sighted) :
      ((a.parseData epic data).2.postParseData true).Sighted :=
    (h.of_same (a.parseData_standing epic data)).of_same
      (postParseData_standing _ _)
  apply hnew
  exact ⟨Or.inl rfl, rfl, rfl⟩

theorem sighted_update
    (h : a.Sighted ∨ a.processStatus = ProcessStatus.notProcessed ∨
      a.processStatus = ProcessStatus.maybeDeleted) (time : UInt64)
    (epic : UInt32) (data : List UInt8) :
    (a.update time epic data).Sighted := by
  have hparsed := a.parseData_standing epic data
  have hafter (b : AuctionComplexData) (hb : b.Sighted) (modified : Bool) :
      (if modified then b.postParseData false else b).Sighted := by
    split
    · exact hb.of_same (b.postParseData_standing false)
    · exact hb
  rw [update]
  apply hafter
  generalize (a.parseData epic data).2 = b at hparsed
  rcases h with hsighted | hunseen
  · have hb := hsighted.of_same hparsed
    split
    · exact ⟨Or.inr (Or.inl rfl), rfl, rfl⟩
    · split
      · exact ⟨Or.inr (Or.inr rfl), rfl, rfl⟩
      · exact hb
  · have hadded : b.processStatus ≠ ProcessStatus.added ∧
        b.processStatus ≠ ProcessStatus.updated := by
      rw [hparsed.status]
      rcases hunseen with heq | heq
      · rw [heq]
        exact ⟨by decide, by decide⟩
      · rw [heq]
        exact ⟨by decide, by decide⟩
    split
    · exact ⟨Or.inr (Or.inl rfl), rfl, rfl⟩
    · rename_i hsame
      rw [if_pos ⟨fun hmodified => hsame ⟨hmodified, hadded.left⟩,
        hadded.left, hadded.right⟩]
      exact ⟨Or.inr (Or.inr rfl), rfl, rfl⟩

theorem Missing.update (h : a.Missing k) (timeMin : UInt64) (time : UInt64)
    (epic : UInt32) (data : List UInt8) :
    (AuctionComplexData.update { a with timeMin := timeMin } time epic
      data).Sighted := by
  apply sighted_update
  rcases h.status with ⟨heq, -⟩ | ⟨heq, -⟩
  · exact Or.inr (Or.inl heq)
  · exact Or.inr (Or.inr heq)

theorem Sighted.remove (h : a.Sighted) (timeMin time : UInt64) :
    (AuctionComplexData.remove { a with timeMin := timeMin }
      time).Sighted := by
  rw [AuctionComplexData.remove, if_neg h.processed]
  exact ⟨h.status, h.deleted, h.count⟩

theorem Missing.remove (h : a.Missing k) (timeMin time : UInt64) :
    (AuctionComplexData.remove { a with timeMin := timeMin } time).Missing
        k ∧
      (0 < k -> (AuctionComplexData.remove { a with timeMin := timeMin }
        time).timeMax = a.timeMax) := by
  rw [AuctionComplexData.remove]
  split
  · refine ⟨⟨h.count, Or.inr ⟨rfl, rfl⟩⟩, ?_⟩
    intro hk
    exact if_pos (h.deleted_of_pos hk)
  · exact ⟨⟨h.count, h.status⟩, fun _ => rfl⟩

/-!
### The beginning and the end of a round
-/

theorem Sighted.beginProcess (h : a.Sighted) :
    a.beginProcess.Missing 0 := by
  have hlive : a.processStatus ≠ ProcessStatus.deleted := by
    simpa [isInFinalState] using h.live
  rw [AuctionComplexData.beginProcess, if_neg hlive]
  exact ⟨h.count, Or.inl ⟨rfl, h.deleted⟩⟩

theorem Overdue.beginProcess (h : a.Overdue k) (hpos : 0 < k) (hk : k ≤ 3) :
    a.beginProcess.Missing k ∧ a.beginProcess.timeMin = a.timeMin ∧
      a.beginProcess.timeMax = a.timeMax := by
  have hlive : a.processStatus ≠ ProcessStatus.deleted := by
    rw [h.status, if_pos hk]
    decide
  rw [AuctionComplexData.beginProcess, if_neg hlive]
  refine ⟨⟨h.count, Or.inl ⟨rfl, ?_⟩⟩, ?_, rfl⟩
  · rw [decide_eq_true hpos]
    exact h.deleted
  · change (if (!a.deleted && decide (a.timeMax ≠ 0)) = true then _ else _) =
      _
    rw [h.deleted]
    rfl

theorem Sighted.endProcess (h : a.Sighted) (begin fin : UInt64) :
    a.endProcess begin fin false = a := by
  rw [AuctionComplexData.endProcess, if_neg h.processed, maybeStillDeleted,
    h.deleted]
  rfl

theorem Missing.endProcess (h : a.Missing k) (begin fin : UInt64) :
    (a.endProcess begin fin false).Overdue (k + 1) ∧
      (a.endProcess begin fin false).timeMin = a.timeMin ∧
      (0 < k -> (a.endProcess begin fin false).timeMax = a.timeMax) := by
  -- the end of the round marks the auction, if no line has done so before
  have hmarked : exists b : AuctionComplexData,
      a.endProcess begin fin false = b.maybeStillDeleted ∧
        b.processStatus = ProcessStatus.maybeDeleted ∧ b.deleted = true ∧
        b.deletedCount = k ∧ b.timeMin = a.timeMin ∧
        (0 < k -> b.timeMax = a.timeMax) := by
    rcases h.status with ⟨hstatus, hdeleted⟩ | ⟨hstatus, hdeleted⟩
    · refine ⟨a.remove fin, ?_, ?_⟩
      · rw [AuctionComplexData.endProcess, if_pos hstatus]
        rfl
      · rw [AuctionComplexData.remove, if_pos hstatus]
        refine ⟨rfl, rfl, h.count, rfl, ?_⟩
        intro hpos
        exact if_pos (h.deleted_of_pos hpos)
    · refine ⟨a, ?_, hstatus, hdeleted, h.count, rfl, fun _ => rfl⟩
      rw [AuctionComplexData.endProcess, if_neg (by rw [hstatus]; decide)]
  rcases hmarked with ⟨b, heq, hstatus, hdeleted, hcount, hmin, hmax⟩
  rw [heq, maybeStillDeleted, if_pos hdeleted]
  dsimp only
  rw [hcount]
  split
  · rename_i hlast
    refine ⟨⟨rfl, rfl, ?_⟩, hmin, ?_⟩
    · rw [if_neg (Nat.not_le.mpr hlast)]
      rfl
    · intro hpos
      rw [← hmax hpos]
      exact if_pos hdeleted
  · rename_i hlast
    rw [if_neg (by rw [hstatus]; decide)]
    refine ⟨⟨rfl, hdeleted, ?_⟩, hmin, hmax⟩
    rw [if_pos (Nat.le_of_not_lt hlast)]
    exact hstatus

end AuctionComplexData

/-!
## One auction in a run
-/

/-- What is known at the end of a round, by the rounds without the auction. -/
inductive AtEnd : Option Nat -> Option AuctionComplexData -> Prop where
  | never : AtEnd none none
  | seen {a : AuctionComplexData} (h : a.Sighted) : AtEnd (some 0) (some a)
  | overdue {a : AuctionComplexData} {k : Nat} (hpos : 0 < k) (hk : k ≤ 4)
      (h : a.Overdue k) : AtEnd (some k) (some a)
  | purged {k : Nat} (hk : 4 < k) : AtEnd (some k) none

/-- In a round, by the rounds before and whether this one has seen it. -/
inductive InRound :
    Bool -> Option Nat -> Option AuctionComplexData -> Prop where
  | seen {unseen : Option Nat} {a : AuctionComplexData} (h : a.Sighted) :
      InRound true unseen (some a)
  | missing {a : AuctionComplexData} {k : Nat} (hk : k ≤ 3)
      (h : a.Missing k) : InRound false (some k) (some a)
  | gone {unseen : Option Nat} (h : forall k, unseen = some k -> 4 ≤ k) :
      InRound false unseen none

variable {unseen : Option Nat} {view : Option AuctionComplexData}

theorem AtEnd.beginProcess (h : AtEnd unseen view) :
    InRound false unseen ((view.filter fun a => !a.isInFinalState).map
      AuctionComplexData.beginProcess) := by
  cases h with
  | never =>
      apply InRound.gone
      intro k hk
      cases hk
  | @seen a hseen =>
      rw [Option.filter_some, if_pos (by rw [hseen.live]; rfl)]
      exact InRound.missing (Nat.zero_le 3) hseen.beginProcess
  | @overdue a k hpos hk hover =>
      cases hfinal : a.isInFinalState with
      | true =>
          rw [Option.filter_some, if_neg (by rw [hfinal]; decide)]
          apply InRound.gone
          intro k' hk'
          cases hk'
          exact hover.final_iff.mp hfinal
      | false =>
          rw [Option.filter_some, if_pos (by rw [hfinal]; rfl)]
          have hle : k ≤ 3 := by
            apply Nat.le_of_not_lt
            intro hlt
            rw [hover.final_iff.mpr hlt] at hfinal
            cases hfinal
          exact InRound.missing hle (hover.beginProcess hpos hle).left
  | @purged k hk =>
      apply InRound.gone
      intro k' hk'
      cases hk'
      exact Nat.le_of_lt hk

theorem InRound.endProcess {seen : Bool} (h : InRound seen unseen view)
    (begin fin : AuctionComplexData -> UInt64) :
    AtEnd (if seen then some 0 else unseen.map (· + 1))
      (view.map fun a => a.endProcess (begin a) (fin a) false) := by
  cases h with
  | seen hseen =>
      rw [Option.map_some, hseen.endProcess]
      exact AtEnd.seen hseen
  | missing hk hmissing =>
      exact AtEnd.overdue (Nat.succ_pos _) (Nat.succ_le_succ hk)
        (hmissing.endProcess _ _).left
  | gone hgone =>
      cases unseen with
      | none => exact AtEnd.never
      | some k => exact AtEnd.purged (Nat.lt_succ_of_le (hgone k rfl))

namespace AuctionComplexDiffWriter

variable {w : AuctionComplexDiffWriter} {uid : UInt32}

/-!
### One call
-/

/-- A line that says that the auction is deleted. -/
def removes (uid : UInt32) : Call AuctionSimpleInfo -> Prop
  | Call.category _ => False
  | Call.addAuctionInfo info =>
      info.uid = uid ∧ DiffType.ofUInt16? info.diffType = some DiffType.deleted

theorem sights_iff {info : AuctionSimpleInfo} :
    w.sights uid (Call.addAuctionInfo info) = true ↔
      info.uid = uid ∧ info.category.toNat < w.number ∧
        exists diffType, DiffType.ofUInt16? info.diffType = some diffType ∧
          (diffType = DiffType.base ∨ diffType = DiffType.added ∨
            diffType = DiffType.updated) := by
  have hsighting : DiffType.isSighting (DiffType.ofUInt16? info.diffType) =
      true ↔ exists diffType, DiffType.ofUInt16? info.diffType =
        some diffType ∧ (diffType = DiffType.base ∨ diffType = DiffType.added ∨
          diffType = DiffType.updated) := by
    cases DiffType.ofUInt16? info.diffType with
    | none => simp [DiffType.isSighting]
    | some diffType => cases diffType <;> simp [DiffType.isSighting]
  rw [← hsighting]
  simp [sights, number, and_assoc]

/-- What a call makes of an auction. -/
inductive Called (w : AuctionComplexDiffWriter) (uid : UInt32)
    (c : Call AuctionSimpleInfo) : Option AuctionComplexData -> Prop where
  | same (h : w.sights uid c = false) : Called w uid c (w.getAuction uid)
  | added (h : w.sights uid c = true) (hnew : w.getAuction uid = none)
      (timeMin timeMax : UInt64) (category : UInt16) (epic : UInt32)
      (data : List UInt8) :
      Called w uid c (some (AuctionComplexData.create uid timeMin timeMax
        category epic data))
  | updated {a : AuctionComplexData} (h : w.sights uid c = true)
      (hold : w.getAuction uid = some a) (timeMin : UInt64) (time : UInt64)
      (epic : UInt32) (data : List UInt8) :
      Called w uid c (some (AuctionComplexData.update
        { a with timeMin := timeMin } time epic data))
  | removed {a : AuctionComplexData} (h : w.sights uid c = false)
      (hremoves : removes uid c) (hold : w.getAuction uid = some a)
      (timeMin time : UInt64) :
      Called w uid c (some (AuctionComplexData.remove
        { a with timeMin := timeMin } time))

theorem called_addAuctionInfo (w : AuctionComplexDiffWriter)
    (info : AuctionSimpleInfo) :
    Called w info.uid (Call.addAuctionInfo info)
      ((w.addAuctionInfo info).getAuction info.uid) := by
  by_cases hcategory : info.category.toNat < w.number
  · cases hsights : w.sights info.uid (Call.addAuctionInfo info) with
    | true =>
        rcases sights_iff.mp hsights with ⟨-, -, diffType, hdiffType, hseen⟩
        cases hfound : w.getAuction info.uid with
        | none =>
            rcases addAuctionInfo_added hcategory hdiffType hseen hfound with
              ⟨m, timeMin, heq⟩
            rw [heq]
            change Called w _ _
              ((AuctionGenericWriter.addAuction _ _).getAuction _)
            rw [AuctionGenericWriter.getAuction_addAuction]
            have hold : AuctionGenericWriter.getAuction
                { w.toAuctionGenericWriter with categoryTimeManager := m }
                info.uid = none := hfound
            have huid : IAuctionData.getUid (AuctionComplexData.create info.uid
                timeMin info.time.toUInt64 info.category
                (parseEpic info.epic info.time) info.data) = info.uid :=
              AuctionComplexData.create_uid _ _ _ _ _ _
            rw [hold, if_pos huid]
            exact Called.added hsights hfound _ _ _ _ _
        | some a =>
            rcases addAuctionInfo_updated hcategory hdiffType hseen hfound with
              ⟨m, timeMin, heq⟩
            rw [heq]
            change Called w _ _
              ((AuctionGenericWriter.modifyAuction _ _ _).getAuction _)
            rw [AuctionGenericWriter.getAuction_modifyAuction, if_pos rfl]
            change Called w _ _ (Option.map _ (w.getAuction _))
            rw [hfound]
            exact Called.updated hsights hfound _ _ _ _
    | false =>
        cases hdiffType : DiffType.ofUInt16? info.diffType with
        | none =>
            rcases addAuctionInfo_ignored hcategory
              (by rw [hdiffType]; decide) with ⟨m, heq⟩
            rw [heq]
            exact Called.same hsights
        | some diffType =>
            cases diffType with
            | base | added | updated =>
                have hsees := sights_iff.mpr
                  ⟨rfl, hcategory, _, hdiffType, by decide⟩
                rw [hsees] at hsights
                cases hsights
            | deleted =>
                cases hfound : w.getAuction info.uid with
                | none =>
                    rcases addAuctionInfo_missing hcategory hdiffType
                      hfound with ⟨m, heq⟩
                    rw [heq]
                    exact Called.same hsights
                | some a =>
                    rcases addAuctionInfo_removed hcategory hdiffType
                      hfound with ⟨m, timeMin, heq⟩
                    rw [heq]
                    change Called w _ _
                      ((AuctionGenericWriter.modifyAuction _ _ _).getAuction _)
                    rw [AuctionGenericWriter.getAuction_modifyAuction,
                      if_pos rfl]
                    change Called w _ _ (Option.map _ (w.getAuction _))
                    rw [hfound]
                    exact Called.removed hsights ⟨rfl, hdiffType⟩ hfound _ _
            | unmodified | maybeDeleted | invalid =>
                rcases addAuctionInfo_ignored hcategory
                  (by rw [hdiffType]; decide) with ⟨m, heq⟩
                rw [heq]
                exact Called.same hsights
  · have hsame : w.addAuctionInfo info = w :=
      if_pos (Nat.le_of_not_lt hcategory)
    rw [hsame]
    apply Called.same
    rw [Bool.eq_false_iff]
    intro h
    exact hcategory (sights_iff.mp h).right.left

theorem called (w : AuctionComplexDiffWriter) (uid : UInt32)
    (c : Call AuctionSimpleInfo) :
    Called w uid c ((w.call c).getAuction uid) := by
  cases c with
  | category call => exact Called.same rfl
  | addAuctionInfo info =>
      change Called w uid _ ((w.addAuctionInfo info).getAuction uid)
      by_cases huid : info.uid = uid
      · subst huid
        exact called_addAuctionInfo w info
      · rw [addAuctionInfo_getAuction_ne w huid]
        apply Called.same
        rw [Bool.eq_false_iff]
        intro h
        exact huid (sights_iff.mp h).left

theorem inRound_call {seen : Bool} {c : Call AuctionSimpleInfo}
    {later : Option AuctionComplexData}
    (h : InRound seen unseen (w.getAuction uid))
    (hcalled : Called w uid c later) :
    InRound (seen || w.sights uid c) unseen later := by
  cases hcalled with
  | same hsights =>
      rw [hsights, Bool.or_false]
      exact h
  | added hsights hnew timeMin timeMax category epic data =>
      rw [hsights, Bool.or_true]
      exact InRound.seen (AuctionComplexData.sighted_create _ _ _ _ _ _)
  | updated hsights hold timeMin time epic data =>
      rw [hsights, Bool.or_true]
      rw [hold] at h
      cases h with
      | seen hseen =>
          apply InRound.seen
          apply AuctionComplexData.sighted_update
          exact Or.inl ⟨hseen.status, hseen.deleted, hseen.count⟩
      | missing hk hmissing =>
          exact InRound.seen (hmissing.update _ _ _ _)
  | removed hsights hremoves hold timeMin time =>
      rw [hsights, Bool.or_false]
      rw [hold] at h
      cases h with
      | seen hseen => exact InRound.seen (hseen.remove _ _)
      | missing hk hmissing =>
          exact InRound.missing hk (hmissing.remove _ _).left

/-!
### Rounds
-/

/-- In the round that has begun and of which some calls have come. -/
def within (w : AuctionComplexDiffWriter) (r : Round AuctionSimpleInfo) :
    AuctionComplexDiffWriter :=
  r.calls.foldl call (w.begun r.before)

theorem begun_getAuction (w : AuctionComplexDiffWriter)
    (before : List CategoryCall) (uid : UInt32) :
    (w.begun before).getAuction uid =
      ((w.getAuction uid).filter fun a => !a.isInFinalState).map
        AuctionComplexData.beginProcess := by
  rw [begun, foldl_category]
  exact AuctionGenericWriter.getAuction_beginProcess _ _ _

theorem inRound_calls {seen : Bool} (calls : List (Call AuctionSimpleInfo))
    (h : InRound seen unseen (w.getAuction uid)) :
    InRound (seen || seenIn uid w calls) unseen
      ((calls.foldl call w).getAuction uid) := by
  induction calls generalizing w seen with
  | nil =>
      rw [seenIn, Bool.or_false]
      exact h
  | cons c calls ih =>
      rw [seenIn, ← Bool.or_assoc]
      exact ih (inRound_call h (called w uid c))

theorem atEnd_within (h : AtEnd unseen (w.getAuction uid))
    (r : Round AuctionSimpleInfo) :
    InRound (w.sees uid r) unseen ((w.within r).getAuction uid) := by
  have hbegun : InRound false unseen ((w.begun r.before).getAuction uid) := by
    rw [begun_getAuction]
    exact h.beginProcess
  have hcalls := inRound_calls r.calls hbegun
  rw [Bool.false_or] at hcalls
  exact hcalls

theorem round_getAuction (w : AuctionComplexDiffWriter)
    (hmode : w.diffMode = false) (r : Round AuctionSimpleInfo)
    (uid : UInt32) :
    (w.round r).getAuction uid = ((w.within r).getAuction uid).map fun a =>
      a.endProcess
        ((w.within r).categoryTimeManager.getEstimatedCategoryBeginTime
          a.category.toNat).toUInt64
        ((w.within r).categoryTimeManager.getEstimatedCategoryEndTime
          a.category.toNat).toUInt64 false := by
  have hwithin : (w.within r).diffMode = false := by
    rw [within, foldl_diffMode, begun, foldl_category]
    exact hmode
  change ((w.within r).endProcess).getAuction uid = _
  rw [← hwithin]
  exact AuctionGenericWriter.getAuction_endProcess _ _ _

theorem atEnd_round (h : AtEnd unseen (w.getAuction uid))
    (hmode : w.diffMode = false) (r : Round AuctionSimpleInfo) :
    AtEnd (if w.sees uid r then some 0 else unseen.map (· + 1))
      ((w.round r).getAuction uid) := by
  rw [round_getAuction w hmode]
  exact (atEnd_within h r).endProcess _ _

theorem atEnd_rounds (h : AtEnd unseen (w.getAuction uid))
    (hmode : w.diffMode = false) (rs : List (Round AuctionSimpleInfo)) :
    AtEnd (unseenRounds uid w unseen rs) ((w.rounds rs).getAuction uid) := by
  induction rs generalizing w unseen with
  | nil => exact h
  | cons r rs ih =>
      exact ih (atEnd_round h hmode r) ((w.round_diffMode r).trans hmode)

/-!
### The interval
-/

def neverSeen (uid : UInt32) :
    AuctionComplexDiffWriter -> List (Round AuctionSimpleInfo) -> Prop
  | _, [] => True
  | w, r :: rs => w.sees uid r = false ∧ neverSeen uid (w.round r) rs

/-- Only a line that says that the auction is deleted moves the lower end. -/
structure SameInterval (uid : UInt32) (calls : List (Call AuctionSimpleInfo))
    (a b : AuctionComplexData) : Prop where
  timeMax : b.timeMax = a.timeMax
  timeMin : (forall c, c ∈ calls -> ¬removes uid c) -> b.timeMin = a.timeMin

theorem SameInterval.refl (calls : List (Call AuctionSimpleInfo))
    (a : AuctionComplexData) : SameInterval uid calls a a :=
  ⟨rfl, fun _ => rfl⟩

theorem SameInterval.trans {calls later : List (Call AuctionSimpleInfo)}
    {a b b' : AuctionComplexData} (h : SameInterval uid calls a b)
    (h' : SameInterval uid later b b') :
    SameInterval uid (calls ++ later) a b' where
  timeMax := h'.timeMax.trans h.timeMax
  timeMin := by
    intro hnone
    have hlater := h'.timeMin fun c hc =>
      hnone c (List.mem_append_right calls hc)
    exact hlater.trans (h.timeMin fun c hc =>
      hnone c (List.mem_append_left later hc))

variable {k : Nat} {a : AuctionComplexData}

theorem missing_call (hpos : 0 < k) (hfound : w.getAuction uid = some a)
    (h : a.Missing k) {c : Call AuctionSimpleInfo}
    (hsights : w.sights uid c = false) :
    exists b, (w.call c).getAuction uid = some b ∧ b.Missing k ∧
      SameInterval uid [c] a b := by
  have hcalled := called w uid c
  generalize (w.call c).getAuction uid = later at hcalled
  cases hcalled with
  | same hsame => exact ⟨a, hfound, h, SameInterval.refl [c] a⟩
  | added hseen hnew =>
      rw [hsights] at hseen
      cases hseen
  | updated hseen hold =>
      rw [hsights] at hseen
      cases hseen
  | removed hsame hremoves hold timeMin time =>
      rw [hfound] at hold
      cases hold
      rcases h.remove timeMin time with ⟨hmissing, hmax⟩
      refine ⟨_, rfl, hmissing, hmax hpos, ?_⟩
      intro hnone
      exact absurd hremoves (hnone c List.mem_cons_self)

theorem missing_calls (hpos : 0 < k) (calls : List (Call AuctionSimpleInfo))
    (hfound : w.getAuction uid = some a) (h : a.Missing k)
    (hunseen : seenIn uid w calls = false) :
    exists b, (calls.foldl call w).getAuction uid = some b ∧ b.Missing k ∧
      SameInterval uid calls a b := by
  induction calls generalizing w a with
  | nil => exact ⟨a, hfound, h, SameInterval.refl [] a⟩
  | cons c calls ih =>
      rw [seenIn, Bool.or_eq_false_iff] at hunseen
      rcases missing_call hpos hfound h hunseen.left with
        ⟨b, hb, hmissing, hsame⟩
      rcases ih hb hmissing hunseen.right with ⟨b', hb', hmissing', hsame'⟩
      exact ⟨b', hb', hmissing', hsame.trans hsame'⟩

theorem overdue_within (hpos : 0 < k) (hk : k ≤ 3)
    (hfound : w.getAuction uid = some a) (h : a.Overdue k)
    {r : Round AuctionSimpleInfo} (hunseen : w.sees uid r = false) :
    exists b, (w.within r).getAuction uid = some b ∧ b.Missing k ∧
      SameInterval uid r.calls a b := by
  rcases h.beginProcess hpos hk with ⟨hmissing, hmin, hmax⟩
  have hbegun : (w.begun r.before).getAuction uid = some a.beginProcess := by
    have hlive : a.isInFinalState = false := by
      rw [Bool.eq_false_iff]
      intro hfinal
      exact Nat.not_lt.mpr hk (h.final_iff.mp hfinal)
    rw [begun_getAuction, hfound, Option.filter_some,
      if_pos (by rw [hlive]; rfl)]
    rfl
  rcases missing_calls hpos r.calls hbegun hmissing hunseen with
    ⟨b, hb, hmissing', hsame⟩
  have hbegin : SameInterval uid [] a a.beginProcess := ⟨hmax, fun _ => hmin⟩
  exact ⟨b, hb, hmissing', hbegin.trans hsame⟩

theorem overdue_round (hmode : w.diffMode = false) (hpos : 0 < k)
    (hk : k ≤ 3) (hfound : w.getAuction uid = some a) (h : a.Overdue k)
    {r : Round AuctionSimpleInfo} (hunseen : w.sees uid r = false) :
    exists b, (w.round r).getAuction uid = some b ∧ b.Overdue (k + 1) ∧
      SameInterval uid r.calls a b := by
  rcases overdue_within hpos hk hfound h hunseen with
    ⟨b, hb, hmissing, hsame⟩
  rw [round_getAuction w hmode, hb]
  rcases hmissing.endProcess
    ((w.within r).categoryTimeManager.getEstimatedCategoryBeginTime
      b.category.toNat).toUInt64
    ((w.within r).categoryTimeManager.getEstimatedCategoryEndTime
      b.category.toNat).toUInt64 with ⟨hover, hmin, hmax⟩
  exact ⟨_, rfl, hover, (hmax hpos).trans hsame.timeMax,
    fun hnone => hmin.trans (hsame.timeMin hnone)⟩

def allCalls (rs : List (Round AuctionSimpleInfo)) :
    List (Call AuctionSimpleInfo) := rs.flatMap Round.calls

theorem overdue_rounds (hmode : w.diffMode = false) (hpos : 0 < k)
    (hfound : w.getAuction uid = some a) (h : a.Overdue k)
    (rs : List (Round AuctionSimpleInfo)) (hk : k + rs.length ≤ 4)
    (hnever : neverSeen uid w rs) :
    exists b, (w.rounds rs).getAuction uid = some b ∧
      b.Overdue (k + rs.length) ∧ SameInterval uid (allCalls rs) a b := by
  induction rs generalizing w a k with
  | nil => exact ⟨a, hfound, h, SameInterval.refl [] a⟩
  | cons r rs ih =>
      rw [List.length_cons] at hk
      rcases overdue_round hmode hpos (by lia) hfound h hnever.left with
        ⟨b, hb, hover, hsame⟩
      rcases ih ((w.round_diffMode r).trans hmode) (Nat.succ_pos k) hb hover
        (by lia) hnever.right with ⟨b', hb', hover', hsame'⟩
      refine ⟨b', hb', ?_, hsame.trans hsame'⟩
      rw [List.length_cons, Nat.add_comm rs.length, ← Nat.add_assoc]
      exact hover'

theorem unseenRounds_neverSeen (rs : List (Round AuctionSimpleInfo))
    (hnever : neverSeen uid w rs) :
    unseenRounds uid w (some k) rs = some (k + rs.length) := by
  induction rs generalizing w k with
  | nil => rfl
  | cons r rs ih =>
      rw [unseenRounds, hnever.left]
      change unseenRounds uid _ (some (k + 1)) rs = _
      rw [ih hnever.right, List.length_cons, Nat.add_assoc,
        Nat.add_comm 1 rs.length]

/-!
### What is reported
-/

def Reports (w : AuctionComplexDiffWriter) (doFullDump alwaysWithData : Bool)
    (uid : UInt32) (diffType : DiffType) : Prop :=
  exists info, info ∈ (w.exportDump doFullDump alwaysWithData).auctions ∧
    info.uid = uid ∧ info.diffType = diffType.toUInt16

theorem reports_iff {doFullDump alwaysWithData : Bool} {diffType : DiffType}
    (hdump : (doFullDump ||
      AuctionComplexData.diffTypeInPartialDump diffType) = true) :
    w.Reports doFullDump alwaysWithData uid diffType ↔
      exists a, w.getAuction uid = some a ∧
        a.getAuctionDiffType = diffType := by
  constructor
  · rintro ⟨info, hinfo, huid, htype⟩
    rcases List.mem_map.mp hinfo with ⟨a, ha, heq⟩
    subst heq
    have hfound := AuctionGenericWriter.mem_iff_getAuction.mp
      (List.mem_filter.mp ha).left
    refine ⟨a, ?_, ?_⟩
    · rw [← huid]
      exact hfound
    · have hnumber := congrArg DiffType.ofUInt16? htype
      change DiffType.ofUInt16? a.getAuctionDiffType.toUInt16 = _ at hnumber
      rw [DiffType.ofUInt16?_toUInt16, DiffType.ofUInt16?_toUInt16] at hnumber
      exact Option.some.inj hnumber
  · rintro ⟨a, hfound, htype⟩
    have huid : a.uid = uid := AuctionGenericWriter.uid_of_getAuction hfound
    refine ⟨a.serialize alwaysWithData, ?_, huid, ?_⟩
    · apply List.mem_map_of_mem
      apply List.mem_filter.mpr
      constructor
      · apply AuctionGenericWriter.mem_iff_getAuction.mpr
        change w.getAuction a.uid = _
        rw [huid]
        exact hfound
      · rw [AuctionComplexData.outputInPartialDump, htype]
        exact hdump
    · change a.getAuctionDiffType.toUInt16 = _
      rw [htype]

/-!
## The grace period
-/

/--
After some rounds, by how many of them have not seen the auction since one did.
The `later` rounds do not see it either, nor does what `r` has of one more.
-/
structure KeepsGracePeriod (categoryCount : Nat)
    (rs : List (Round AuctionSimpleInfo)) (uid : UInt32) : Prop where
  deleted : forall doFullDump alwaysWithData,
    ((create categoryCount).rounds rs).Reports doFullDump alwaysWithData uid
      DiffType.deleted ↔ roundsUnseen categoryCount rs uid = some 4
  maybeDeleted : forall alwaysWithData,
    ((create categoryCount).rounds rs).Reports true alwaysWithData uid
      DiffType.maybeDeleted ↔
        exists k, roundsUnseen categoryCount rs uid = some k ∧ 1 ≤ k ∧ k ≤ 3
  held : ((create categoryCount).rounds rs).getAuction uid = none ↔
    forall k, roundsUnseen categoryCount rs uid = some k -> 5 ≤ k
  purged : forall r,
    (((create categoryCount).rounds rs).within r).getAuction uid = none ↔
      ((create categoryCount).rounds rs).sees uid r = false ∧
        forall k, roundsUnseen categoryCount rs uid = some k -> 4 ≤ k
  cleared : forall r, ((create categoryCount).rounds rs).sees uid r = true ->
    (exists a, (((create categoryCount).rounds rs).within r).getAuction uid =
      some a ∧ a.deleted = false ∧ a.deletedCount = 0) ∧
    exists a, (((create categoryCount).rounds rs).round r).getAuction uid =
      some a ∧ a.deleted = false ∧ a.deletedCount = 0
  interval : roundsUnseen categoryCount rs uid = some 1 -> forall later,
    neverSeen uid ((create categoryCount).rounds rs) later ->
    forall a b,
      ((create categoryCount).rounds rs).getAuction uid = some a ->
      ((create categoryCount).rounds (rs ++ later)).getAuction uid = some b ->
      SameInterval uid (allCalls later) a b
  intervalWithin : roundsUnseen categoryCount rs uid = some 1 -> forall later,
    neverSeen uid ((create categoryCount).rounds rs) later ->
    forall r, ((create categoryCount).rounds (rs ++ later)).sees uid r =
        false ->
    forall a b,
      ((create categoryCount).rounds rs).getAuction uid = some a ->
      (((create categoryCount).rounds (rs ++ later)).within r).getAuction
        uid = some b ->
      SameInterval uid (allCalls (later ++ [r])) a b

section Claim

variable (categoryCount : Nat) (rs : List (Round AuctionSimpleInfo))

theorem rounds_append (w : AuctionComplexDiffWriter)
    (rs later : List (Round AuctionSimpleInfo)) :
    w.rounds (rs ++ later) = (w.rounds rs).rounds later :=
  List.foldl_append

theorem atEnd_run (uid : UInt32) :
    AtEnd (roundsUnseen categoryCount rs uid)
      (((create categoryCount).rounds rs).getAuction uid) := by
  apply atEnd_rounds
  · exact AtEnd.never
  · rfl

theorem atEnd_diffType (h : AtEnd unseen (some a)) :
    (a.getAuctionDiffType = DiffType.deleted ↔ unseen = some 4) ∧
      (a.getAuctionDiffType = DiffType.maybeDeleted ↔
        exists k, unseen = some k ∧ 1 ≤ k ∧ k ≤ 3) := by
  cases h with
  | seen hseen =>
      rw [AuctionComplexData.getAuctionDiffType]
      rcases hseen.status with hstatus | hstatus | hstatus
      · rw [hstatus]
        simp
      · rw [hstatus]
        simp
      · rw [hstatus]
        simp
  | @overdue _ k hpos hk hover =>
      rw [AuctionComplexData.getAuctionDiffType, hover.status]
      by_cases hlast : k ≤ 3
      · rw [if_pos hlast]
        simp
        lia
      · rw [if_neg hlast]
        simp
        lia

theorem atEnd_none_iff (h : AtEnd unseen view) :
    view = none ↔ forall k, unseen = some k -> 5 ≤ k := by
  cases h with
  | never => simp
  | seen hseen => simp
  | overdue hpos hk hover =>
      simp
      lia
  | purged hk =>
      simp
      lia

theorem atEnd_found (h : AtEnd unseen view) {k : Nat}
    (hunseen : unseen = some k) (hk : k ≤ 4) : exists a, view = some a := by
  cases hview : view with
  | none =>
      have hle := (atEnd_none_iff h).mp hview k hunseen
      exact absurd hle (by lia)
  | some a => exact ⟨a, rfl⟩

theorem inRound_none_iff {seen : Bool} (h : InRound seen unseen view) :
    view = none ↔ seen = false ∧ forall k, unseen = some k -> 4 ≤ k := by
  cases h with
  | seen hseen => simp
  | missing hk hmissing =>
      simp
      lia
  | gone hgone => simpa using hgone

theorem inRound_seen (h : InRound true unseen view) :
    exists a, view = some a ∧ a.Sighted := by
  cases h with
  | seen hseen => exact ⟨_, rfl, hseen⟩

theorem overdue_of_first (h : AtEnd unseen (some a))
    (hunseen : unseen = some 1) : a.Overdue 1 := by
  cases h with
  | seen hseen => cases hunseen
  | overdue hpos hk hover =>
      cases hunseen
      exact hover

theorem roundsUnseen_neverSeen {rs later : List (Round AuctionSimpleInfo)}
    (hfirst : roundsUnseen categoryCount rs uid = some 1)
    (hnever : neverSeen uid ((create categoryCount).rounds rs) later) :
    roundsUnseen categoryCount (rs ++ later) uid =
      some (1 + later.length) := by
  rw [roundsUnseen, unseenRounds_append]
  change unseenRounds uid _ (roundsUnseen categoryCount rs uid) later = _
  rw [hfirst]
  exact unseenRounds_neverSeen later hnever

theorem keepsGracePeriod (uid : UInt32) :
    KeepsGracePeriod categoryCount rs uid where
  deleted := by
    intro doFullDump alwaysWithData
    have hend := atEnd_run categoryCount rs uid
    rw [reports_iff (by cases doFullDump <;> rfl)]
    constructor
    · rintro ⟨a, hfound, htype⟩
      rw [hfound] at hend
      exact (atEnd_diffType hend).left.mp htype
    · intro hunseen
      rcases atEnd_found hend hunseen (Nat.le_refl 4) with ⟨a, hfound⟩
      rw [hfound] at hend
      exact ⟨a, hfound, (atEnd_diffType hend).left.mpr hunseen⟩
  maybeDeleted := by
    intro alwaysWithData
    have hend := atEnd_run categoryCount rs uid
    rw [reports_iff rfl]
    constructor
    · rintro ⟨a, hfound, htype⟩
      rw [hfound] at hend
      exact (atEnd_diffType hend).right.mp htype
    · rintro ⟨k, hunseen, hpos, hk⟩
      rcases atEnd_found hend hunseen (Nat.le_succ_of_le hk) with ⟨a, hfound⟩
      rw [hfound] at hend
      exact ⟨a, hfound, (atEnd_diffType hend).right.mpr
        ⟨k, hunseen, hpos, hk⟩⟩
  held := atEnd_none_iff (atEnd_run categoryCount rs uid)
  purged := fun r =>
    inRound_none_iff (atEnd_within (atEnd_run categoryCount rs uid) r)
  cleared := by
    intro r hsees
    have hwithin := atEnd_within (atEnd_run categoryCount rs uid) r
    rw [hsees] at hwithin
    rcases inRound_seen hwithin with ⟨a, hfound, hsighted⟩
    refine ⟨⟨a, hfound, hsighted.deleted, hsighted.count⟩, ⟨a, ?_,
      hsighted.deleted, hsighted.count⟩⟩
    rw [round_getAuction _ (rounds_diffMode _ rs), hfound, Option.map_some,
      hsighted.endProcess]
  interval := by
    intro hfirst later hnever a b ha hb
    have hend := atEnd_run categoryCount rs uid
    rw [ha] at hend
    have hheld := (atEnd_none_iff
      (atEnd_run categoryCount (rs ++ later) uid)).not
    rw [hb, roundsUnseen_neverSeen categoryCount hfirst hnever] at hheld
    have hk : 1 + later.length ≤ 4 := by
      simp at hheld
      lia
    rcases overdue_rounds (rounds_diffMode _ rs) Nat.one_pos ha
      (overdue_of_first hend hfirst) later hk hnever with
      ⟨b', hb', -, hsame⟩
    rw [rounds_append, hb'] at hb
    cases hb
    exact hsame
  intervalWithin := by
    intro hfirst later hnever r hunseen a b ha hb
    have hend := atEnd_run categoryCount rs uid
    rw [ha] at hend
    have hheld := (inRound_none_iff (atEnd_within
      (atEnd_run categoryCount (rs ++ later) uid) r)).not
    rw [hb, hunseen, roundsUnseen_neverSeen categoryCount hfirst hnever]
      at hheld
    have hk : 1 + later.length ≤ 3 := by
      simp at hheld
      lia
    rcases overdue_rounds (rounds_diffMode _ rs) Nat.one_pos ha
      (overdue_of_first hend hfirst) later (Nat.le_succ_of_le hk) hnever with
      ⟨b', hb', hover, hsame⟩
    rw [rounds_append] at hb hunseen
    rcases overdue_within (by lia) hk hb' hover hunseen with
      ⟨b'', hb'', -, hsame'⟩
    rw [hb''] at hb
    cases hb
    have hcalls : allCalls (later ++ [r]) = allCalls later ++ r.calls := by
      rw [allCalls, List.flatMap_append, List.flatMap_singleton, allCalls]
    rw [hcalls]
    exact hsame.trans hsame'

end Claim

/-!
A line about a deleted auction may bring its own previous time, also in a round
after the first one that does not see the auction.
-/

def deletedLater : List (Round AuctionSimpleInfo) :=
  [⟨[], [Call.addAuctionInfo ⟨1, 20, 10, 0, 0, 0, []⟩]⟩,
    ⟨[], []⟩]

def deletedAgain : Round AuctionSimpleInfo :=
  ⟨[], [Call.addAuctionInfo ⟨1, 40, 5, 2, 0, 0, []⟩]⟩

theorem not_interval_deletedAgain :
    ¬forall (categoryCount : Nat) (rs later : List (Round AuctionSimpleInfo))
      (uid : UInt32), roundsUnseen categoryCount rs uid = some 1 ->
        neverSeen uid ((create categoryCount).rounds rs) later ->
        ((create categoryCount).rounds (rs ++ later)).getAuction uid ≠ none ->
        (((create categoryCount).rounds (rs ++ later)).getAuction uid).map
            (fun a => (a.timeMin, a.timeMax)) =
          (((create categoryCount).rounds rs).getAuction uid).map
            fun a => (a.timeMin, a.timeMax) := by
  intro h
  have hsame := h 1 deletedLater [deletedAgain] 1 (by decide +kernel)
    ⟨by decide +kernel, trivial⟩ (by decide +kernel)
  exact absurd hsame (by decide +kernel)

end AuctionComplexDiffWriter

end Auction
end Rzu
