import Rzu.Auction.ComplexDiffWriter

/-!
# Restarts of the complex writer

A dump keeps all of an auction but the data of the round before, which the next
round overwrites.
-/

namespace Rzu
namespace Auction

open Library

namespace AuctionComplexData

/-- What holds of an auction after a round. -/
structure Settled (a : AuctionComplexData) : Prop where
  processed : a.processStatus ≠ ProcessStatus.notProcessed
  count : a.deletedCount ≤ 4
  final : 3 < a.deletedCount -> a.processStatus = ProcessStatus.deleted

/-- What holds of an auction during a round. -/
def Young (a : AuctionComplexData) : Prop := a.deletedCount ≤ 3

variable {a : AuctionComplexData}

theorem Settled.beginProcess (h : a.Settled)
    (hlive : a.isInFinalState = false) : a.beginProcess.Young := by
  have hstatus : a.processStatus ≠ ProcessStatus.deleted := by
    simpa [isInFinalState] using hlive
  have hcount : a.deletedCount ≤ 3 := by
    by_contra hlarge
    exact hstatus (h.final (by lia))
  rw [Young, AuctionComplexData.beginProcess, if_neg hstatus]
  exact hcount

theorem parseData_deletedCount (a : AuctionComplexData) (epic : UInt32)
    (data : List UInt8) :
    (a.parseData epic data).2.deletedCount = a.deletedCount := by
  rw [parseData]
  split
  · rfl
  · split <;> rfl

theorem postParseData_deletedCount (a : AuctionComplexData)
    (newData : Bool) :
    (a.postParseData newData).deletedCount = a.deletedCount := by
  simp only [postParseData]
  split
  · split
    · rfl
    · split <;> rfl
  · rfl

theorem create_young (uid : UInt32) (timeMin timeMax : UInt64)
    (category : UInt16) (epic : UInt32) (data : List UInt8) :
    (create uid timeMin timeMax category epic data).Young := by
  rw [Young, create, postParseData_deletedCount, parseData_deletedCount]
  exact Nat.zero_le _

theorem Young.setStatus (h : a.Young) (status : ProcessStatus)
    (time : UInt64) : (a.setStatus status time).Young := by
  rw [AuctionComplexData.setStatus]
  split
  · exact h
  · split
    · exact Nat.zero_le _
    · exact h

theorem Young.update (h : a.Young) (time : UInt64) (epic : UInt32)
    (data : List UInt8) : (a.update time epic data).Young := by
  have hparsed : (a.parseData epic data).2.Young := by
    rw [Young, parseData_deletedCount]
    exact h
  simp only [AuctionComplexData.update]
  generalize (a.parseData epic data).2 = parsed at hparsed
  have hstatus : forall b : AuctionComplexData, b.Young ->
      (if (a.parseData epic data).1 then b.postParseData false else b).Young := by
    intro b hb
    split
    · rw [Young, postParseData_deletedCount]
      exact hb
    · exact hb
  apply hstatus
  split
  · exact hparsed.setStatus _ _
  · split
    · exact hparsed.setStatus _ _
    · exact hparsed

theorem Young.remove (h : a.Young) (time : UInt64) :
    (a.remove time).Young := by
  rw [AuctionComplexData.remove]
  split
  · exact h.setStatus _ _
  · exact h

theorem maybeStillDeleted_settled (h : a.Young)
    (hprocessed : a.processStatus = ProcessStatus.notProcessed ->
      a.deleted = true) : a.maybeStillDeleted.Settled := by
  have hcount : a.deletedCount ≤ 3 := h
  simp only [maybeStillDeleted]
  split
  · split
    · constructor
      · exact fun hstatus => by cases hstatus
      · change a.deletedCount + 1 ≤ 4
        lia
      · exact fun _ => rfl
    · rename_i hfew
      have hsmall : a.deletedCount + 1 ≤ 3 := by
        simpa using hfew
      split
      · constructor
        · exact fun hstatus => by cases hstatus
        · change a.deletedCount + 1 ≤ 4
          lia
        · exact fun hlarge => absurd hlarge (Nat.not_lt.mpr hsmall)
      · rename_i hstatus
        exact ⟨hstatus, Nat.le_succ_of_le hsmall,
          fun hlarge => absurd hlarge (Nat.not_lt.mpr hsmall)⟩
  · rename_i hdeleted
    exact ⟨fun hstatus => hdeleted (hprocessed hstatus),
      Nat.le_succ_of_le hcount, fun hlarge => absurd hlarge
        (Nat.not_lt.mpr hcount)⟩

theorem Young.endProcess (h : a.Young)
    (categoryBeginTime categoryEndTime : UInt64) (diffMode : Bool) :
    (a.endProcess categoryBeginTime categoryEndTime diffMode).Settled := by
  simp only [AuctionComplexData.endProcess]
  by_cases hstatus : a.processStatus = ProcessStatus.notProcessed
  · rw [if_pos hstatus]
    cases diffMode with
    | false =>
        have hremoved : a.remove categoryEndTime =
            a.setStatus ProcessStatus.maybeDeleted categoryEndTime := by
          rw [AuctionComplexData.remove, if_pos hstatus]
        refine maybeStillDeleted_settled (h.remove _) ?_
        intro hremain
        change (a.remove categoryEndTime).processStatus = _ at hremain
        rw [hremoved] at hremain
        cases hremain
    | true =>
        cases hdeleted : a.deleted with
        | true =>
            exact maybeStillDeleted_settled h fun _ => hdeleted
        | false =>
            have hunmodified : a.unmodified categoryBeginTime =
                a.setStatus ProcessStatus.unmodifed categoryBeginTime := by
              rw [unmodified, hstatus, if_pos ⟨by decide, by decide⟩]
            have hyoung : (a.unmodified categoryBeginTime).Young := by
              rw [hunmodified]
              exact h.setStatus _ _
            refine maybeStillDeleted_settled hyoung ?_
            intro hremain
            change (a.unmodified categoryBeginTime).processStatus = _ at hremain
            rw [hunmodified] at hremain
            cases hremain
  · rw [if_neg hstatus]
    exact maybeStillDeleted_settled h fun hprocessed =>
      absurd hprocessed hstatus

/-!
### What a dump keeps
-/

theorem create_fields (uid : UInt32) (timeMin timeMax : UInt64)
    (category : UInt16) (epic : UInt32) (data : List UInt8) :
    exists parsed : AuctionComplexData,
      create uid timeMin timeMax category epic data =
        { parsed with
          uid := uid
          category := category
          timeMin := timeMin
          timeMax := timeMax
          processStatus := ProcessStatus.added
          rawDataEpic := epic
          rawData := data
          oldDynamicData := DynamicData.initial } := by
  refine ⟨create uid timeMin timeMax category epic data, ?_⟩
  have hpost : forall (b : AuctionComplexData) (newData : Bool),
      b.postParseData newData =
        { b.postParseData newData with
          uid := b.uid
          category := b.category
          timeMin := b.timeMin
          timeMax := b.timeMax
          processStatus := b.processStatus
          rawDataEpic := b.rawDataEpic
          rawData := b.rawData
          oldDynamicData := b.oldDynamicData } := by
    intro b newData
    simp only [postParseData]
    split
    · split
      · rfl
      · split <;> rfl
    · rfl
  rw [create, hpost]
  by_cases hdata : data = []
  · subst hdata
    rfl
  · rw [parseData, if_neg hdata]
    split <;> rfl

/-- Of an auction, a dump does not keep what the next round overwrites. -/
def restored (a : AuctionComplexData) : AuctionComplexData :=
  { a with oldDynamicData := DynamicData.initial }

theorem createFromDump_serialize (h : a.Settled) :
    createFromDump (a.serialize true) = a.restored := by
  have hcount : (UInt8.ofNat a.deletedCount).toNat = a.deletedCount := by
    have hle := h.count
    exact UInt8.toNat_ofNat_of_lt' (by lia)
  have hstatus : getAuctionProcessStatus
      (DiffType.ofUInt16? (a.serialize true).diffType) = a.processStatus := by
    change getAuctionProcessStatus
      (DiffType.ofUInt16? a.getAuctionDiffType.toUInt16) = _
    rw [DiffType.ofUInt16?_toUInt16, getAuctionDiffType]
    cases hprocess : a.processStatus with
    | notProcessed => exact absurd hprocess h.processed
    | unmodifed | added | updated | maybeDeleted | deleted => rfl
  rcases create_fields a.uid a.timeMin a.timeMax a.category a.rawDataEpic
    a.rawData with ⟨parsed, hparsed⟩
  simp only [createFromDump, hstatus, if_neg h.processed]
  simp only [serialize, UInt64.toUInt64_toInt64, Bool.true_or, if_true,
    hcount]
  rw [hparsed]
  rfl

theorem beginProcess_restored (hlive : a.isInFinalState = false) :
    a.restored.beginProcess = a.beginProcess := by
  have hstatus : a.processStatus ≠ ProcessStatus.deleted := by
    simpa [isInFinalState] using hlive
  have hstatus' : a.restored.processStatus ≠ ProcessStatus.deleted := hstatus
  rw [beginProcess, beginProcess, if_neg hstatus, if_neg hstatus']
  rfl

end AuctionComplexData

namespace AuctionComplexDiffWriter

/-- What holds after every round. -/
structure Settled (w : AuctionComplexDiffWriter) : Prop where
  justReset : w.categoryTimeManager.JustReset
  auctions : w.Each AuctionComplexData.Settled

theorem create_settled (categoryCount : Nat) (diffMode : Bool) :
    ((create categoryCount).setDiffInputMode diffMode).Settled where
  justReset := CategoryTimeManager.create_justReset categoryCount
  auctions := AuctionGenericWriter.Each.create categoryCount _

variable {w : AuctionComplexDiffWriter}

theorem addAuctionInfo_young
    (h : w.Each AuctionComplexData.Young) (auction : AuctionSimpleInfo) :
    (w.addAuctionInfo auction).Each AuctionComplexData.Young := by
  rcases addAuctionInfo_cases w auction with ⟨w', hauctions, -, hcases⟩
  have hyoung : w'.Each AuctionComplexData.Young := by
    rw [AuctionGenericWriter.Each, hauctions]
    exact h
  rcases hcases with heq | ⟨timeMin, epic, heq⟩ | ⟨timeMin, epic, heq⟩ |
    ⟨timeMin, heq⟩
  · rw [heq]
    exact hyoung
  · rw [heq]
    refine hyoung.modifyAuction _ ?_
    intro a ha
    have hmoved : { a with timeMin := timeMin.getD a.timeMin }.Young := ha
    exact hmoved.update _ _ _
  · rw [heq]
    exact hyoung.addAuction (AuctionComplexData.create_young _ _ _ _ _ _)
  · rw [heq]
    refine hyoung.modifyAuction _ ?_
    intro a ha
    have hmoved : { a with timeMin := timeMin.getD a.timeMin }.Young := ha
    exact hmoved.remove _

theorem call_young (h : w.Each AuctionComplexData.Young)
    (c : Call AuctionSimpleInfo) :
    (w.call c).Each AuctionComplexData.Young := by
  cases c with
  | category call => exact h
  | addAuctionInfo auction => exact addAuctionInfo_young h auction

theorem Settled.round (h : w.Settled) (r : Round AuctionSimpleInfo) :
    (w.round r).Settled := by
  have hbegin : (beginProcess (r.before.foldl category w)).Each
      AuctionComplexData.Young := by
    rw [foldl_category]
    exact AuctionGenericWriter.Each.beginProcess h.auctions
      fun _ hsettled hlive => hsettled.beginProcess hlive
  have hcalls : forall (calls : List (Call AuctionSimpleInfo))
      (w : AuctionComplexDiffWriter), w.Each AuctionComplexData.Young ->
      (calls.foldl call w).Each AuctionComplexData.Young := by
    intro calls
    induction calls with
    | nil => exact fun w hw => hw
    | cons first rest ih => exact fun w hw => ih _ (call_young hw first)
  constructor
  · exact ⟨_, rfl⟩
  · exact AuctionGenericWriter.Each.endProcess (hcalls _ _ hbegin)
      fun _ hyoung => AuctionComplexData.Young.endProcess hyoung _ _ _

theorem Settled.rounds (h : w.Settled) (rs : List (Round AuctionSimpleInfo)) :
    (w.rounds rs).Settled := by
  induction rs generalizing w with
  | nil => exact h
  | cons r rest ih => exact ih (h.round r)

structure Restarted (w w' : AuctionComplexDiffWriter) : Prop where
  manager : w'.categoryTimeManager = w.categoryTimeManager
  mode : w'.diffMode = w.diffMode
  auctions : w'.auctions =
    w.auctions.map AuctionComplexData.restored fun _ => rfl

theorem restarted_importDump (h : w.Settled) (fresh : AuctionComplexDiffWriter)
    (hmode : fresh.diffMode = w.diffMode) :
    Restarted w (fresh.importDump (w.exportDump true true)) where
  manager := CategoryTimeManager.deserializeHeader_serializeHeader
    h.justReset _
  mode := hmode
  auctions := by
    have hfull : (w.exportDump true true).auctions =
        w.auctions.elements.map fun a => a.serialize true := by
      change (w.auctions.elements.filter fun _ => true).map _ = _
      rw [List.filter_true]
    have hrestored : (w.exportDump true true).auctions.map
        AuctionComplexData.createFromDump =
          w.auctions.elements.map AuctionComplexData.restored := by
      rw [hfull, List.map_map]
      exact List.map_congr_left fun a ha =>
        AuctionComplexData.createFromDump_serialize (h.auctions a ha)
    change (FlatMap.empty).insertAll _ = _
    rw [hrestored]
    exact w.auctions.insertAll_map _

variable {w' : AuctionComplexDiffWriter}

/-- The next round makes the restarted writer the same as the other. -/
theorem Restarted.round (h : Restarted w w') (r : Round AuctionSimpleInfo) :
    w'.round r = w.round r := by
  have hsame : beginProcess (r.before.foldl category w') =
      beginProcess (r.before.foldl category w) := by
    rw [foldl_category, foldl_category]
    have hauctions : ((w.auctions.map AuctionComplexData.restored
        fun _ => rfl).filter fun auction => !auction.isInFinalState).map
          AuctionComplexData.beginProcess AuctionComplexData.onBegin.key =
        (w.auctions.filter fun auction => !auction.isInFinalState).map
          AuctionComplexData.beginProcess AuctionComplexData.onBegin.key := by
      apply FlatMap.ext
      change ((w.auctions.elements.map AuctionComplexData.restored).filter
          fun auction => !auction.isInFinalState).map _ =
        (w.auctions.elements.filter fun auction =>
          !auction.isInFinalState).map _
      rw [List.filter_map, List.map_map]
      refine List.map_congr_left ?_
      intro a ha
      have hlive : (!a.isInFinalState) = true := (List.mem_filter.mp ha).right
      exact AuctionComplexData.beginProcess_restored (by simpa using hlive)
    rw [← h.auctions] at hauctions
    cases w with
    | mk base mode =>
        cases w' with
        | mk base' mode' =>
            have hmanager := h.manager
            have hmode := h.mode
            change base'.categoryTimeManager = base.categoryTimeManager
              at hmanager
            change mode' = mode at hmode
            subst hmode
            simp only [beginProcess, AuctionComplexDiffWriter.base,
              AuctionGenericWriter.beginProcess, hmanager]
            congr 2
  rw [AuctionComplexDiffWriter.round, AuctionComplexDiffWriter.round, hsame]

theorem Restarted.exportDump (h : Restarted w w')
    (doFullDump alwaysWithData : Bool) :
    w'.exportDump doFullDump alwaysWithData =
      w.exportDump doFullDump alwaysWithData := by
  rw [AuctionComplexDiffWriter.exportDump, AuctionComplexDiffWriter.exportDump,
    h.manager, h.auctions]
  congr 1
  change ((w.auctions.elements.map AuctionComplexData.restored).filter
    _).map _ = _
  rw [List.filter_map, List.map_map]
  rfl

end AuctionComplexDiffWriter

end Auction
end Rzu
