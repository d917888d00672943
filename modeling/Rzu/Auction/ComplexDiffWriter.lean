import Rzu.Auction.GenericWriter
import Rzu.Library.LittleEndian

/-!
# The complex auction writer

It parses the raw data of an auction, estimates when the auction ends, and keeps
an auction that was not seen for three more rounds.
-/

namespace Rzu
namespace Auction

open Library

def EPIC_9_5_3 : UInt32 := 0x090503
def EPIC_9_6_1 : UInt32 := 0x090601
def EPIC_9_6_7 : UInt32 := 0x090607
def EPIC_9_6_8 : UInt32 := 0x090608
def EPIC_9_7_2 : UInt32 := 0x090702
def EPIC_9_8_0 : UInt32 := 0x090800

/-- The last bytes of the raw data of an auction. -/
structure AuctionDataEnd where
  duration_type : UInt8
  bid_price : Int64
  price : Int64
  seller : List UInt8
  bid_flag : Int8

namespace AuctionDataEnd

/-- `sizeof(AuctionDataEnd)`. -/
def size : Nat := 49

def readInt64 (bytes : List UInt8) (offset : Nat) : Int64 :=
  (UInt64.ofNat (leNat ((bytes.drop offset).take 8))).toInt64

/-- The bytes are taken as they lie in memory. -/
def ofData (data : List UInt8) : AuctionDataEnd :=
  let bytes := data.drop (data.length - size)
  { duration_type := bytes.getD 0 0
    bid_price := readInt64 bytes 1
    price := readInt64 bytes 9
    seller := (bytes.drop 17).take 31
    bid_flag := (bytes.getD 48 0).toInt8 }

end AuctionDataEnd

namespace AuctionComplexData

inductive ProcessStatus where
  | notProcessed
  | unmodifed
  | added
  | updated
  | maybeDeleted
  | deleted
deriving DecidableEq

structure DynamicData where
  durationType : UInt8
  bidPrice : Int64
  bidFlag : Int8
deriving DecidableEq

/-- `DT_Unknown`, no price and `BF_Bidded`. -/
def DynamicData.initial : DynamicData := ⟨0, 0, 0⟩

end AuctionComplexData

structure AuctionComplexData where
  uid : UInt32
  category : UInt16
  timeMin : UInt64
  timeMax : UInt64
  processStatus : AuctionComplexData.ProcessStatus
  deleted : Bool
  deletedCount : Nat
  seller : List UInt8
  price : Int64
  rawDataEpic : UInt32
  rawData : List UInt8
  dynamicData : AuctionComplexData.DynamicData
  oldDynamicData : AuctionComplexData.DynamicData
  estimatedEndTimeFromAdded : Bool
  estimatedEndTimeMin : UInt64
  estimatedEndTimeMax : UInt64
deriving DecidableEq

namespace AuctionComplexData

def isInFinalState (a : AuctionComplexData) : Bool :=
  a.processStatus = ProcessStatus.deleted

instance : IAuctionData AuctionComplexData where
  getUid := uid
  isInFinalState := isInFinalState

/-- The seconds that a duration stands for, zero if it is none. -/
def durationTypeToSecond (durationType : UInt8) (epic : UInt32) : Nat :=
  if epic ≥ EPIC_9_6_8 then
    if durationType ≥ 64 then (durationType.toNat - 64) * 3600
    else if durationType ≥ 4 then (durationType.toNat - 4 + 1) * 60
    else if durationType = 3 then 7 * 24 * 3600
    else if durationType = 2 then 3 * 24 * 3600
    else if durationType = 1 then 1 * 24 * 3600
    else 0
  else
    if durationType = 3 then 72 * 3600
    else if durationType = 2 then 24 * 3600
    else if durationType = 1 then 6 * 3600
    else 0

def validEnd (epic : UInt32) (data : List UInt8) : Bool :=
  let auctionDataEnd := AuctionDataEnd.ofData data
  !(data.length < AuctionDataEnd.size || auctionDataEnd.bid_flag < 0 ||
    auctionDataEnd.bid_flag > 2 ||
    durationTypeToSecond auctionDataEnd.duration_type epic = 0)

/-- Whether the data has changed, and the auction with the data. -/
def parseData (a : AuctionComplexData) (epic : UInt32) (data : List UInt8) :
    Bool × AuctionComplexData :=
  if data = [] then (false, a)
  else if validEnd epic data then
    let auctionDataEnd := AuctionDataEnd.ofData data
    let a :=
      { a with
        rawDataEpic := epic
        rawData := data
        seller := (auctionDataEnd.seller.take 30).takeWhile (· ≠ 0)
        price := auctionDataEnd.price
        dynamicData :=
          { durationType := auctionDataEnd.duration_type
            bidPrice := auctionDataEnd.bid_price
            bidFlag := auctionDataEnd.bid_flag } }
    (a.dynamicData ≠ a.oldDynamicData, a)
  else (a.rawData ≠ data, { a with rawDataEpic := epic, rawData := data })

/-- A new duration gives a new estimate of the end. -/
def postParseData (a : AuctionComplexData) (newData : Bool) :
    AuctionComplexData :=
  let oldDurationType := a.oldDynamicData.durationType
  let newDurationType := a.dynamicData.durationType
  let durationSecond := durationTypeToSecond newDurationType a.rawDataEpic
  let endMin := UInt64.ofNat durationSecond + a.timeMin
  let endMax := UInt64.ofNat durationSecond + a.timeMax
  if newDurationType ≠ 0 ∧ durationSecond ≠ 0 then
    if ¬newData ∧ oldDurationType ≠ 0 ∧ newDurationType ≠ oldDurationType then
      { a with
        estimatedEndTimeMin :=
          if endMin > a.estimatedEndTimeMin ∨ a.estimatedEndTimeFromAdded then
            endMin
          else a.estimatedEndTimeMin
        estimatedEndTimeMax :=
          if endMax < a.estimatedEndTimeMax then endMax
          else a.estimatedEndTimeMax
        estimatedEndTimeFromAdded := false }
    else if newData ∧ a.estimatedEndTimeFromAdded then
      { a with
        estimatedEndTimeMin := endMin
        estimatedEndTimeMax := endMax }
    else a
  else a

def create (uid : UInt32) (timeMin timeMax : UInt64) (category : UInt16)
    (epic : UInt32) (data : List UInt8) : AuctionComplexData :=
  let a : AuctionComplexData :=
    { uid, category, timeMin, timeMax
      processStatus := ProcessStatus.added
      deleted := false
      deletedCount := 0
      seller := []
      price := 0
      rawDataEpic := epic
      rawData := []
      dynamicData := DynamicData.initial
      oldDynamicData := DynamicData.initial
      estimatedEndTimeFromAdded := true
      estimatedEndTimeMin := 0
      estimatedEndTimeMax := 0 }
  (a.parseData epic data).2.postParseData true

def setStatus (a : AuctionComplexData) (status : ProcessStatus)
    (time : UInt64) : AuctionComplexData :=
  let a :=
    if status = ProcessStatus.maybeDeleted ∨ status = ProcessStatus.deleted then
      { a with
        timeMax := if a.deleted then a.timeMax else time
        deleted := true }
    else if status ≠ ProcessStatus.notProcessed then
      { a with deleted := false, deletedCount := 0, timeMax := time }
    else a
  { a with processStatus := status }

def update (a : AuctionComplexData) (time : UInt64) (epic : UInt32)
    (data : List UInt8) : AuctionComplexData :=
  let parsed := a.parseData epic data
  let a := parsed.2
  let a :=
    if parsed.1 ∧ a.processStatus ≠ ProcessStatus.added then
      a.setStatus ProcessStatus.updated time
    else if ¬parsed.1 ∧ a.processStatus ≠ ProcessStatus.added ∧
        a.processStatus ≠ ProcessStatus.updated then
      a.setStatus ProcessStatus.unmodifed time
    else a
  if parsed.1 then a.postParseData false else a

def remove (a : AuctionComplexData) (time : UInt64) : AuctionComplexData :=
  if a.processStatus = ProcessStatus.notProcessed then
    a.setStatus ProcessStatus.maybeDeleted time
  else a

def unmodified (a : AuctionComplexData) (time : UInt64) :
    AuctionComplexData :=
  if a.processStatus ≠ ProcessStatus.added ∧
      a.processStatus ≠ ProcessStatus.updated then
    a.setStatus ProcessStatus.unmodifed time
  else a

def maybeStillDeleted (a : AuctionComplexData) : AuctionComplexData :=
  if a.deleted then
    let a := { a with deletedCount := a.deletedCount + 1 }
    if a.deletedCount > 3 then a.setStatus ProcessStatus.deleted a.timeMax
    else if a.processStatus = ProcessStatus.notProcessed then
      a.setStatus ProcessStatus.maybeDeleted a.timeMax
    else a
  else a

def beginProcess (a : AuctionComplexData) : AuctionComplexData :=
  if a.processStatus = ProcessStatus.deleted then a
  else
    { a with
      processStatus := ProcessStatus.notProcessed
      timeMin := if !a.deleted && a.timeMax ≠ 0 then a.timeMax else a.timeMin
      oldDynamicData := a.dynamicData }

def endProcess (a : AuctionComplexData)
    (categoryBeginTime categoryEndTime : UInt64) (diffMode : Bool) :
    AuctionComplexData :=
  let a :=
    if a.processStatus = ProcessStatus.notProcessed then
      if !diffMode then a.remove categoryEndTime
      else if !a.deleted then a.unmodified categoryBeginTime
      else a
    else a
  a.maybeStillDeleted

def getAuctionDiffType (a : AuctionComplexData) : DiffType :=
  match a.processStatus with
  | ProcessStatus.deleted => DiffType.deleted
  | ProcessStatus.added => DiffType.added
  | ProcessStatus.updated => DiffType.updated
  | ProcessStatus.unmodifed => DiffType.unmodified
  | ProcessStatus.maybeDeleted => DiffType.maybeDeleted
  | ProcessStatus.notProcessed => DiffType.invalid

def getAuctionProcessStatus (diffType : Option DiffType) : ProcessStatus :=
  match diffType with
  | some DiffType.deleted => ProcessStatus.deleted
  | some DiffType.added => ProcessStatus.added
  | some DiffType.updated => ProcessStatus.updated
  | some DiffType.unmodified => ProcessStatus.unmodifed
  | some DiffType.maybeDeleted => ProcessStatus.maybeDeleted
  | _ => ProcessStatus.notProcessed

/-- `AuctionWriter::diffTypeInPartialDump`. -/
def diffTypeInPartialDump (diffType : DiffType) : Bool :=
  diffType ≠ DiffType.unmodified && diffType ≠ DiffType.maybeDeleted

def outputInPartialDump (a : AuctionComplexData) : Bool :=
  diffTypeInPartialDump a.getAuctionDiffType

def createFromDump (info : AuctionInfo) : AuctionComplexData :=
  let a :=
    { create info.uid info.previousTime.toUInt64 info.time.toUInt64
        info.category info.epic info.data with
      deleted := info.deleted
      deletedCount := info.deletedCount.toNat
      seller := info.seller
      price := info.price
      dynamicData :=
        { durationType := info.duration_type
          bidPrice := info.bid_price
          bidFlag := info.bid_flag }
      estimatedEndTimeFromAdded := info.estimatedEndTimeFromAdded
      estimatedEndTimeMin := info.estimatedEndTimeMin.toUInt64
      estimatedEndTimeMax := info.estimatedEndTimeMax.toUInt64 }
  let processStatus :=
    getAuctionProcessStatus (DiffType.ofUInt16? info.diffType)
  if processStatus = ProcessStatus.notProcessed then a
  else { a with processStatus := processStatus }

def serialize (a : AuctionComplexData) (alwaysWithData : Bool) :
    AuctionInfo where
  uid := a.uid
  previousTime := a.timeMin.toInt64
  time := a.timeMax.toInt64
  diffType := a.getAuctionDiffType.toUInt16
  category := a.category
  deleted := a.deleted
  deletedCount := UInt8.ofNat a.deletedCount
  seller := a.seller
  price := a.price
  bid_flag := a.dynamicData.bidFlag
  bid_price := a.dynamicData.bidPrice
  duration_type := a.dynamicData.durationType
  estimatedEndTimeFromAdded := a.estimatedEndTimeFromAdded
  estimatedEndTimeMin := a.estimatedEndTimeMin.toInt64
  estimatedEndTimeMax := a.estimatedEndTimeMax.toInt64
  epic := a.rawDataEpic
  data :=
    if alwaysWithData || a.getAuctionDiffType = DiffType.added then a.rawData
    else []

section Uid

variable (a : AuctionComplexData)

@[simp] theorem parseData_uid (epic : UInt32) (data : List UInt8) :
    (a.parseData epic data).2.uid = a.uid := by
  rw [parseData]
  split
  · rfl
  · split <;> rfl

@[simp] theorem postParseData_uid (newData : Bool) :
    (a.postParseData newData).uid = a.uid := by
  simp only [postParseData]
  split
  · split
    · rfl
    · split <;> rfl
  · rfl

@[simp] theorem create_uid (uid : UInt32) (timeMin timeMax : UInt64)
    (category : UInt16) (epic : UInt32) (data : List UInt8) :
    (create uid timeMin timeMax category epic data).uid = uid := by
  simp [create]

@[simp] theorem setStatus_uid (status : ProcessStatus) (time : UInt64) :
    (a.setStatus status time).uid = a.uid := by
  rw [setStatus]
  split
  · rfl
  · split <;> rfl

@[simp] theorem update_uid (time : UInt64) (epic : UInt32)
    (data : List UInt8) : (a.update time epic data).uid = a.uid := by
  simp only [update]
  split
  · split
    · simp
    · split <;> simp
  · split
    · simp
    · split <;> simp

@[simp] theorem remove_uid (time : UInt64) :
    (a.remove time).uid = a.uid := by
  rw [remove]
  split
  · exact a.setStatus_uid _ _
  · rfl

@[simp] theorem unmodified_uid (time : UInt64) :
    (a.unmodified time).uid = a.uid := by
  rw [unmodified]
  split
  · exact a.setStatus_uid _ _
  · rfl

@[simp] theorem maybeStillDeleted_uid : a.maybeStillDeleted.uid = a.uid := by
  simp only [maybeStillDeleted]
  split
  · split
    · simp
    · split <;> simp
  · rfl

@[simp] theorem beginProcess_uid : a.beginProcess.uid = a.uid := by
  rw [beginProcess]
  split <;> rfl

@[simp] theorem endProcess_uid (categoryBeginTime categoryEndTime : UInt64)
    (diffMode : Bool) :
    (a.endProcess categoryBeginTime categoryEndTime diffMode).uid =
      a.uid := by
  simp only [endProcess, maybeStillDeleted_uid]
  split
  · split
    · simp
    · split <;> simp
  · rfl

@[simp] theorem createFromDump_uid (info : AuctionInfo) :
    (createFromDump info).uid = info.uid := by
  simp only [createFromDump]
  split
  · exact create_uid _ _ _ _ _ _
  · exact create_uid _ _ _ _ _ _

end Uid

def onUpdate (timeMin : Option UInt64) (time : UInt64) (epic : UInt32)
    (data : List UInt8) : Callback AuctionComplexData where
  run a := update { a with timeMin := timeMin.getD a.timeMin } time epic data
  uid _ := update_uid _ _ _ _

def onRemove (timeMin : Option UInt64) (time : UInt64) :
    Callback AuctionComplexData where
  run a := remove { a with timeMin := timeMin.getD a.timeMin } time
  uid _ := remove_uid _ _

def onBegin : Callback AuctionComplexData where
  run := beginProcess
  uid := beginProcess_uid

def onEnd (m : CategoryTimeManager) (diffMode : Bool) :
    Callback AuctionComplexData where
  run a := a.endProcess
    (m.getEstimatedCategoryBeginTime a.category.toNat).toUInt64
    (m.getEstimatedCategoryEndTime a.category.toNat).toUInt64 diffMode
  uid a := a.endProcess_uid _ _ _

end AuctionComplexData

structure AuctionComplexDiffWriter extends
    AuctionGenericWriter AuctionComplexData where
  diffMode : Bool

namespace AuctionComplexDiffWriter

def create (categoryCount : Nat) : AuctionComplexDiffWriter where
  toAuctionGenericWriter := AuctionGenericWriter.create categoryCount
  diffMode := false

def base (w : AuctionComplexDiffWriter)
    (f : AuctionGenericWriter AuctionComplexData ->
      AuctionGenericWriter AuctionComplexData) : AuctionComplexDiffWriter :=
  { w with toAuctionGenericWriter := f w.toAuctionGenericWriter }

def setDiffInputMode (w : AuctionComplexDiffWriter) (diffMode : Bool) :
    AuctionComplexDiffWriter :=
  { w with diffMode := diffMode }

def parseEpic (inputEpic : UInt32) (timestamp : Int64) : UInt32 :=
  if inputEpic ≠ 0xFFFFFF then
    if inputEpic = EPIC_9_6_7 ∧ timestamp ≥ 1634716800 then EPIC_9_6_8
    else if inputEpic = EPIC_9_7_2 ∧ timestamp ≥ 1674115200 then EPIC_9_8_0
    else inputEpic
  else if timestamp < 1552986000 then EPIC_9_5_3
  else EPIC_9_6_1

/-- The lower end of the times that an auction gets, if it gets a new one. -/
def estimatedTruePreviousTime (m : CategoryTimeManager)
    (known : Option AuctionComplexData) (auction : AuctionSimpleInfo) :
    Option UInt64 :=
  let previousBegin :=
    m.getEstimatedPreviousCategoryBeginTime auction.category.toNat
  let time :=
    if auction.previousTime ≠ 0 then auction.previousTime.toUInt64
    else match known with
      | some auctionInfo =>
          if auctionInfo.timeMin.toInt64 ≤ previousBegin then
            previousBegin.toUInt64
          else 0
      | none => 0
  if time ≠ 0 then some time else none

def addAuctionInfo (w : AuctionComplexDiffWriter)
    (auction : AuctionSimpleInfo) : AuctionComplexDiffWriter :=
  if auction.category.toNat ≥ w.categoryTimeManager.getCategoryNumber then w
  else
    let m := w.categoryTimeManager.adjustCategoryTimeRange
      auction.category.toNat auction.time
    let w := { w with categoryTimeManager := m }
    let auctionInfo := w.getAuction auction.uid
    let timeMin := estimatedTruePreviousTime m auctionInfo auction
    let epic := parseEpic auction.epic auction.time
    match DiffType.ofUInt16? auction.diffType with
    | some DiffType.base | some DiffType.added | some DiffType.updated =>
        match auctionInfo with
        | some _ =>
            w.base fun w => w.modifyAuction auction.uid
              (AuctionComplexData.onUpdate timeMin auction.time.toUInt64 epic
                auction.data)
        | none =>
            let previousTimeToUse :=
              if auction.previousTime ≠ 0 then auction.previousTime
              else m.getEstimatedPreviousCategoryBeginTime
                auction.category.toNat
            w.base fun w => w.addAuction
              (AuctionComplexData.create auction.uid
                previousTimeToUse.toUInt64 auction.time.toUInt64
                auction.category epic auction.data)
    | some DiffType.deleted =>
        match auctionInfo with
        | some _ =>
            w.base fun w => w.modifyAuction auction.uid
              (AuctionComplexData.onRemove timeMin auction.time.toUInt64)
        | none => w
    | _ => w

section Spec

variable {w : AuctionComplexDiffWriter} {auction : AuctionSimpleInfo}
  {diffType : DiffType}
  (hcategory : auction.category.toNat <
    w.categoryTimeManager.getCategoryNumber)

include hcategory

theorem addAuctionInfo_updated
    (hdiffType : DiffType.ofUInt16? auction.diffType = some diffType)
    (hseen : diffType = DiffType.base ∨ diffType = DiffType.added ∨
      diffType = DiffType.updated)
    {a : AuctionComplexData} (hfound : w.getAuction auction.uid = some a) :
    exists m timeMin, w.addAuctionInfo auction =
      base { w with categoryTimeManager := m } fun w =>
        w.modifyAuction auction.uid
          (AuctionComplexData.onUpdate timeMin auction.time.toUInt64
            (parseEpic auction.epic auction.time) auction.data) := by
  rw [AuctionGenericWriter.getAuction] at hfound
  simp only [addAuctionInfo, if_neg (Nat.not_le.mpr hcategory), hdiffType,
    AuctionGenericWriter.getAuction, hfound]
  rcases hseen with heq | heq | heq
  all_goals rw [heq]
  all_goals exact ⟨_, _, rfl⟩

theorem addAuctionInfo_added
    (hdiffType : DiffType.ofUInt16? auction.diffType = some diffType)
    (hseen : diffType = DiffType.base ∨ diffType = DiffType.added ∨
      diffType = DiffType.updated)
    (hfound : w.getAuction auction.uid = none) :
    exists m timeMin, w.addAuctionInfo auction =
      base { w with categoryTimeManager := m } fun w => w.addAuction
        (AuctionComplexData.create auction.uid timeMin auction.time.toUInt64
          auction.category (parseEpic auction.epic auction.time)
          auction.data) := by
  rw [AuctionGenericWriter.getAuction] at hfound
  simp only [addAuctionInfo, if_neg (Nat.not_le.mpr hcategory), hdiffType,
    AuctionGenericWriter.getAuction, hfound]
  rcases hseen with heq | heq | heq
  all_goals rw [heq]
  all_goals exact ⟨_, _, rfl⟩

theorem addAuctionInfo_removed
    (hdiffType : DiffType.ofUInt16? auction.diffType = some DiffType.deleted)
    {a : AuctionComplexData} (hfound : w.getAuction auction.uid = some a) :
    exists m timeMin, w.addAuctionInfo auction =
      base { w with categoryTimeManager := m } fun w =>
        w.modifyAuction auction.uid
          (AuctionComplexData.onRemove timeMin auction.time.toUInt64) := by
  rw [AuctionGenericWriter.getAuction] at hfound
  simp only [addAuctionInfo, if_neg (Nat.not_le.mpr hcategory), hdiffType,
    AuctionGenericWriter.getAuction, hfound]
  exact ⟨_, _, rfl⟩

theorem addAuctionInfo_missing
    (hdiffType : DiffType.ofUInt16? auction.diffType = some DiffType.deleted)
    (hfound : w.getAuction auction.uid = none) :
    exists m, w.addAuctionInfo auction =
      { w with categoryTimeManager := m } := by
  rw [AuctionGenericWriter.getAuction] at hfound
  simp only [addAuctionInfo, if_neg (Nat.not_le.mpr hcategory), hdiffType,
    AuctionGenericWriter.getAuction, hfound]
  exact ⟨_, rfl⟩

theorem addAuctionInfo_ignored
    (hdiffType : DiffType.ofUInt16? auction.diffType ∈
      [none, some DiffType.unmodified, some DiffType.maybeDeleted,
        some DiffType.invalid]) :
    exists m, w.addAuctionInfo auction =
      { w with categoryTimeManager := m } := by
  simp only [addAuctionInfo, if_neg (Nat.not_le.mpr hcategory)]
  generalize DiffType.ofUInt16? auction.diffType = diffType at hdiffType
  simp only [List.mem_cons, List.not_mem_nil, or_false] at hdiffType
  rcases hdiffType with heq | heq | heq | heq
  · rw [heq]
    exact ⟨_, rfl⟩
  · rw [heq]
    exact ⟨_, rfl⟩
  · rw [heq]
    exact ⟨_, rfl⟩
  · rw [heq]
    exact ⟨_, rfl⟩

end Spec

/-- What a call can do, whatever it does to the times of the categories. -/
theorem addAuctionInfo_cases (w : AuctionComplexDiffWriter)
    (auction : AuctionSimpleInfo) :
    exists w' : AuctionComplexDiffWriter,
      w'.auctions = w.auctions ∧ w'.diffMode = w.diffMode ∧
      (w.addAuctionInfo auction = w' ∨
        (exists timeMin epic, w.addAuctionInfo auction =
          w'.base fun w => w.modifyAuction auction.uid
            (AuctionComplexData.onUpdate timeMin auction.time.toUInt64 epic
              auction.data)) ∨
        (exists timeMin epic, w.addAuctionInfo auction =
          w'.base fun w => w.addAuction
            (AuctionComplexData.create auction.uid timeMin
              auction.time.toUInt64 auction.category epic auction.data)) ∨
        exists timeMin, w.addAuctionInfo auction =
          w'.base fun w => w.modifyAuction auction.uid
            (AuctionComplexData.onRemove timeMin auction.time.toUInt64)) := by
  by_cases hcategory :
      auction.category.toNat ≥ w.categoryTimeManager.getCategoryNumber
  · refine ⟨w, rfl, rfl, Or.inl ?_⟩
    rw [addAuctionInfo, if_pos hcategory]
  · refine ⟨{ w with categoryTimeManager :=
      (w.categoryTimeManager.adjustCategoryTimeRange auction.category.toNat
        auction.time) }, rfl, rfl, ?_⟩
    rw [addAuctionInfo, if_neg hcategory]
    cases DiffType.ofUInt16? auction.diffType with
    | none => exact Or.inl rfl
    | some diffType =>
        cases diffType with
        | base | added | updated =>
            dsimp only
            split
            · exact Or.inr (Or.inl ⟨_, _, rfl⟩)
            · exact Or.inr (Or.inr (Or.inl ⟨_, _, rfl⟩))
        | deleted =>
            dsimp only
            split
            · exact Or.inr (Or.inr (Or.inr ⟨_, rfl⟩))
            · exact Or.inl rfl
        | unmodified | maybeDeleted | invalid => exact Or.inl rfl

theorem addAuctionInfo_diffMode (w : AuctionComplexDiffWriter)
    (auction : AuctionSimpleInfo) :
    (w.addAuctionInfo auction).diffMode = w.diffMode := by
  rcases addAuctionInfo_cases w auction with ⟨w', -, hmode, hcases⟩
  rw [← hmode]
  rcases hcases with heq | ⟨timeMin, epic, heq⟩ | ⟨timeMin, epic, heq⟩ |
    ⟨timeMin, heq⟩
  · rw [heq]
  · rw [heq]
    rfl
  · rw [heq]
    rfl
  · rw [heq]
    rfl

def beginProcess (w : AuctionComplexDiffWriter) : AuctionComplexDiffWriter :=
  w.base fun w => w.beginProcess AuctionComplexData.onBegin

def endProcess (w : AuctionComplexDiffWriter) : AuctionComplexDiffWriter :=
  w.base fun base => base.endProcess
    (AuctionComplexData.onEnd w.categoryTimeManager w.diffMode)

def exportDump (w : AuctionComplexDiffWriter)
    (doFullDump alwaysWithData : Bool) : AuctionFile where
  header := w.categoryTimeManager.serializeHeader
    (if doFullDump then DumpType.full else DumpType.diff)
  auctions := (w.auctions.elements.filter fun auction =>
    doFullDump || auction.outputInPartialDump).map fun auction =>
      auction.serialize alwaysWithData

def importDump (w : AuctionComplexDiffWriter) (auctionFile : AuctionFile) :
    AuctionComplexDiffWriter :=
  w.base fun w => w.importAuctions auctionFile.header
    (auctionFile.auctions.map AuctionComplexData.createFromDump)

def category (w : AuctionComplexDiffWriter) (call : CategoryCall) :
    AuctionComplexDiffWriter :=
  { w with categoryTimeManager := w.categoryTimeManager.call call }

def call (w : AuctionComplexDiffWriter) :
    Call AuctionSimpleInfo -> AuctionComplexDiffWriter
  | Call.category c => w.category c
  | Call.addAuctionInfo auction => w.addAuctionInfo auction

def round (w : AuctionComplexDiffWriter) (r : Round AuctionSimpleInfo) :
    AuctionComplexDiffWriter :=
  endProcess (r.calls.foldl call (beginProcess (r.before.foldl category w)))

def rounds (w : AuctionComplexDiffWriter)
    (rs : List (Round AuctionSimpleInfo)) : AuctionComplexDiffWriter :=
  rs.foldl round w

theorem foldl_category (w : AuctionComplexDiffWriter)
    (calls : List CategoryCall) :
    calls.foldl category w =
      { w with categoryTimeManager :=
          calls.foldl CategoryTimeManager.call w.categoryTimeManager } := by
  induction calls generalizing w with
  | nil => rfl
  | cons first rest ih => exact ih (w.category first)

theorem foldl_diffMode (w : AuctionComplexDiffWriter)
    (calls : List (Call AuctionSimpleInfo)) :
    (calls.foldl call w).diffMode = w.diffMode := by
  induction calls generalizing w with
  | nil => rfl
  | cons first rest ih =>
      rw [List.foldl_cons, ih]
      cases first with
      | category call => rfl
      | addAuctionInfo auction => exact addAuctionInfo_diffMode w auction

theorem round_diffMode (w : AuctionComplexDiffWriter)
    (r : Round AuctionSimpleInfo) : (w.round r).diffMode = w.diffMode := by
  change (r.calls.foldl call _).diffMode = _
  rw [foldl_diffMode, foldl_category]
  rfl

theorem rounds_diffMode (w : AuctionComplexDiffWriter)
    (rs : List (Round AuctionSimpleInfo)) :
    (w.rounds rs).diffMode = w.diffMode := by
  induction rs generalizing w with
  | nil => rfl
  | cons r rs ih => exact (ih (w.round r)).trans (w.round_diffMode r)

end AuctionComplexDiffWriter

end Auction
end Rzu
