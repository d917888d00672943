import Rzu.Auction.GenericWriter

/-!
# The simple auction writer

It compares the raw data of an auction with what it saw in the last round.
-/

namespace Rzu
namespace Auction

namespace AuctionSimpleData

inductive ProcessStatus where
  | notProcessed
  | unmodifed
  | added
  | updated
  | deleted
deriving DecidableEq

end AuctionSimpleData

structure AuctionSimpleData where
  uid : UInt32
  category : UInt16
  timeMin : UInt64
  timeMax : UInt64
  processStatus : AuctionSimpleData.ProcessStatus
  rawDataEpic : UInt32
  rawData : List UInt8
deriving DecidableEq

namespace AuctionSimpleData

def isInFinalState (a : AuctionSimpleData) : Bool :=
  a.processStatus = ProcessStatus.deleted

instance : IAuctionData AuctionSimpleData where
  getUid := uid
  isInFinalState := isInFinalState

def parseData (a : AuctionSimpleData) (epic : UInt32) (data : List UInt8) :
    Bool × AuctionSimpleData :=
  if data = [] then (false, a)
  else (a.rawData ≠ data, { a with rawDataEpic := epic, rawData := data })

/-- Without data the epic stays what the memory of the new object held. -/
def create (memory uid : UInt32) (timeMin timeMax : UInt64)
    (category : UInt16) (epic : UInt32) (data : List UInt8) :
    AuctionSimpleData :=
  (parseData
    { uid, category, timeMin, timeMax
      processStatus := ProcessStatus.added
      rawDataEpic := memory
      rawData := [] } epic data).2

def setStatus (a : AuctionSimpleData) (status : ProcessStatus)
    (time : UInt64) : AuctionSimpleData :=
  let a := if (status = ProcessStatus.deleted ∧
      a.processStatus ≠ ProcessStatus.deleted) ∨
      status ≠ ProcessStatus.notProcessed then
    { a with timeMax := time } else a
  { a with processStatus := status }

def doUpdate (a : AuctionSimpleData) (timeMax : UInt64) (epic : UInt32)
    (data : List UInt8) : AuctionSimpleData :=
  let parsed := a.parseData epic data
  let a := parsed.2
  if parsed.1 ∧ a.processStatus ≠ ProcessStatus.added then
    a.setStatus ProcessStatus.updated timeMax
  else if ¬parsed.1 ∧ a.processStatus ≠ ProcessStatus.added ∧
      a.processStatus ≠ ProcessStatus.updated then
    a.setStatus ProcessStatus.unmodifed timeMax
  else a

def beginProcess (a : AuctionSimpleData) : AuctionSimpleData :=
  if a.processStatus = ProcessStatus.deleted then a
  else
    { a with
      processStatus := ProcessStatus.notProcessed
      timeMin := a.timeMax }

def endProcess (a : AuctionSimpleData) (categoryEndTime : UInt64) :
    AuctionSimpleData :=
  if a.processStatus = ProcessStatus.notProcessed then
    a.setStatus ProcessStatus.deleted categoryEndTime
  else a

def getAuctionDiffType (a : AuctionSimpleData) : DiffType :=
  match a.processStatus with
  | ProcessStatus.deleted => DiffType.deleted
  | ProcessStatus.added => DiffType.added
  | ProcessStatus.updated => DiffType.updated
  | ProcessStatus.unmodifed => DiffType.unmodified
  | ProcessStatus.notProcessed => DiffType.invalid

def getAuctionProcessStatus (diffType : Option DiffType) : ProcessStatus :=
  match diffType with
  | some DiffType.deleted => ProcessStatus.deleted
  | some DiffType.added => ProcessStatus.added
  | some DiffType.updated => ProcessStatus.updated
  | some DiffType.unmodified => ProcessStatus.unmodifed
  | _ => ProcessStatus.notProcessed

def outputInPartialDump (a : AuctionSimpleData) : Bool :=
  a.getAuctionDiffType ≠ DiffType.unmodified

def createFromDump (memory : UInt32) (info : AuctionSimpleInfo) :
    AuctionSimpleData :=
  let a := create memory info.uid info.previousTime.toUInt64
    info.time.toUInt64 info.category info.epic info.data
  let processStatus :=
    getAuctionProcessStatus (DiffType.ofUInt16? info.diffType)
  if processStatus = ProcessStatus.notProcessed then a
  else { a with processStatus := processStatus }

def serialize (a : AuctionSimpleData) : AuctionSimpleInfo where
  uid := a.uid
  previousTime := a.timeMin.toInt64
  time := a.timeMax.toInt64
  diffType := a.getAuctionDiffType.toUInt16
  category := a.category
  epic := a.rawDataEpic
  data := a.rawData

section Uid

variable (a : AuctionSimpleData)

@[simp] theorem parseData_uid (epic : UInt32) (data : List UInt8) :
    (a.parseData epic data).2.uid = a.uid := by
  rw [parseData]
  split <;> rfl

@[simp] theorem setStatus_uid (status : ProcessStatus) (time : UInt64) :
    (a.setStatus status time).uid = a.uid := by
  rw [setStatus]
  split <;> rfl

@[simp] theorem doUpdate_uid (timeMax : UInt64) (epic : UInt32)
    (data : List UInt8) : (a.doUpdate timeMax epic data).uid = a.uid := by
  simp only [doUpdate]
  split
  · simp
  · split <;> simp

@[simp] theorem beginProcess_uid : a.beginProcess.uid = a.uid := by
  rw [beginProcess]
  split <;> rfl

@[simp] theorem endProcess_uid (categoryEndTime : UInt64) :
    (a.endProcess categoryEndTime).uid = a.uid := by
  rw [endProcess]
  split
  · exact a.setStatus_uid _ _
  · rfl

@[simp] theorem create_uid (memory uid : UInt32) (timeMin timeMax : UInt64)
    (category : UInt16) (epic : UInt32) (data : List UInt8) :
    (create memory uid timeMin timeMax category epic data).uid = uid :=
  parseData_uid _ _ _

@[simp] theorem createFromDump_uid (memory : UInt32)
    (info : AuctionSimpleInfo) :
    (createFromDump memory info).uid = info.uid := by
  simp only [createFromDump]
  split
  · exact create_uid _ _ _ _ _ _ _
  · exact create_uid _ _ _ _ _ _ _

end Uid

def onUpdate (timeMax : UInt64) (epic : UInt32) (data : List UInt8) :
    Callback AuctionSimpleData where
  run a := a.doUpdate timeMax epic data
  uid a := a.doUpdate_uid _ _ _

def onBegin : Callback AuctionSimpleData where
  run := beginProcess
  uid := beginProcess_uid

def onEnd (m : CategoryTimeManager) : Callback AuctionSimpleData where
  run a := a.endProcess
    (m.getEstimatedCategoryEndTime a.category.toNat).toUInt64
  uid a := a.endProcess_uid _

end AuctionSimpleData

/-- What the memory of a new auction holds, by the uid of the auction. -/
abbrev Memory := UInt32 -> UInt32

/-- The arguments of `AuctionSimpleDiffWriter::addAuctionInfo`. -/
structure SimpleSighting where
  uid : UInt32
  time : UInt64
  category : UInt16
  epic : UInt32
  data : List UInt8
deriving DecidableEq

abbrev AuctionSimpleDiffWriter := AuctionGenericWriter AuctionSimpleData

namespace AuctionSimpleDiffWriter

def create (categoryCount : Nat) : AuctionSimpleDiffWriter :=
  AuctionGenericWriter.create categoryCount

def addAuctionInfo (memory : Memory) (w : AuctionSimpleDiffWriter)
    (s : SimpleSighting) : AuctionSimpleDiffWriter :=
  let w := match w.getAuction s.uid with
    | some _ =>
        w.modifyAuction s.uid
          (AuctionSimpleData.onUpdate s.time s.epic s.data)
    | none =>
        w.addAuction (AuctionSimpleData.create (memory s.uid) s.uid
          (w.categoryTimeManager.getEstimatedPreviousCategoryBeginTime
            s.category.toNat).toUInt64
          s.time s.category s.epic s.data)
  { w with
    categoryTimeManager := w.categoryTimeManager.adjustCategoryTimeRange
      s.category.toNat s.time.toInt64 }

def beginProcess (w : AuctionSimpleDiffWriter) : AuctionSimpleDiffWriter :=
  AuctionGenericWriter.beginProcess w AuctionSimpleData.onBegin

/--
The end of its category is looked up for each auction, which makes room for
the category.
-/
def endProcess (w : AuctionSimpleDiffWriter) : AuctionSimpleDiffWriter :=
  let m := w.auctions.elements.foldl (fun m auction =>
    m.reserve auction.category.toNat) w.categoryTimeManager
  AuctionGenericWriter.endProcess { w with categoryTimeManager := m }
    (AuctionSimpleData.onEnd m)

def exportDump (w : AuctionSimpleDiffWriter) (doFullDump : Bool) :
    AuctionSimpleFile where
  header :=
    { w.categoryTimeManager.serializeHeader
        (if doFullDump then DumpType.full else DumpType.diff) with
      signature := [82, 72, 83, 0] }
  auctions := (w.auctions.elements.filter fun auction =>
    doFullDump || auction.outputInPartialDump).map AuctionSimpleData.serialize

def importDump (memory : Memory) (w : AuctionSimpleDiffWriter)
    (auctionFile : AuctionSimpleFile) : AuctionSimpleDiffWriter :=
  w.importAuctions auctionFile.header
    (auctionFile.auctions.map fun info =>
      AuctionSimpleData.createFromDump (memory info.uid) info)

def category (w : AuctionSimpleDiffWriter) (call : CategoryCall) :
    AuctionSimpleDiffWriter :=
  { w with categoryTimeManager := w.categoryTimeManager.call call }

def call (memory : Memory) (w : AuctionSimpleDiffWriter) :
    Call SimpleSighting -> AuctionSimpleDiffWriter
  | Call.category c => w.category c
  | Call.addAuctionInfo s => w.addAuctionInfo memory s

def round (memory : Memory) (w : AuctionSimpleDiffWriter)
    (r : Round SimpleSighting) : AuctionSimpleDiffWriter :=
  endProcess (r.calls.foldl (call memory)
    (beginProcess (r.before.foldl category w)))

def rounds (memory : Nat -> Memory) :
    AuctionSimpleDiffWriter -> List (Round SimpleSighting) ->
      AuctionSimpleDiffWriter
  | w, [] => w
  | w, r :: rs => rounds (fun n => memory (n + 1)) (w.round (memory 0) r) rs

end AuctionSimpleDiffWriter

end Auction
end Rzu
