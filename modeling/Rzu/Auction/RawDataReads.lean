import Rzu.Auction.ComplexDiffWriter
import Rzu.Library.Outcome

/-!
# Reading the raw data of an auction

The record at the end of the data is found by counting back from its end, and
its first byte is read before it is known whether the data has room for it.
-/

namespace Rzu
namespace Auction

open Library

/-- What must not happen. -/
inductive RawDataFault where
  | outOfBounds
deriving DecidableEq

/-- Bytes from an address, which counts from the beginning of the data. -/
def bytesFrom (data : List UInt8) (address : Int) (count : Nat) :
    Except RawDataFault (List UInt8) :=
  if 0 ≤ address ∧ address + count ≤ data.length then
    Except.ok ((data.drop address.toNat).take count)
  else Except.error RawDataFault.outOfBounds

def byteFrom (data : List UInt8) (address : Int) :
    Except RawDataFault UInt8 :=
  (bytesFrom data address 1).map fun bytes => bytes.getD 0 0

def int64From (data : List UInt8) (address : Int) :
    Except RawDataFault Int64 :=
  (bytesFrom data address 8).map fun bytes =>
    (UInt64.ofNat (leNat bytes)).toInt64

namespace AuctionComplexData

/-- Data with a record that makes no sense is only compared and kept. -/
def keepRawData (a : AuctionComplexData) (epic : UInt32)
    (data : List UInt8) : Except RawDataFault (Bool × AuctionComplexData) := do
  let hasChanged <-
    if a.rawData.length ≠ data.length then pure true
    else do
      let bytes <- bytesFrom data 0 data.length
      pure (decide (a.rawData ≠ bytes))
  pure (hasChanged, { a with rawDataEpic := epic, rawData := data })

/-- The record behind its first byte, if there is room for a record. -/
def parseRecord (a : AuctionComplexData) (epic : UInt32) (data : List UInt8)
    (auctionDataEnd : Int) (durationType : UInt8) :
    Except RawDataFault (Bool × AuctionComplexData) :=
  if data.length < AuctionDataEnd.size then a.keepRawData epic data
  else do
    let bid_flag <- byteFrom data (auctionDataEnd + 48)
    let bidFlag := bid_flag.toInt8
    if bidFlag < 0 ∨ bidFlag > 2 ∨
        durationTypeToSecond durationType epic = 0 then
      a.keepRawData epic data
    else do
      let seller <- bytesFrom data (auctionDataEnd + 17) 30
      let price <- int64From data (auctionDataEnd + 9)
      let bidPrice <- int64From data (auctionDataEnd + 1)
      let a :=
        { a with
          rawDataEpic := epic
          rawData := data
          seller := seller.takeWhile (· ≠ 0)
          price := price
          dynamicData := ⟨durationType, bidPrice, bidFlag⟩ }
      pure (decide (a.dynamicData ≠ a.oldDynamicData), a)

/-- `parseData` with the bytes that it reads, in the order of the reads. -/
def parseDataChecked (a : AuctionComplexData) (epic : UInt32)
    (data : List UInt8) : Except RawDataFault (Bool × AuctionComplexData) :=
  if data = [] then pure (false, a)
  else do
    let auctionDataEnd : Int := data.length - AuctionDataEnd.size
    let durationType <- byteFrom data auctionDataEnd
    a.parseRecord epic data auctionDataEnd durationType

end AuctionComplexData

section Reads

variable {data : List UInt8} {address : Int} {count k : Nat}

theorem bytesFrom_ok (hlow : 0 ≤ address)
    (hhigh : address + count ≤ data.length) :
    bytesFrom data address count =
      Except.ok ((data.drop address.toNat).take count) := by
  rw [bytesFrom, if_pos ⟨hlow, hhigh⟩]

theorem bytesFrom_below (h : address < 0) :
    bytesFrom data address count =
      Except.error RawDataFault.outOfBounds := by
  rw [bytesFrom, if_neg fun hboth => absurd hboth.left (Int.not_le.mpr h)]

theorem bytesFrom_end (hsize : AuctionDataEnd.size ≤ data.length)
    (hk : k + count ≤ AuctionDataEnd.size) :
    bytesFrom data ((data.length : Int) - AuctionDataEnd.size + k) count =
      Except.ok (((data.drop (data.length - AuctionDataEnd.size)).drop k).take
        count) := by
  rw [bytesFrom_ok (by lia) (by lia), List.drop_drop]
  have haddress : ((data.length : Int) - AuctionDataEnd.size + k).toNat =
      data.length - AuctionDataEnd.size + k := by lia
  rw [haddress]

theorem getD_take_drop (bytes : List UInt8) (k : Nat) :
    ((bytes.drop k).take 1).getD 0 0 = bytes.getD k 0 := by
  rw [List.getD_eq_getElem?_getD, List.getD_eq_getElem?_getD,
    List.getElem?_take_of_lt Nat.one_pos, List.getElem?_drop, Nat.add_zero]

theorem byteFrom_end (hsize : AuctionDataEnd.size ≤ data.length)
    (hk : k < AuctionDataEnd.size) :
    byteFrom data ((data.length : Int) - AuctionDataEnd.size + k) =
      Except.ok ((data.drop (data.length - AuctionDataEnd.size)).getD k 0) := by
  rw [byteFrom, bytesFrom_end hsize (by lia), Except.map, getD_take_drop]

theorem int64From_end (hsize : AuctionDataEnd.size ≤ data.length)
    (hk : k + 8 ≤ AuctionDataEnd.size) :
    int64From data ((data.length : Int) - AuctionDataEnd.size + k) =
      Except.ok (AuctionDataEnd.readInt64
        (data.drop (data.length - AuctionDataEnd.size)) k) := by
  rw [int64From, bytesFrom_end hsize hk, Except.map, AuctionDataEnd.readInt64]

end Reads

namespace AuctionComplexData

variable {a : AuctionComplexData} {epic : UInt32} {data : List UInt8}

theorem keepRawData_eq : a.keepRawData epic data =
    Except.ok (decide (a.rawData ≠ data),
      { a with rawDataEpic := epic, rawData := data }) := by
  rw [keepRawData]
  split
  · rename_i hlength
    have hne : a.rawData ≠ data := fun heq => hlength (congrArg _ heq)
    rw [decide_eq_true hne]
    rfl
  · have hall : bytesFrom data 0 data.length = Except.ok data := by
      rw [bytesFrom_ok (by lia) (by lia)]
      change Except.ok ((data.drop 0).take data.length) = _
      rw [List.drop_zero, List.take_length]
    rw [hall]
    rfl

theorem parseDataChecked_short (hne : data ≠ [])
    (hshort : data.length < AuctionDataEnd.size) :
    a.parseDataChecked epic data =
      Except.error RawDataFault.outOfBounds := by
  have hbefore : byteFrom data ((data.length : Int) - AuctionDataEnd.size) =
      Except.error RawDataFault.outOfBounds := by
    rw [byteFrom, bytesFrom_below (by lia)]
    rfl
  rw [parseDataChecked, if_neg hne]
  dsimp only
  rw [hbefore]
  rfl

theorem validEnd_iff (hsize : AuctionDataEnd.size ≤ data.length) :
    validEnd epic data = true ↔
      ¬((AuctionDataEnd.ofData data).bid_flag < 0 ∨
        (AuctionDataEnd.ofData data).bid_flag > 2 ∨
        durationTypeToSecond (AuctionDataEnd.ofData data).duration_type
          epic = 0) := by
  have hroom : decide (data.length < AuctionDataEnd.size) = false :=
    decide_eq_false (Nat.not_lt.mpr hsize)
  dsimp only [validEnd]
  rw [hroom, Bool.false_or, Bool.not_eq_true', Bool.or_eq_false_iff,
    Bool.or_eq_false_iff, decide_eq_false_iff_not, decide_eq_false_iff_not,
    decide_eq_false_iff_not, not_or, not_or, and_assoc]

/-- The reads of a record that the data has room for give its fields. -/
theorem parseRecord_eq (hempty : data ≠ [])
    (hsize : AuctionDataEnd.size ≤ data.length) :
    a.parseRecord epic data ((data.length : Int) - AuctionDataEnd.size)
        (AuctionDataEnd.ofData data).duration_type =
      Except.ok (a.parseData epic data) := by
  have hflag : byteFrom data
      ((data.length : Int) - AuctionDataEnd.size + 48) = _ :=
    byteFrom_end hsize (k := 48) (by decide)
  have hseller : bytesFrom data
      ((data.length : Int) - AuctionDataEnd.size + 17) 30 = _ :=
    bytesFrom_end hsize (k := 17) (by decide)
  have hprice : int64From data
      ((data.length : Int) - AuctionDataEnd.size + 9) = _ :=
    int64From_end hsize (k := 9) (by decide)
  have hbidPrice : int64From data
      ((data.length : Int) - AuctionDataEnd.size + 1) = _ :=
    int64From_end hsize (k := 1) (by decide)
  rw [parseRecord, if_neg (Nat.not_lt.mpr hsize), hflag, hseller, hprice,
    hbidPrice, parseData, if_neg hempty]
  change (if (AuctionDataEnd.ofData data).bid_flag < 0 ∨
      (AuctionDataEnd.ofData data).bid_flag > 2 ∨
      durationTypeToSecond (AuctionDataEnd.ofData data).duration_type
        epic = 0 then _ else _) = _
  split
  · rename_i hbad
    rw [keepRawData_eq, if_neg fun hvalid => (validEnd_iff hsize).mp hvalid hbad]
  · rename_i hgood
    rw [if_pos ((validEnd_iff hsize).mpr hgood)]
    dsimp only [AuctionDataEnd.ofData]
    rw [List.take_take]
    rfl

theorem parseDataChecked_eq
    (h : data = [] ∨ AuctionDataEnd.size ≤ data.length) :
    a.parseDataChecked epic data = Except.ok (a.parseData epic data) := by
  by_cases hempty : data = []
  · rw [parseDataChecked, if_pos hempty, parseData, if_pos hempty]
    rfl
  · have hsize := h.resolve_left hempty
    have hduration := byteFrom_end hsize (k := 0) (by decide)
    rw [Int.natCast_zero, Int.add_zero] at hduration
    rw [parseDataChecked, if_neg hempty]
    dsimp only
    rw [hduration]
    exact parseRecord_eq hempty hsize

theorem parseDataChecked_without_iff :
    Without RawDataFault.outOfBounds (a.parseDataChecked epic data) ↔
      data = [] ∨ AuctionDataEnd.size ≤ data.length := by
  constructor
  · intro hinside
    by_contra hshort
    rw [not_or, Nat.not_le] at hshort
    exact hinside (parseDataChecked_short hshort.left hshort.right)
  · intro h
    rw [parseDataChecked_eq h]
    exact without_ok _

/-!
## Where the data is handed on
-/

/-- The constructor. -/
def createChecked (uid : UInt32) (timeMin timeMax : UInt64)
    (category : UInt16) (epic : UInt32) (data : List UInt8) :
    Except RawDataFault AuctionComplexData := do
  let a : AuctionComplexData :=
    { uid, category, timeMin, timeMax
      processStatus := ProcessStatus.added
      deleted := false
      deletedCount := 0
      seller := []
      price := 0
      rawDataEpic := epic
      rawData := []
      dynamicData := DynamicData.initial
      oldDynamicData := DynamicData.initial
      estimatedEndTimeFromAdded := true
      estimatedEndTimeMin := 0
      estimatedEndTimeMax := 0 }
  let parsed <- a.parseDataChecked epic data
  pure (parsed.2.postParseData true)

/-- What `update` does with an auction whose data is parsed. -/
def updateParsed (parsed : Bool × AuctionComplexData) (time : UInt64) :
    AuctionComplexData :=
  let a := parsed.2
  let a :=
    if parsed.1 ∧ a.processStatus ≠ ProcessStatus.added then
      a.setStatus ProcessStatus.updated time
    else if ¬parsed.1 ∧ a.processStatus ≠ ProcessStatus.added ∧
        a.processStatus ≠ ProcessStatus.updated then
      a.setStatus ProcessStatus.unmodifed time
    else a
  if parsed.1 then a.postParseData false else a

def updateChecked (a : AuctionComplexData) (time : UInt64) (epic : UInt32)
    (data : List UInt8) : Except RawDataFault AuctionComplexData := do
  let parsed <- a.parseDataChecked epic data
  pure (updateParsed parsed time)

/-- What the constructor left is overwritten with what the file says. -/
def restore (a : AuctionComplexData) (info : AuctionInfo) :
    AuctionComplexData :=
  let a :=
    { a with
      deleted := info.deleted
      deletedCount := info.deletedCount.toNat
      seller := info.seller
      price := info.price
      dynamicData :=
        { durationType := info.duration_type
          bidPrice := info.bid_price
          bidFlag := info.bid_flag }
      estimatedEndTimeFromAdded := info.estimatedEndTimeFromAdded
      estimatedEndTimeMin := info.estimatedEndTimeMin.toUInt64
      estimatedEndTimeMax := info.estimatedEndTimeMax.toUInt64 }
  let processStatus :=
    getAuctionProcessStatus (DiffType.ofUInt16? info.diffType)
  if processStatus = ProcessStatus.notProcessed then a
  else { a with processStatus := processStatus }

def createFromDumpChecked (info : AuctionInfo) :
    Except RawDataFault AuctionComplexData := do
  let a <- createChecked info.uid info.previousTime.toUInt64
    info.time.toUInt64 info.category info.epic info.data
  pure (a.restore info)

theorem createChecked_without_iff {uid : UInt32} {timeMin timeMax : UInt64}
    {category : UInt16} :
    Without RawDataFault.outOfBounds
        (createChecked uid timeMin timeMax category epic data) ↔
      data = [] ∨ AuctionDataEnd.size ≤ data.length :=
  without_bind_pure.trans parseDataChecked_without_iff

theorem createChecked_eq {uid : UInt32} {timeMin timeMax : UInt64}
    {category : UInt16}
    (h : data = [] ∨ AuctionDataEnd.size ≤ data.length) :
    createChecked uid timeMin timeMax category epic data =
      Except.ok (create uid timeMin timeMax category epic data) := by
  rw [createChecked, parseDataChecked_eq h]
  rfl

theorem updateChecked_without_iff {time : UInt64} :
    Without RawDataFault.outOfBounds (a.updateChecked time epic data) ↔
      data = [] ∨ AuctionDataEnd.size ≤ data.length :=
  without_bind_pure.trans parseDataChecked_without_iff

theorem updateChecked_eq {time : UInt64}
    (h : data = [] ∨ AuctionDataEnd.size ≤ data.length) :
    a.updateChecked time epic data =
      Except.ok (a.update time epic data) := by
  rw [updateChecked, parseDataChecked_eq h]
  rfl

theorem createFromDumpChecked_without_iff {info : AuctionInfo} :
    Without RawDataFault.outOfBounds (createFromDumpChecked info) ↔
      info.data = [] ∨ AuctionDataEnd.size ≤ info.data.length :=
  without_bind_pure.trans createChecked_without_iff

theorem createFromDumpChecked_eq {info : AuctionInfo}
    (h : info.data = [] ∨ AuctionDataEnd.size ≤ info.data.length) :
    createFromDumpChecked info = Except.ok (createFromDump info) := by
  rw [createFromDumpChecked, createChecked_eq h]
  rfl

end AuctionComplexData

namespace AuctionComplexDiffWriter

open AuctionComplexData

def addAuctionInfoChecked (w : AuctionComplexDiffWriter)
    (auction : AuctionSimpleInfo) :
    Except RawDataFault AuctionComplexDiffWriter :=
  if auction.category.toNat ≥ w.categoryTimeManager.getCategoryNumber then
    pure w
  else
    let m := w.categoryTimeManager.adjustCategoryTimeRange
      auction.category.toNat auction.time
    let w := { w with categoryTimeManager := m }
    let auctionInfo := w.getAuction auction.uid
    let timeMin := estimatedTruePreviousTime m auctionInfo auction
    let epic := parseEpic auction.epic auction.time
    match DiffType.ofUInt16? auction.diffType with
    | some DiffType.base | some DiffType.added | some DiffType.updated =>
        match auctionInfo with
        | some a => do
            let _ <- updateChecked { a with timeMin := timeMin.getD a.timeMin }
              auction.time.toUInt64 epic auction.data
            pure (w.base fun w => w.modifyAuction auction.uid
              (onUpdate timeMin auction.time.toUInt64 epic auction.data))
        | none => do
            let previousTimeToUse :=
              if auction.previousTime ≠ 0 then auction.previousTime
              else m.getEstimatedPreviousCategoryBeginTime
                auction.category.toNat
            let a <- createChecked auction.uid previousTimeToUse.toUInt64
              auction.time.toUInt64 auction.category epic auction.data
            pure (w.base fun w => w.addAuction a)
    | some DiffType.deleted =>
        match auctionInfo with
        | some _ =>
            pure (w.base fun w => w.modifyAuction auction.uid
              (onRemove timeMin auction.time.toUInt64))
        | none => pure w
    | _ => pure w

def Parses (w : AuctionComplexDiffWriter) (auction : AuctionSimpleInfo) :
    Prop :=
  auction.category.toNat < w.categoryTimeManager.getCategoryNumber ∧
    DiffType.ofUInt16? auction.diffType ∈
      [some DiffType.base, some DiffType.added, some DiffType.updated]

variable {w : AuctionComplexDiffWriter} {auction : AuctionSimpleInfo}

/-- All that is read of an auction is read when its data is parsed. -/
theorem addAuctionInfoChecked_without_iff :
    Without RawDataFault.outOfBounds (w.addAuctionInfoChecked auction) ↔
      (w.Parses auction -> auction.data = [] ∨
        AuctionDataEnd.size ≤ auction.data.length) := by
  rw [addAuctionInfoChecked, Parses]
  split
  · rename_i hcategory
    exact ⟨fun _ hparses => absurd hparses.left (Nat.not_lt.mpr hcategory),
      fun _ => without_pure _⟩
  · rename_i hcategory
    rw [Nat.not_le] at hcategory
    rw [and_iff_right hcategory]
    cases DiffType.ofUInt16? auction.diffType with
    | none => exact ⟨fun _ hmem => absurd hmem (by decide),
        fun _ => without_pure _⟩
    | some diffType =>
        cases diffType with
        | base | added | updated =>
            rw [forall_prop_of_true (by decide)]
            dsimp only
            split
            · exact without_bind_pure.trans updateChecked_without_iff
            · exact without_bind_pure.trans createChecked_without_iff
        | deleted =>
            refine ⟨fun _ hmem => absurd hmem (by decide), fun _ => ?_⟩
            dsimp only
            split
            · exact without_pure _
            · exact without_pure _
        | unmodified | maybeDeleted | invalid =>
            exact ⟨fun _ hmem => absurd hmem (by decide),
              fun _ => without_pure _⟩

theorem addAuctionInfoChecked_eq
    (h : w.Parses auction -> auction.data = [] ∨
      AuctionDataEnd.size ≤ auction.data.length) :
    w.addAuctionInfoChecked auction = Except.ok (w.addAuctionInfo auction) := by
  let adjusted : AuctionComplexDiffWriter :=
    { w with
      categoryTimeManager := w.categoryTimeManager.adjustCategoryTimeRange
        auction.category.toNat auction.time }
  rw [Parses] at h
  rw [addAuctionInfoChecked, addAuctionInfo]
  split
  · rfl
  · rename_i hcategory
    rw [Nat.not_le] at hcategory
    have hdata := fun hmem => h ⟨hcategory, hmem⟩
    cases hdiffType : DiffType.ofUInt16? auction.diffType with
    | none => rfl
    | some diffType =>
        rw [hdiffType] at hdata
        cases diffType with
        | base | added | updated =>
            dsimp only
            cases adjusted.getAuction auction.uid with
            | some found =>
                dsimp only
                rw [updateChecked_eq (hdata (by decide))]
                rfl
            | none =>
                dsimp only
                rw [createChecked_eq (hdata (by decide))]
                rfl
        | deleted =>
            dsimp only
            cases adjusted.getAuction auction.uid <;> rfl
        | unmodified | maybeDeleted | invalid => rfl

end AuctionComplexDiffWriter

/--
Whatever the writer holds, a call reads inside the data of an auction exactly
if the data is not parsed, is empty, or has room for the record at its end; an
auction that comes from a dump is parsed in any case.
-/
theorem parsesInside_iff (w : AuctionComplexDiffWriter)
    (auction : AuctionSimpleInfo) (info : AuctionInfo) :
    (Without RawDataFault.outOfBounds (w.addAuctionInfoChecked auction) ↔
      (w.Parses auction -> auction.data = [] ∨ 49 ≤ auction.data.length)) ∧
    (Without RawDataFault.outOfBounds
        (AuctionComplexData.createFromDumpChecked info) ↔
      (info.data = [] ∨ 49 ≤ info.data.length)) :=
  ⟨AuctionComplexDiffWriter.addAuctionInfoChecked_without_iff,
    AuctionComplexData.createFromDumpChecked_without_iff⟩

/-- An auction whose data is a single byte. -/
theorem not_parsesInside_oneByte :
    ¬Without RawDataFault.outOfBounds
      ((AuctionComplexDiffWriter.create 1).addAuctionInfoChecked
        ⟨7, 100, 0, 0, 0, EPIC_9_6_1, [1]⟩) := by
  intro hinside
  rw [AuctionComplexDiffWriter.addAuctionInfoChecked_without_iff] at hinside
  exact absurd (hinside ⟨by decide, by decide⟩) (by decide)

end Auction
end Rzu
