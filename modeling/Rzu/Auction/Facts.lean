import Rzu.Auction.ComplexDiffWriter

/-!
# What a round does to an auction

Whatever the times are, a round makes of the facts about an auction what the
one line of its input about this auction says, or that there is none.
-/

namespace Rzu
namespace Auction

/-- What is known of an auction besides its times. -/
@[ext] structure Facts where
  deleted : Bool
  deletedCount : Nat
  final : Bool
  rawData : List UInt8
  price : Int64
  dynamicData : AuctionComplexData.DynamicData
  seller : List UInt8
deriving DecidableEq

namespace Facts

/-- An auction of which no data has been seen. -/
def initial : Facts where
  deleted := false
  deletedCount := 0
  final := false
  rawData := []
  price := 0
  dynamicData := AuctionComplexData.DynamicData.initial
  seller := []

def parse (epic : UInt32) (data : List UInt8) (f : Facts) : Facts :=
  if data = [] then f
  else if AuctionComplexData.validEnd epic data then
    let auctionDataEnd := AuctionDataEnd.ofData data
    { f with
      rawData := data
      seller := (auctionDataEnd.seller.take 30).takeWhile (· ≠ 0)
      price := auctionDataEnd.price
      dynamicData :=
        { durationType := auctionDataEnd.duration_type
          bidPrice := auctionDataEnd.bid_price
          bidFlag := auctionDataEnd.bid_flag } }
  else { f with rawData := data }

/-- The auction is there. -/
def present (f : Facts) : Facts :=
  { f with deleted := false, deletedCount := 0, final := false }

/-- The auction has not been seen for one more round. -/
def age (f : Facts) : Facts :=
  { f with
    deleted := true
    deletedCount := f.deletedCount + 1
    final := decide (f.deletedCount + 1 > 3) }

def unmentioned (diffMode : Bool) (f : Facts) : Facts :=
  if diffMode && !f.deleted then f.present else f.age

/-- An auction in its final state is gone when the next round begins. -/
def live (f : Option Facts) : Option Facts := f.filter fun f => !f.final

def process (diffMode : Bool) (f : Option Facts) :
    Option AuctionSimpleInfo -> Option Facts
  | none => f.map (unmentioned diffMode)
  | some info =>
      match DiffType.ofUInt16? info.diffType with
      | some DiffType.base | some DiffType.added | some DiffType.updated =>
          some (parse (AuctionComplexDiffWriter.parseEpic info.epic info.time)
            info.data (f.getD initial)).present
      | some DiffType.deleted => f.map age
      | _ => f.map (unmentioned diffMode)

variable {f : Facts} {epic : UInt32} {data : List UInt8}

@[simp] theorem parse_nil : parse epic [] f = f := if_pos rfl

theorem parse_present : parse epic data f.present =
    (parse epic data f).present := by
  rw [parse, parse]
  split
  · rfl
  · split <;> rfl

theorem parse_parse : parse epic data (parse epic data f) =
    parse epic data f := by
  by_cases hdata : data = []
  · rw [hdata, parse_nil]
  · rw [parse, parse, if_neg hdata, if_neg hdata]
    split <;> rfl

theorem parse_present_parse : parse epic data (parse epic data f).present =
    (parse epic data f).present := by
  rw [parse_present, parse_parse]

end Facts

namespace AuctionComplexData

def facts (a : AuctionComplexData) : Facts where
  deleted := a.deleted
  deletedCount := a.deletedCount
  final := a.isInFinalState
  rawData := a.rawData
  price := a.price
  dynamicData := a.dynamicData
  seller := a.seller

variable (a : AuctionComplexData)

theorem facts_parseData (epic : UInt32) (data : List UInt8) :
    (a.parseData epic data).2.facts = a.facts.parse epic data := by
  rw [parseData, Facts.parse]
  split
  · rfl
  · split <;> rfl

theorem parseData_processStatus (epic : UInt32) (data : List UInt8) :
    (a.parseData epic data).2.processStatus = a.processStatus := by
  rw [parseData]
  split
  · rfl
  · split <;> rfl

theorem facts_postParseData (newData : Bool) :
    (a.postParseData newData).facts = a.facts := by
  simp only [postParseData]
  split
  · split
    · rfl
    · split <;> rfl
  · rfl

theorem postParseData_processStatus (newData : Bool) :
    (a.postParseData newData).processStatus = a.processStatus := by
  simp only [postParseData]
  split
  · split
    · rfl
    · split <;> rfl
  · rfl

structure Present (a : AuctionComplexData) (f : Facts) : Prop where
  facts : a.facts = f.present
  processed : a.processStatus ≠ ProcessStatus.notProcessed

theorem create_present (uid : UInt32) (timeMin timeMax : UInt64)
    (category : UInt16) (epic : UInt32) (data : List UInt8) :
    (create uid timeMin timeMax category epic data).Present
      (Facts.initial.parse epic data) where
  facts := by
    rw [create, facts_postParseData, facts_parseData, ← Facts.parse_present]
    rfl
  processed := by
    rw [create, postParseData_processStatus, parseData_processStatus]
    exact fun h => by cases h

variable {a : AuctionComplexData}

theorem update_present (h : a.processStatus = ProcessStatus.notProcessed)
    (time : UInt64) (epic : UInt32) (data : List UInt8) :
    (a.update time epic data).Present (a.facts.parse epic data) := by
  have hstatus := a.parseData_processStatus epic data
  rw [h] at hstatus
  have hfacts := a.facts_parseData epic data
  cases hmodified : (a.parseData epic data).1 with
  | true =>
      have hupdate : a.update time epic data =
          ((a.parseData epic data).2.setStatus ProcessStatus.updated
            time).postParseData false := by
        simp [update, hmodified, hstatus]
      rw [hupdate, ← hfacts]
      constructor
      · rw [facts_postParseData]
        rfl
      · rw [postParseData_processStatus]
        exact fun h => by cases h
  | false =>
      have hupdate : a.update time epic data =
          (a.parseData epic data).2.setStatus ProcessStatus.unmodifed
            time := by
        simp [update, hmodified, hstatus]
      rw [hupdate, ← hfacts]
      constructor
      · rfl
      · exact fun h => by cases h

theorem Present.endProcess {f : Facts} (h : a.Present f)
    (categoryBeginTime categoryEndTime : UInt64) (diffMode : Bool) :
    (a.endProcess categoryBeginTime categoryEndTime diffMode).facts =
      f.present := by
  have hdeleted : ¬a.deleted = true := by
    have hfacts := congrArg Facts.deleted h.facts
    change a.deleted = false at hfacts
    rw [hfacts]
    exact Bool.false_ne_true
  rw [AuctionComplexData.endProcess, if_neg h.processed, maybeStillDeleted,
    if_neg hdeleted, h.facts]

theorem facts_maybeStillDeleted (hdeleted : a.deleted = true)
    (hlive : a.processStatus ≠ ProcessStatus.deleted) :
    a.maybeStillDeleted.facts = a.facts.age := by
  rw [maybeStillDeleted, if_pos hdeleted]
  by_cases hcount : a.deletedCount + 1 > 3
  · simp only [if_pos hcount]
    ext1
    · rfl
    · rfl
    · exact (decide_eq_true hcount).symm
    · rfl
    · rfl
    · rfl
    · rfl
  · simp only [if_neg hcount]
    split
    · ext1
      · rfl
      · rfl
      · exact (decide_eq_false hcount).symm
      · rfl
      · rfl
      · rfl
      · rfl
    · ext1
      · exact hdeleted
      · rfl
      · change decide (a.processStatus = _) = _
        rw [decide_eq_false hlive]
        exact (decide_eq_false hcount).symm
      · rfl
      · rfl
      · rfl
      · rfl

theorem facts_remove_endProcess
    (h : a.processStatus = ProcessStatus.notProcessed)
    (time categoryBeginTime categoryEndTime : UInt64) (diffMode : Bool) :
    ((a.remove time).endProcess categoryBeginTime categoryEndTime
      diffMode).facts = a.facts.age := by
  have hremove : a.remove time = a.setStatus ProcessStatus.maybeDeleted time :=
    if_pos h
  have hprocessed : (a.remove time).processStatus ≠
      ProcessStatus.notProcessed := by
    rw [hremove]
    exact fun h => by cases h
  rw [endProcess, if_neg hprocessed, hremove, facts_maybeStillDeleted]
  · rfl
  · rfl
  · exact fun h => by cases h

theorem facts_endProcess (h : a.processStatus = ProcessStatus.notProcessed)
    (categoryBeginTime categoryEndTime : UInt64) (diffMode : Bool) :
    (a.endProcess categoryBeginTime categoryEndTime diffMode).facts =
      a.facts.unmentioned diffMode := by
  have hlive : a.processStatus ≠ ProcessStatus.deleted := by
    rw [h]
    exact fun h => by cases h
  cases diffMode with
  | false =>
      have hremove : a.remove categoryEndTime =
          a.setStatus ProcessStatus.maybeDeleted categoryEndTime := if_pos h
      simp only [endProcess, if_pos h, Bool.not_false, if_true, hremove]
      rw [facts_maybeStillDeleted]
      · rfl
      · rfl
      · exact fun h => by cases h
  | true =>
      cases hdeleted : a.deleted with
      | true =>
          simp only [endProcess, if_pos h, hdeleted, Bool.not_true,
            Bool.false_eq_true, if_false]
          rw [facts_maybeStillDeleted hdeleted hlive, Facts.unmentioned]
          change _ = if (true && !a.deleted) = true then _ else _
          rw [hdeleted]
          rfl
      | false =>
          have hunmodified : a.unmodified categoryBeginTime =
              a.setStatus ProcessStatus.unmodifed categoryBeginTime := by
            rw [unmodified, h, if_pos ⟨by decide, by decide⟩]
          simp only [endProcess, if_pos h, hdeleted, Bool.not_true,
            Bool.not_false, Bool.false_eq_true, if_false, if_true,
            hunmodified]
          rw [Facts.unmentioned]
          change _ = if (true && !a.deleted) = true then _ else _
          rw [hdeleted]
          rfl

theorem beginProcess_facts (hlive : a.isInFinalState = false) :
    a.beginProcess.facts = a.facts ∧
      a.beginProcess.processStatus = ProcessStatus.notProcessed := by
  have hstatus : a.processStatus ≠ ProcessStatus.deleted := by
    simpa [isInFinalState] using hlive
  rw [beginProcess, if_neg hstatus]
  constructor
  · ext1
    · rfl
    · rfl
    · exact hlive.symm
    · rfl
    · rfl
    · rfl
    · rfl
  · rfl

end AuctionComplexData

namespace CategoryTimeManager

theorem modifyCategoryTime_number (m : CategoryTimeManager) (category : Nat)
    (f : CategoryTime -> CategoryTime) :
    m.getCategoryNumber ≤ (m.modifyCategoryTime category f).getCategoryNumber := by
  rw [getCategoryNumber, getCategoryNumber, modifyCategoryTime, reserve,
    List.length_modify, List.length_append]
  exact Nat.le_add_right _ _

theorem call_number (m : CategoryTimeManager) (c : CategoryCall) :
    m.getCategoryNumber ≤ (m.call c).getCategoryNumber := by
  cases c with
  | beginCategory category time => exact m.modifyCategoryTime_number _ _
  | endCategory category time => exact m.modifyCategoryTime_number _ _

theorem resetCategoryTime_number (m : CategoryTimeManager) :
    m.resetCategoryTime.getCategoryNumber = m.getCategoryNumber :=
  List.length_map _

end CategoryTimeManager

namespace AuctionComplexDiffWriter

def number (w : AuctionComplexDiffWriter) : Nat :=
  w.categoryTimeManager.getCategoryNumber

def facts (w : AuctionComplexDiffWriter) (uid : UInt32) : Option Facts :=
  (w.getAuction uid).map AuctionComplexData.facts

variable {w : AuctionComplexDiffWriter} {uid : UInt32}

theorem addAuctionInfo_number (w : AuctionComplexDiffWriter)
    (auction : AuctionSimpleInfo) :
    w.number ≤ (w.addAuctionInfo auction).number := by
  have hadjust := w.categoryTimeManager.modifyCategoryTime_number
    auction.category.toNat
  rw [addAuctionInfo]
  split
  · exact Nat.le_refl _
  · dsimp only
    split
    · split <;> exact hadjust _
    · split <;> exact hadjust _
    · split <;> exact hadjust _
    · split <;> exact hadjust _
    · exact hadjust _

theorem call_number (w : AuctionComplexDiffWriter)
    (c : Call AuctionSimpleInfo) : w.number ≤ (w.call c).number := by
  cases c with
  | category call => exact w.categoryTimeManager.call_number call
  | addAuctionInfo auction => exact w.addAuctionInfo_number auction

theorem foldl_number (w : AuctionComplexDiffWriter)
    (calls : List (Call AuctionSimpleInfo)) :
    w.number ≤ (calls.foldl call w).number := by
  induction calls generalizing w with
  | nil => exact Nat.le_refl _
  | cons first rest ih => exact Nat.le_trans (w.call_number first) (ih _)

theorem foldl_category_number (w : AuctionComplexDiffWriter)
    (calls : List CategoryCall) :
    w.number ≤ (calls.foldl category w).number := by
  induction calls generalizing w with
  | nil => exact Nat.le_refl _
  | cons first rest ih =>
      exact Nat.le_trans (w.categoryTimeManager.call_number first)
        (ih (w.category first))

theorem round_number (w : AuctionComplexDiffWriter)
    (r : Round AuctionSimpleInfo) : w.number ≤ (w.round r).number := by
  have hcalls := foldl_number (beginProcess (r.before.foldl category w))
    r.calls
  have hreset := CategoryTimeManager.resetCategoryTime_number
    (r.calls.foldl call
      (beginProcess (r.before.foldl category w))).categoryTimeManager
  exact Nat.le_trans (w.foldl_category_number r.before)
    (Nat.le_trans hcalls (Nat.le_of_eq hreset.symm))

theorem addAuctionInfo_getAuction_ne (w : AuctionComplexDiffWriter)
    {auction : AuctionSimpleInfo} (hne : auction.uid ≠ uid) :
    (w.addAuctionInfo auction).getAuction uid = w.getAuction uid := by
  rcases addAuctionInfo_cases w auction with ⟨w', hauctions, -, hcases⟩
  have hsame : w'.getAuction uid = w.getAuction uid := by
    rw [AuctionGenericWriter.getAuction, hauctions,
      AuctionGenericWriter.getAuction]
  rw [← hsame]
  rcases hcases with heq | ⟨timeMin, epic, heq⟩ | ⟨timeMin, epic, heq⟩ |
    ⟨timeMin, heq⟩
  · rw [heq]
  · rw [heq]
    change (w'.modifyAuction _ _).getAuction uid = _
    rw [AuctionGenericWriter.getAuction_modifyAuction, if_neg (Ne.symm hne)]
  · rw [heq]
    change (w'.addAuction _).getAuction uid = _
    have hnew : ¬IAuctionData.getUid (AuctionComplexData.create auction.uid
        timeMin auction.time.toUInt64 auction.category epic auction.data) =
        uid := by
      change ¬(AuctionComplexData.create _ _ _ _ _ _).uid = uid
      rw [AuctionComplexData.create_uid]
      exact hne
    rw [AuctionGenericWriter.getAuction_addAuction, if_neg hnew,
      Option.or_none]
  · rw [heq]
    change (w'.modifyAuction _ _).getAuction uid = _
    rw [AuctionGenericWriter.getAuction_modifyAuction, if_neg (Ne.symm hne)]

theorem call_getAuction_ne (w : AuctionComplexDiffWriter)
    (c : Call AuctionSimpleInfo)
    (hne : forall info, c = Call.addAuctionInfo info -> info.uid ≠ uid) :
    (w.call c).getAuction uid = w.getAuction uid := by
  cases c with
  | category call => rfl
  | addAuctionInfo auction =>
      exact addAuctionInfo_getAuction_ne w (hne auction rfl)

/-- The facts after the end of the round that `w` is in. -/
def factsAtEnd (w : AuctionComplexDiffWriter)
    (categoryBeginTime categoryEndTime : AuctionComplexData -> UInt64)
    (diffMode : Bool) (uid : UInt32) : Option Facts :=
  (w.getAuction uid).map fun a =>
    (a.endProcess (categoryBeginTime a) (categoryEndTime a) diffMode).facts

variable {categoryBeginTime categoryEndTime : AuctionComplexData -> UInt64}
  {diffMode : Bool}

theorem factsAtEnd_unmentioned
    (hbegun : forall a, w.getAuction uid = some a ->
      a.processStatus = AuctionComplexData.ProcessStatus.notProcessed) :
    w.factsAtEnd categoryBeginTime categoryEndTime diffMode uid =
      Facts.process diffMode (w.facts uid) none := by
  rw [factsAtEnd, facts]
  cases hfound : w.getAuction uid with
  | none => rfl
  | some a =>
      exact congrArg some (AuctionComplexData.facts_endProcess
        (hbegun a hfound) _ _ _)

theorem factsAtEnd_seen {auction : AuctionSimpleInfo} {diffType : DiffType}
    (hdiffType : DiffType.ofUInt16? auction.diffType = some diffType)
    (hseen : diffType = DiffType.base ∨ diffType = DiffType.added ∨
      diffType = DiffType.updated)
    (hcategory : auction.category.toNat < w.number)
    (hbegun : forall a, w.getAuction auction.uid = some a ->
      a.processStatus = AuctionComplexData.ProcessStatus.notProcessed) :
    (w.addAuctionInfo auction).factsAtEnd categoryBeginTime categoryEndTime
        diffMode auction.uid =
      some (Facts.parse (parseEpic auction.epic auction.time) auction.data
        ((w.facts auction.uid).getD Facts.initial)).present := by
  rw [factsAtEnd, facts]
  cases hfound : w.getAuction auction.uid with
  | none =>
      rcases addAuctionInfo_added hcategory hdiffType hseen hfound with
        ⟨m, timeMin, heq⟩
      rw [heq]
      change Option.map _ ((AuctionGenericWriter.addAuction _
        _).getAuction _) = _
      rw [AuctionGenericWriter.getAuction_addAuction]
      have hold : AuctionGenericWriter.getAuction
          { w.toAuctionGenericWriter with categoryTimeManager := m }
          auction.uid = none := hfound
      have huid : IAuctionData.getUid (AuctionComplexData.create auction.uid
          timeMin auction.time.toUInt64 auction.category
          (parseEpic auction.epic auction.time) auction.data) =
          auction.uid := AuctionComplexData.create_uid _ _ _ _ _ _
      rw [hold, if_pos huid]
      exact congrArg some
        ((AuctionComplexData.create_present _ _ _ _ _ _).endProcess _ _ _)
  | some a =>
      rcases addAuctionInfo_updated hcategory hdiffType hseen hfound with
        ⟨m, timeMin, heq⟩
      rw [heq]
      change Option.map _ ((AuctionGenericWriter.modifyAuction _ _
        _).getAuction _) = _
      rw [AuctionGenericWriter.getAuction_modifyAuction, if_pos rfl]
      have hold : AuctionGenericWriter.getAuction
          { w.toAuctionGenericWriter with categoryTimeManager := m }
          auction.uid = some a := hfound
      rw [hold]
      have hmoved : AuctionComplexData.processStatus
          { a with timeMin := timeMin.getD a.timeMin } =
            AuctionComplexData.ProcessStatus.notProcessed :=
        hbegun a hfound
      exact congrArg some
        ((AuctionComplexData.update_present hmoved _ _ _).endProcess _ _ _)

theorem factsAtEnd_deleted {auction : AuctionSimpleInfo}
    (hdiffType : DiffType.ofUInt16? auction.diffType = some DiffType.deleted)
    (hcategory : auction.category.toNat < w.number)
    (hbegun : forall a, w.getAuction auction.uid = some a ->
      a.processStatus = AuctionComplexData.ProcessStatus.notProcessed) :
    (w.addAuctionInfo auction).factsAtEnd categoryBeginTime categoryEndTime
        diffMode auction.uid = (w.facts auction.uid).map Facts.age := by
  rw [factsAtEnd, facts]
  cases hfound : w.getAuction auction.uid with
  | none =>
      rcases addAuctionInfo_missing hcategory hdiffType hfound with ⟨m, heq⟩
      rw [heq]
      change Option.map _ (w.getAuction _) = _
      rw [hfound]
      rfl
  | some a =>
      rcases addAuctionInfo_removed hcategory hdiffType hfound with
        ⟨m, timeMin, heq⟩
      rw [heq]
      change Option.map _ ((AuctionGenericWriter.modifyAuction _ _
        _).getAuction _) = _
      rw [AuctionGenericWriter.getAuction_modifyAuction, if_pos rfl]
      change Option.map _ (Option.map _ (w.getAuction _)) = _
      rw [hfound]
      have hmoved : AuctionComplexData.processStatus
          { a with timeMin := timeMin.getD a.timeMin } =
            AuctionComplexData.ProcessStatus.notProcessed :=
        hbegun a hfound
      exact congrArg some
        (AuctionComplexData.facts_remove_endProcess hmoved _ _ _ _)

theorem factsAtEnd_addAuctionInfo (auction : AuctionSimpleInfo)
    (hcategory : auction.category.toNat < w.number)
    (hbegun : forall a, w.getAuction auction.uid = some a ->
      a.processStatus = AuctionComplexData.ProcessStatus.notProcessed) :
    (w.addAuctionInfo auction).factsAtEnd categoryBeginTime categoryEndTime
        diffMode auction.uid =
      Facts.process diffMode (w.facts auction.uid) (some auction) := by
  rw [Facts.process]
  cases hdiffType : DiffType.ofUInt16? auction.diffType with
  | none =>
      rcases addAuctionInfo_ignored hcategory (by rw [hdiffType]; decide) with
        ⟨m, heq⟩
      rw [heq]
      exact factsAtEnd_unmentioned hbegun
  | some diffType =>
      cases diffType with
      | base => exact factsAtEnd_seen hdiffType (by decide) hcategory hbegun
      | added => exact factsAtEnd_seen hdiffType (by decide) hcategory hbegun
      | updated => exact factsAtEnd_seen hdiffType (by decide) hcategory hbegun
      | deleted => exact factsAtEnd_deleted hdiffType hcategory hbegun
      | unmodified | maybeDeleted | invalid =>
          rcases addAuctionInfo_ignored hcategory (by rw [hdiffType]; decide)
            with ⟨m, heq⟩
          rw [heq]
          exact factsAtEnd_unmentioned hbegun

theorem facts_round (w : AuctionComplexDiffWriter)
    {r : Round AuctionSimpleInfo}
    (hnodup : (r.infos.map AuctionSimpleInfo.uid).Nodup)
    (hcategory : forall info, info ∈ r.infos ->
      info.category.toNat < w.number) (uid : UInt32) :
    (w.round r).facts uid = Facts.process w.diffMode
      (Facts.live (w.facts uid)) (r.infos.find? fun info => info.uid = uid) := by
  have hnumber : w.number ≤
      (beginProcess (r.before.foldl category w)).number :=
    w.foldl_category_number r.before
  have hmode : (beginProcess (r.before.foldl category w)).diffMode =
      w.diffMode := by
    rw [foldl_category]
    rfl
  have hfound : (beginProcess (r.before.foldl category w)).getAuction uid =
      ((w.getAuction uid).filter fun a => !a.isInFinalState).map
        AuctionComplexData.beginProcess := by
    rw [foldl_category]
    exact AuctionGenericWriter.getAuction_beginProcess _ _ _
  have hend : (w.round r).facts uid = (r.calls.foldl call
      (beginProcess (r.before.foldl category w))).factsAtEnd
        (fun a => ((r.calls.foldl call (beginProcess (r.before.foldl category
          w))).categoryTimeManager.getEstimatedCategoryBeginTime
            a.category.toNat).toUInt64)
        (fun a => ((r.calls.foldl call (beginProcess (r.before.foldl category
          w))).categoryTimeManager.getEstimatedCategoryEndTime
            a.category.toNat).toUInt64) w.diffMode uid := by
    rw [← hmode, ← foldl_diffMode _ r.calls, facts, factsAtEnd]
    change Option.map _ ((AuctionGenericWriter.endProcess _ _).getAuction _) = _
    rw [AuctionGenericWriter.getAuction_endProcess, Option.map_map]
    rfl
  generalize beginProcess (r.before.foldl category w) = begun at *
  have hbegun : forall a, begun.getAuction uid = some a -> a.processStatus =
      AuctionComplexData.ProcessStatus.notProcessed := by
    intro a ha
    rw [hfound] at ha
    rcases Option.map_eq_some_iff.mp ha with ⟨old, hold, heq⟩
    have hlive := (Option.filter_eq_some_iff.mp hold).right
    rw [← heq]
    exact (AuctionComplexData.beginProcess_facts (by simpa using hlive)).right
  have hfacts : begun.facts uid = Facts.live (w.facts uid) := by
    rw [facts, hfound, facts, Facts.live]
    cases w.getAuction uid with
    | none => rfl
    | some a =>
        rw [Option.map_some, Option.filter_some, Option.filter_some]
        cases hlive : a.isInFinalState with
        | true =>
            rw [if_neg (by simp), if_neg (by simpa [AuctionComplexData.facts]
              using hlive)]
            rfl
        | false =>
            rw [if_pos (by simp), if_pos (by simpa [AuctionComplexData.facts]
              using hlive)]
            exact congrArg some
              (AuctionComplexData.beginProcess_facts hlive).left
  rw [hend, ← hfacts]
  have hframe : forall (w : AuctionComplexDiffWriter) c,
      (forall info, c = Call.addAuctionInfo info -> info.uid ≠ uid) ->
        (w.call c).getAuction uid = w.getAuction uid :=
    fun w c hne => w.call_getAuction_ne c hne
  cases hline : r.infos.find? fun info => info.uid = uid with
  | none =>
      have hcalls : (r.calls.foldl call begun).getAuction uid =
          begun.getAuction uid := by
        refine foldl_unmentioned (fun w => w.getAuction uid) hframe ?_ begun
        intro info hinfo
        simpa using List.find?_eq_none.mp hline info
          (Round.mem_infos.mpr hinfo)
      rw [← factsAtEnd_unmentioned hbegun, factsAtEnd, hcalls, factsAtEnd]
  | some info =>
      have huid : info.uid = uid := by simpa using List.find?_some hline
      have hmem := List.mem_of_find?_eq_some hline
      rcases foldl_mentioned (fun w => w.getAuction uid) hframe
        (Round.mem_infos.mp hmem) huid hnodup begun with
        ⟨before, hsame, hcalls⟩
      have hsameFacts : (before.foldl call begun).facts uid =
          begun.facts uid := by
        rw [facts, hsame, facts]
      rw [factsAtEnd, hcalls, ← hsameFacts, ← huid]
      apply factsAtEnd_addAuctionInfo
      · exact Nat.lt_of_lt_of_le (hcategory info hmem)
          (Nat.le_trans hnumber (begun.foldl_number before))
      · rw [huid, hsame]
        exact hbegun

end AuctionComplexDiffWriter

end Auction
end Rzu
