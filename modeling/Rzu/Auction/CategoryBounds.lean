import Rzu.Auction.Facts
import Rzu.Library.Run

/-!
# Categories of auctions

The end of a round reads the times of an auction's category from a table that
is as long as there are categories.  A dump says in its header how many there
are, and in every line to which of them an auction belongs.
-/

namespace Rzu
namespace Auction

open Library

/-!
## An auction stays in its category
-/

namespace AuctionComplexData

variable (a : AuctionComplexData)

theorem parseData_category (epic : UInt32) (data : List UInt8) :
    (a.parseData epic data).2.category = a.category := by
  rw [parseData]
  split
  · rfl
  · split <;> rfl

theorem postParseData_category (newData : Bool) :
    (a.postParseData newData).category = a.category := by
  simp only [postParseData]
  split
  · split
    · rfl
    · split <;> rfl
  · rfl

theorem create_category (uid : UInt32) (timeMin timeMax : UInt64)
    (category : UInt16) (epic : UInt32) (data : List UInt8) :
    (create uid timeMin timeMax category epic data).category = category := by
  rw [create, postParseData_category, parseData_category]

theorem setStatus_category (status : ProcessStatus) (time : UInt64) :
    (a.setStatus status time).category = a.category := by
  rw [setStatus]
  split
  · rfl
  · split <;> rfl

theorem update_category (time : UInt64) (epic : UInt32) (data : List UInt8) :
    (a.update time epic data).category = a.category := by
  have hparsed := a.parseData_category epic data
  simp only [update]
  split
  · rw [postParseData_category]
    split
    · rw [setStatus_category, hparsed]
    · split
      · rw [setStatus_category, hparsed]
      · exact hparsed
  · split
    · rw [setStatus_category, hparsed]
    · split
      · rw [setStatus_category, hparsed]
      · exact hparsed

theorem remove_category (time : UInt64) :
    (a.remove time).category = a.category := by
  rw [remove]
  split
  · exact a.setStatus_category _ _
  · rfl

theorem unmodified_category (time : UInt64) :
    (a.unmodified time).category = a.category := by
  rw [unmodified]
  split
  · exact a.setStatus_category _ _
  · rfl

theorem maybeStillDeleted_category :
    a.maybeStillDeleted.category = a.category := by
  simp only [maybeStillDeleted]
  split
  · split
    · rw [setStatus_category]
    · split
      · rw [setStatus_category]
      · rfl
  · rfl

theorem beginProcess_category : a.beginProcess.category = a.category := by
  rw [beginProcess]
  split <;> rfl

theorem endProcess_category (categoryBeginTime categoryEndTime : UInt64)
    (diffMode : Bool) :
    (a.endProcess categoryBeginTime categoryEndTime diffMode).category =
      a.category := by
  simp only [endProcess, maybeStillDeleted_category]
  split
  · split
    · exact a.remove_category _
    · split
      · exact a.unmodified_category _
      · rfl
  · rfl

theorem createFromDump_category (info : AuctionInfo) :
    (createFromDump info).category = info.category := by
  simp only [createFromDump]
  split
  · exact create_category _ _ _ _ _ _
  · exact create_category _ _ _ _ _ _

end AuctionComplexData

/-!
## The table of times
-/

namespace AuctionComplexDiffWriter

structure CategoryTimeInfo where
  beginTime : UInt64
  endTime : UInt64

/-- Cache category times to have faster lookups. -/
def categoryTimeInfo (w : AuctionComplexDiffWriter) : List CategoryTimeInfo :=
  (List.range w.categoryTimeManager.getCategoryNumber).map fun i =>
    { beginTime :=
        (w.categoryTimeManager.getEstimatedCategoryBeginTime i).toUInt64
      endTime := (w.categoryTimeManager.getEstimatedCategoryEndTime i).toUInt64 }

/-- The callback of `endProcess`, unless it reads past the end of the table. -/
def endAuction? (w : AuctionComplexDiffWriter) (data : AuctionComplexData) :
    Option AuctionComplexData :=
  (w.categoryTimeInfo[data.category.toNat]?).map fun times =>
    data.endProcess times.beginTime times.endTime w.diffMode

/-- The auctions after `endProcess`, unless it reads past the end. -/
def endAuctions? (w : AuctionComplexDiffWriter) :
    Option (List AuctionComplexData) :=
  w.auctions.elements.mapM w.endAuction?

variable {w : AuctionComplexDiffWriter}

theorem endAuction?_of_lt {data : AuctionComplexData}
    (h : data.category.toNat < w.number) :
    w.endAuction? data = some ((AuctionComplexData.onEnd
      w.categoryTimeManager w.diffMode).run data) := by
  rw [number] at h
  rw [endAuction?, categoryTimeInfo, List.getElem?_map,
    List.getElem?_range h]
  rfl

theorem endAuction?_of_le {data : AuctionComplexData}
    (h : w.number ≤ data.category.toNat) : w.endAuction? data = none := by
  have hlength : w.categoryTimeInfo.length = w.number := by
    rw [categoryTimeInfo, List.length_map, List.length_range]
    rfl
  rw [endAuction?, List.getElem?_eq_none (by rw [hlength]; exact h)]
  rfl

/-- Every auction is in a category that there is. -/
def InCategories (w : AuctionComplexDiffWriter) : Prop :=
  w.Each fun auction => auction.category.toNat < w.number

theorem endAuctions?_of_inCategories (h : w.InCategories) :
    w.endAuctions? = some w.endProcess.auctions.elements := by
  have hall : forall auctions : List AuctionComplexData,
      (forall auction, auction ∈ auctions ->
        auction.category.toNat < w.number) ->
      auctions.mapM w.endAuction? =
        some (auctions.map (AuctionComplexData.onEnd w.categoryTimeManager
          w.diffMode).run) := by
    intro auctions hauctions
    induction auctions with
    | nil => rfl
    | cons first rest ih =>
        rw [List.mapM_cons,
          endAuction?_of_lt (hauctions first List.mem_cons_self),
          ih fun auction hauction =>
            hauctions auction (List.mem_cons_of_mem _ hauction)]
        rfl
  exact hall _ h

theorem inCategories_of_endAuctions? {later : List AuctionComplexData}
    (h : w.endAuctions? = some later) : w.InCategories := by
  rw [endAuctions?] at h
  rw [InCategories, AuctionGenericWriter.Each]
  generalize w.auctions.elements = auctions at h
  induction auctions generalizing later with
  | nil =>
      intro auction hauction
      cases hauction
  | cons first rest ih =>
      rw [List.mapM_cons] at h
      rcases Option.bind_eq_some_iff.mp h with ⟨first', hfirst, hrest⟩
      rcases Option.bind_eq_some_iff.mp hrest with ⟨rest', hrest', -⟩
      intro auction hauction
      rcases List.mem_cons.mp hauction with heq | hmem
      · rw [heq]
        apply Nat.lt_of_not_le
        intro hle
        rw [endAuction?_of_le hle] at hfirst
        cases hfirst
      · exact ih hrest' auction hmem

/--
`endProcess` reads the table where it has an entry, and no dump attributes an
auction to a category that the header of this dump does not have.
-/
structure CategoriesExist (w : AuctionComplexDiffWriter) : Prop where
  endProcess : w.endAuctions? = some w.endProcess.auctions.elements
  exported : forall doFullDump alwaysWithData info,
    info ∈ (w.exportDump doFullDump alwaysWithData).auctions ->
      info.category.toNat <
        (w.exportDump doFullDump alwaysWithData).header.categories.length

theorem exportDump_categories (doFullDump alwaysWithData : Bool) :
    (w.exportDump doFullDump alwaysWithData).header.categories.length =
      w.number :=
  List.length_map _

theorem categoriesExist_iff_inCategories :
    w.CategoriesExist ↔ w.InCategories := by
  constructor
  · intro h
    exact inCategories_of_endAuctions? h.endProcess
  · intro h
    refine ⟨endAuctions?_of_inCategories h, ?_⟩
    intro doFullDump alwaysWithData info hinfo
    rcases List.mem_map.mp hinfo with ⟨a, ha, heq⟩
    rw [exportDump_categories, ← heq]
    exact h a (List.mem_filter.mp ha).left

/-!
## What keeps auctions in their categories
-/

theorem inCategories_create (categoryCount : Nat) :
    (create categoryCount).InCategories :=
  AuctionGenericWriter.Each.create categoryCount _

theorem InCategories.call (h : w.InCategories) (c : Call AuctionSimpleInfo) :
    (w.call c).InCategories := by
  have hnumber := w.call_number c
  have hold : w.Each fun auction =>
      auction.category.toNat < (w.call c).number :=
    fun auction hauction => Nat.lt_of_lt_of_le (h auction hauction) hnumber
  cases c with
  | category call => exact hold
  | addAuctionInfo info =>
      change (w.addAuctionInfo info).Each fun auction =>
        auction.category.toNat < (w.addAuctionInfo info).number
      change w.Each fun auction =>
        auction.category.toNat < (w.addAuctionInfo info).number at hold
      by_cases hcategory : info.category.toNat < w.number
      · have hnew : info.category.toNat < (w.addAuctionInfo info).number :=
          Nat.lt_of_lt_of_le hcategory hnumber
        generalize (w.addAuctionInfo info).number = n at *
        rcases addAuctionInfo_cases w info with ⟨w', hauctions, -, hcases⟩
        have hold' : w'.Each fun auction => auction.category.toNat < n := by
          rw [AuctionGenericWriter.Each, hauctions]
          exact hold
        rcases hcases with heq | ⟨timeMin, epic, heq⟩ |
          ⟨timeMin, epic, heq⟩ | ⟨timeMin, heq⟩
        · rw [heq]
          exact hold'
        · rw [heq]
          apply hold'.modifyAuction
          intro auction hauction
          change (AuctionComplexData.update _ _ _ _).category.toNat < n
          rw [AuctionComplexData.update_category]
          exact hauction
        · rw [heq]
          apply hold'.addAuction
          rw [AuctionComplexData.create_category]
          exact hnew
        · rw [heq]
          apply hold'.modifyAuction
          intro auction hauction
          change (AuctionComplexData.remove _ _).category.toNat < n
          rw [AuctionComplexData.remove_category]
          exact hauction
      · have hsame : w.addAuctionInfo info = w :=
          if_pos (Nat.le_of_not_lt hcategory)
        rw [hsame]
        exact h

theorem InCategories.beginProcess (h : w.InCategories) :
    w.beginProcess.InCategories := by
  refine AuctionGenericWriter.Each.beginProcess
    h ?_
  intro auction hauction hlive
  change auction.beginProcess.category.toNat < w.number
  rw [AuctionComplexData.beginProcess_category]
  exact hauction

theorem InCategories.endProcess (h : w.InCategories) :
    w.endProcess.InCategories := by
  have hnumber : w.endProcess.number = w.number :=
    CategoryTimeManager.resetCategoryTime_number _
  rw [InCategories, hnumber]
  refine AuctionGenericWriter.Each.endProcess
    h ?_
  intro auction hauction
  change (AuctionComplexData.endProcess _ _ _ _).category.toNat < w.number
  rw [AuctionComplexData.endProcess_category]
  exact hauction

end AuctionComplexDiffWriter

/-- Every auction of the dump that a writer keeps has a declared category. -/
def AuctionFile.CategoriesDeclared (file : AuctionFile) : Prop :=
  forall uid info, file.auctions.find? (fun info => info.uid = uid) =
    some info -> info.category.toNat < file.header.categories.length

namespace AuctionComplexDiffWriter

variable {w : AuctionComplexDiffWriter}

theorem importDump_number (file : AuctionFile) :
    (w.importDump file).number = file.header.categories.length := by
  change (CategoryTimeManager.deserializeHeader file.header).getCategoryNumber =
    _
  rw [CategoryTimeManager.deserializeHeader,
    CategoryTimeManager.resetCategoryTime_number]
  exact List.length_map _

theorem importDump_getAuction (file : AuctionFile) (uid : UInt32) :
    (w.importDump file).getAuction uid =
      (file.auctions.find? fun info => info.uid = uid).map
        AuctionComplexData.createFromDump := by
  change (FlatMap.empty.insertAll (file.auctions.map
    AuctionComplexData.createFromDump)).find? uid.toNat = _
  rw [FlatMap.find?_insertAll, FlatMap.find?_empty, Option.none_or,
    List.find?_map]
  congr 2
  funext info
  change decide ((AuctionComplexData.createFromDump info).uid.toNat =
    uid.toNat) = _
  rw [AuctionComplexData.createFromDump_uid]
  exact decide_eq_decide.mpr UInt32.toNat_inj

theorem importDump_inCategories_iff (file : AuctionFile) :
    (w.importDump file).InCategories ↔ file.CategoriesDeclared := by
  rw [InCategories, importDump_number]
  constructor
  · intro h uid info hinfo
    have hfound : (w.importDump file).getAuction uid =
        some (AuctionComplexData.createFromDump info) := by
      rw [importDump_getAuction, hinfo]
      rfl
    have hlt := AuctionGenericWriter.Each.found h hfound
    rw [AuctionComplexData.createFromDump_category] at hlt
    exact hlt
  · intro h auction hauction
    have hfound := AuctionGenericWriter.mem_iff_getAuction.mp hauction
    rw [importDump_getAuction] at hfound
    rcases Option.map_eq_some_iff.mp hfound with ⟨info, hinfo, heq⟩
    rw [← heq, AuctionComplexData.createFromDump_category]
    exact h _ info hinfo

/-!
## Runs
-/

inductive Operation where
  | importDump (auctionFile : AuctionFile)
  | setDiffInputMode (diffMode : Bool)
  | beginProcess
  | call (c : Call AuctionSimpleInfo)
  | endProcess

/-- It does not come back from `endProcess` if this reads past the end. -/
def operate? (w : AuctionComplexDiffWriter) :
    Operation -> Option AuctionComplexDiffWriter
  | Operation.importDump auctionFile => some (w.importDump auctionFile)
  | Operation.setDiffInputMode diffMode => some (w.setDiffInputMode diffMode)
  | Operation.beginProcess => some w.beginProcess
  | Operation.call c => some (w.call c)
  | Operation.endProcess => w.endAuctions?.map fun _ => w.endProcess

def Step (w : AuctionComplexDiffWriter) (op : Operation)
    (w' : AuctionComplexDiffWriter) : Prop :=
  w.operate? op = some w'

theorem operation_deterministic : Deterministic Step := by
  intro w op w' w'' h h'
  rw [Step, h] at h'
  exact Option.some.inj h'

/-- A dump that has an auction in a category that it does not declare. -/
def ImportsUndeclared (_ : AuctionComplexDiffWriter) (op : Operation) : Prop :=
  exists file, op = Operation.importDump file ∧ ¬file.CategoriesDeclared

theorem InCategories.step {w' : AuctionComplexDiffWriter} {op : Operation}
    (h : w.InCategories) (hstep : Step w op w')
    (hdeclared : ¬ImportsUndeclared w op) : w'.InCategories := by
  rw [Step] at hstep
  cases op with
  | importDump file =>
      cases hstep
      rw [importDump_inCategories_iff]
      exact Classical.byContradiction fun hnot =>
        hdeclared ⟨file, rfl, hnot⟩
  | setDiffInputMode diffMode =>
      cases hstep
      exact h
  | beginProcess =>
      cases hstep
      exact h.beginProcess
  | call c =>
      cases hstep
      exact h.call c
  | endProcess =>
      rw [operate?, endAuctions?_of_inCategories h] at hstep
      cases hstep
      exact h.endProcess

theorem not_inCategories_step {w' : AuctionComplexDiffWriter} {op : Operation}
    (hstep : Step w op w') (hundeclared : ImportsUndeclared w op) :
    ¬w'.InCategories := by
  rcases hundeclared with ⟨file, heq, hnot⟩
  subst heq
  cases hstep
  rw [importDump_inCategories_iff]
  exact hnot

/--
The categories exist in every state of a run exactly if every dump that it
imports declares the categories of its auctions.
-/
theorem categoriesExist_iff (categoryCount : Nat) {history : List Operation}
    (hrun : Run Step (create categoryCount) history w) :
    Throughout Step (create categoryCount) CategoriesExist history ↔
      forall file, Operation.importDump file ∈ history ->
        file.CategoriesDeclared := by
  have hiff : Throughout Step (create categoryCount) CategoriesExist history ↔
      Avoids Step (create categoryCount) ImportsUndeclared history := by
    apply throughout_iff_avoids operation_deterministic _ _ _ hrun
    · exact categoriesExist_iff_inCategories.mpr
        (inCategories_create categoryCount)
    · intro before s op s' _ hholds hstep hgood
      have hin := categoriesExist_iff_inCategories.mp hholds
      exact categoriesExist_iff_inCategories.mpr (hin.step hstep hgood)
    · intro before s op s' _ hstep hbad hholds
      exact not_inCategories_step hstep hbad
        (categoriesExist_iff_inCategories.mp hholds)
  rw [hiff]
  constructor
  · intro havoids file hfile
    apply Classical.byContradiction
    intro hnot
    rcases List.append_of_mem hfile with ⟨before, after, heq⟩
    rw [heq] at hrun
    rcases hrun.split with ⟨mid, -, hmid, -, -⟩
    exact havoids before _ after mid heq hmid ⟨file, rfl, hnot⟩
  · intro hall before op after mid heq hmid hbad
    rcases hbad with ⟨file, hop, hnot⟩
    apply hnot
    apply hall
    rw [heq, hop]
    exact List.mem_append_right _ List.mem_cons_self

def declaredFile : AuctionFile where
  header := ⟨[82, 65, 72, 0], AUCTION_LATEST, 1, [⟨10, 20⟩]⟩
  auctions := [⟨⟨7, 20, 10, 0, 0, 0, []⟩, true, 0, 0, 0, 0, 0, [], 0, false, 0⟩]

/-- The header knows category 0 only. -/
def undeclaredFile : AuctionFile where
  header := declaredFile.header
  auctions := [⟨⟨7, 20, 10, 0, 5, 0, []⟩, true, 0, 0, 0, 0, 0, [], 0, false, 0⟩]

theorem categoriesExist_iff_declaredFile :
    exists w, Run Step (create 1) [Operation.importDump declaredFile,
        Operation.beginProcess, Operation.endProcess] w ∧
      (Throughout Step (create 1) CategoriesExist
          [Operation.importDump declaredFile, Operation.beginProcess,
            Operation.endProcess] ↔
        forall file, Operation.importDump file ∈
          [Operation.importDump declaredFile, Operation.beginProcess,
            Operation.endProcess] -> file.CategoriesDeclared) := by
  have hend : Step ((create 1).importDump declaredFile).beginProcess
      Operation.endProcess
      ((create 1).importDump declaredFile).beginProcess.endProcess := by
    have hread :
        ((create 1).importDump declaredFile).beginProcess.endAuctions? =
          some ((create 1).importDump
            declaredFile).beginProcess.endProcess.auctions.elements := by
      decide +kernel
    rw [Step, operate?, hread]
    rfl
  have hrun : Run Step (create 1) [Operation.importDump declaredFile,
      Operation.beginProcess, Operation.endProcess]
      ((create 1).importDump declaredFile).beginProcess.endProcess :=
    Run.snoc (Run.snoc (Run.snoc Run.nil rfl) rfl) hend
  exact ⟨_, hrun, categoriesExist_iff 1 hrun⟩

/-- The import of a dump leads to a state in which the end of a round fails. -/
theorem not_categoriesExist_undeclaredFile :
    ¬forall categoryCount history w,
      Run Step (create categoryCount) history w -> w.CategoriesExist := by
  intro h
  have hexist := h 1 [Operation.importDump undeclaredFile] _
    (Run.snoc Run.nil rfl)
  have hread := hexist.endProcess
  cases hread

end AuctionComplexDiffWriter

end Auction
end Rzu
