import Rzu.Auction.ComplexRestart
import Rzu.Auction.SimpleDiffWriter

/-!
# Restarts of a writer

A writer that imports what another one has exported after a round goes on as the
other one does.
-/

namespace Rzu
namespace Auction

open Library

/-- An epic that was never assigned is not compared. -/
def AuctionSimpleInfo.known (info : AuctionSimpleInfo) : AuctionSimpleInfo :=
  if info.data = [] then { info with epic := 0 } else info

namespace AuctionSimpleData

def known (a : AuctionSimpleData) : AuctionSimpleData :=
  if a.rawData = [] then { a with rawDataEpic := 0 } else a

variable (a : AuctionSimpleData)

theorem exists_known_eq :
    exists epic, a.known = { a with rawDataEpic := epic } := by
  rw [known]
  split
  · exact ⟨_, rfl⟩
  · exact ⟨_, rfl⟩

theorem known_uid : a.known.uid = a.uid := by
  rcases a.exists_known_eq with ⟨epic, heq⟩
  rw [heq]

theorem known_processStatus : a.known.processStatus = a.processStatus := by
  rcases a.exists_known_eq with ⟨epic, heq⟩
  rw [heq]

theorem known_category : a.known.category = a.category := by
  rcases a.exists_known_eq with ⟨epic, heq⟩
  rw [heq]

theorem known_getAuctionDiffType :
    a.known.getAuctionDiffType = a.getAuctionDiffType := by
  rw [getAuctionDiffType, known_processStatus]
  rfl

theorem serialize_known : a.known.serialize = a.serialize.known := by
  rw [known, AuctionSimpleInfo.known]
  change _ = if a.rawData = [] then _ else _
  split <;> rfl

theorem known_of_commutes {f : AuctionSimpleData -> AuctionSimpleData}
    (hepic : forall a epic, f { a with rawDataEpic := epic } =
      { f a with rawDataEpic := epic })
    (hdata : forall a, (f a).rawData = a.rawData) :
    (f a.known).known = (f a).known := by
  by_cases hempty : a.rawData = []
  · have hempty' : (f a).rawData = [] := by rw [hdata, hempty]
    rw [known, known, known, if_pos hempty, if_pos hempty', hepic]
    exact if_pos hempty'
  · rw [known, known, if_neg hempty]
    rfl

theorem setStatus_epic (status : ProcessStatus) (time : UInt64)
    (epic : UInt32) :
    ({ a with rawDataEpic := epic }).setStatus status time =
      { a.setStatus status time with rawDataEpic := epic } := by
  rw [setStatus, setStatus]
  split <;> rfl

theorem setStatus_rawData (status : ProcessStatus) (time : UInt64) :
    (a.setStatus status time).rawData = a.rawData := by
  rw [setStatus]
  split <;> rfl

theorem known_beginProcess :
    a.known.beginProcess.known = a.beginProcess.known := by
  apply known_of_commutes
  · intro a epic
    rw [beginProcess, beginProcess]
    split <;> rfl
  · intro a
    rw [beginProcess]
    split <;> rfl

theorem known_endProcess (categoryEndTime : UInt64) :
    (a.known.endProcess categoryEndTime).known =
      (a.endProcess categoryEndTime).known := by
  apply known_of_commutes a (f := fun a => a.endProcess categoryEndTime)
  · intro a epic
    simp only [endProcess]
    split
    · exact a.setStatus_epic _ _ _
    · rfl
  · intro a
    simp only [endProcess]
    split
    · exact a.setStatus_rawData _ _
    · rfl

theorem known_doUpdate (timeMax : UInt64) (epic : UInt32)
    (data : List UInt8) :
    (a.known.doUpdate timeMax epic data).known =
      (a.doUpdate timeMax epic data).known := by
  by_cases hdata : data = []
  · subst hdata
    apply known_of_commutes a (f := fun a => a.doUpdate timeMax epic [])
    · intro a epic
      simp only [doUpdate, parseData, if_true]
      split
      · exact a.setStatus_epic _ _ _
      · split
        · exact a.setStatus_epic _ _ _
        · rfl
    · intro a
      simp only [doUpdate, parseData, if_true]
      split
      · exact a.setStatus_rawData _ _
      · split
        · exact a.setStatus_rawData _ _
        · rfl
  · rcases a.exists_known_eq with ⟨old, hold⟩
    have hparse : a.known.parseData epic data = a.parseData epic data := by
      rw [hold, parseData, parseData, if_neg hdata, if_neg hdata]
    rw [doUpdate, doUpdate, hparse]

theorem known_create (memory memory' uid : UInt32) (timeMin timeMax : UInt64)
    (category : UInt16) (epic : UInt32) (data : List UInt8) :
    (create memory uid timeMin timeMax category epic data).known =
      (create memory' uid timeMin timeMax category epic data).known := by
  rw [create, create, parseData, parseData]
  split
  · rfl
  · rfl

theorem known_createFromDump {a : AuctionSimpleData} (memory : UInt32)
    (h : a.processStatus ≠ ProcessStatus.notProcessed) :
    (createFromDump memory a.serialize).known = a.known := by
  have hstatus : getAuctionProcessStatus
      (DiffType.ofUInt16? a.serialize.diffType) = a.processStatus := by
    change getAuctionProcessStatus
      (DiffType.ofUInt16? a.getAuctionDiffType.toUInt16) = _
    rw [DiffType.ofUInt16?_toUInt16, getAuctionDiffType]
    cases hprocess : a.processStatus with
    | notProcessed => exact absurd hprocess h
    | unmodifed | added | updated | deleted => rfl
  simp only [createFromDump, hstatus, if_neg h]
  simp only [serialize, UInt64.toUInt64_toInt64, create, parseData]
  by_cases hdata : a.rawData = []
  · rw [if_pos hdata, known, known, if_pos rfl, if_pos hdata]
    cases a
    cases hdata
    rfl
  · rw [if_neg hdata]

end AuctionSimpleData

namespace AuctionSimpleDiffWriter

/-- Writers that differ in what they never assigned. -/
structure Alike (w w' : AuctionSimpleDiffWriter) : Prop where
  manager : w'.categoryTimeManager = w.categoryTimeManager
  auctions : forall uid, (w'.getAuction uid).map AuctionSimpleData.known =
    (w.getAuction uid).map AuctionSimpleData.known

theorem addAuctionInfo_manager (memory : Memory) (w : AuctionSimpleDiffWriter)
    (s : SimpleSighting) :
    (w.addAuctionInfo memory s).categoryTimeManager =
      w.categoryTimeManager.adjustCategoryTimeRange s.category.toNat
        s.time.toInt64 := by
  simp only [addAuctionInfo]
  split <;> rfl

namespace Alike

variable {w w' : AuctionSimpleDiffWriter}

theorem map (h : Alike w w') {f : AuctionSimpleData -> AuctionSimpleData}
    (hf : forall a, (f a.known).known = (f a).known) (uid : UInt32) :
    ((w'.getAuction uid).map f).map AuctionSimpleData.known =
      ((w.getAuction uid).map f).map AuctionSimpleData.known := by
  have hknown : forall found : Option AuctionSimpleData,
      (found.map f).map AuctionSimpleData.known =
        ((found.map AuctionSimpleData.known).map f).map
          AuctionSimpleData.known := by
    intro found
    cases found with
    | none => rfl
    | some a => exact congrArg some (hf a).symm
  rw [hknown, h.auctions uid, ← hknown]

theorem elements (h : Alike w w') :
    w'.auctions.elements.map AuctionSimpleData.known =
      w.auctions.elements.map AuctionSimpleData.known := by
  let known : Callback AuctionSimpleData :=
    ⟨AuctionSimpleData.known, AuctionSimpleData.known_uid⟩
  have hsame : w'.forEachAuction known = w.forEachAuction known := by
    refine AuctionGenericWriter.ext_getAuction ?_ ?_
    · exact h.manager
    · intro uid
      rw [AuctionGenericWriter.getAuction_forEachAuction,
        AuctionGenericWriter.getAuction_forEachAuction]
      exact h.auctions uid
  exact congrArg (fun w => w.auctions.elements) hsame

theorem category (h : Alike w w') (call : CategoryCall) :
    Alike (w.category call) (w'.category call) where
  manager := congrArg (fun m => m.call call) h.manager
  auctions := h.auctions

theorem addAuctionInfo (h : Alike w w') (memory memory' : Memory)
    (s : SimpleSighting) :
    Alike (w.addAuctionInfo memory s) (w'.addAuctionInfo memory' s) where
  manager := by
    rw [addAuctionInfo_manager, addAuctionInfo_manager, h.manager]
  auctions := by
    intro uid
    have hfound := h.auctions s.uid
    simp only [AuctionSimpleDiffWriter.addAuctionInfo]
    cases hold : w.getAuction s.uid with
    | some a =>
        rw [hold, Option.map_some] at hfound
        rcases Option.map_eq_some_iff.mp hfound with ⟨a', hold', -⟩
        rw [hold']
        change ((w'.modifyAuction _ _).getAuction uid).map _ =
          ((w.modifyAuction _ _).getAuction uid).map _
        rw [AuctionGenericWriter.getAuction_modifyAuction,
          AuctionGenericWriter.getAuction_modifyAuction]
        split
        · exact h.map (fun a => a.known_doUpdate _ _ _) uid
        · exact h.auctions uid
    | none =>
        rw [hold, Option.map_none] at hfound
        rw [Option.map_eq_none_iff.mp hfound]
        change ((w'.addAuction _).getAuction uid).map _ =
          ((w.addAuction _).getAuction uid).map _
        rw [AuctionGenericWriter.getAuction_addAuction,
          AuctionGenericWriter.getAuction_addAuction, Option.map_or,
          Option.map_or, h.auctions uid, h.manager]
        congr 1
        have huid : forall memory : Memory, IAuctionData.getUid
            (AuctionSimpleData.create (memory s.uid) s.uid
              (w.categoryTimeManager.getEstimatedPreviousCategoryBeginTime
                s.category.toNat).toUInt64
              s.time s.category s.epic s.data) = s.uid :=
          fun memory => AuctionSimpleData.create_uid _ _ _ _ _ _ _
        rw [huid, huid]
        split
        · exact congrArg some (AuctionSimpleData.known_create _ _ _ _ _ _ _ _)
        · rfl

theorem beginProcess (h : Alike w w') :
    Alike (w.beginProcess) (w'.beginProcess) where
  manager := h.manager
  auctions := by
    intro uid
    have hlive : forall found : Option AuctionSimpleData,
        (found.filter fun a => !IAuctionData.isInFinalState a).map
          AuctionSimpleData.known =
        (found.map AuctionSimpleData.known).filter fun a =>
          !IAuctionData.isInFinalState a := by
      intro found
      cases found with
      | none => rfl
      | some a =>
          have hfinal : IAuctionData.isInFinalState a.known =
              IAuctionData.isInFinalState a := by
            change decide (a.known.processStatus = _) =
              decide (a.processStatus = _)
            rw [a.known_processStatus]
          rw [Option.map_some, Option.filter_some, Option.filter_some, hfinal]
          split <;> rfl
    have hbegin : forall found : Option AuctionSimpleData,
        (found.map AuctionSimpleData.beginProcess).map
          AuctionSimpleData.known =
        ((found.map AuctionSimpleData.known).map
          AuctionSimpleData.beginProcess).map AuctionSimpleData.known := by
      intro found
      cases found with
      | none => rfl
      | some a => exact congrArg some a.known_beginProcess.symm
    change ((AuctionGenericWriter.beginProcess w' _).getAuction uid).map _ =
      ((AuctionGenericWriter.beginProcess w _).getAuction uid).map _
    rw [AuctionGenericWriter.getAuction_beginProcess,
      AuctionGenericWriter.getAuction_beginProcess]
    change (Option.map AuctionSimpleData.beginProcess _).map _ =
      (Option.map AuctionSimpleData.beginProcess _).map _
    rw [hbegin, hlive, h.auctions uid, ← hlive, ← hbegin]

theorem endProcess (h : Alike w w') :
    Alike (w.endProcess) (w'.endProcess) := by
  have hreserved : w'.auctions.elements.foldl (fun m auction =>
        m.reserve auction.category.toNat) w'.categoryTimeManager =
      w.auctions.elements.foldl (fun m auction =>
        m.reserve auction.category.toNat) w.categoryTimeManager := by
    have hfold : forall (xs : List AuctionSimpleData)
        (m : CategoryTimeManager),
        xs.foldl (fun m auction => m.reserve auction.category.toNat) m =
          (xs.map AuctionSimpleData.known).foldl (fun m auction =>
            m.reserve auction.category.toNat) m := by
      intro xs m
      rw [List.foldl_map]
      simp only [AuctionSimpleData.known_category]
    rw [hfold, h.elements, ← hfold, h.manager]
  constructor
  · simp only [AuctionSimpleDiffWriter.endProcess]
    exact congrArg CategoryTimeManager.resetCategoryTime hreserved
  · intro uid
    simp only [AuctionSimpleDiffWriter.endProcess, hreserved]
    rw [AuctionGenericWriter.getAuction_endProcess,
      AuctionGenericWriter.getAuction_endProcess]
    refine h.map ?_ uid
    intro a
    change ((a.known).endProcess _).known = (a.endProcess _).known
    rw [a.known_category]
    exact a.known_endProcess _

theorem calls (h : Alike w w') (memory memory' : Memory)
    (cs : List (Call SimpleSighting)) :
    Alike (cs.foldl (call memory) w) (cs.foldl (call memory') w') := by
  induction cs generalizing w w' with
  | nil => exact h
  | cons first rest ih =>
      apply ih
      cases first with
      | category c => exact h.category c
      | addAuctionInfo s => exact h.addAuctionInfo memory memory' s

theorem categories (h : Alike w w') (cs : List CategoryCall) :
    Alike (cs.foldl AuctionSimpleDiffWriter.category w)
      (cs.foldl AuctionSimpleDiffWriter.category w') := by
  induction cs generalizing w w' with
  | nil => exact h
  | cons first rest ih => exact ih (h.category first)

theorem rounds (h : Alike w w') (memory memory' : Nat -> Memory)
    (rs : List (Round SimpleSighting)) :
    Alike (rounds memory w rs) (rounds memory' w' rs) := by
  induction rs generalizing w w' memory memory' with
  | nil => exact h
  | cons r rest ih =>
      exact ih ((h.categories r.before).beginProcess.calls _ _
        r.calls).endProcess _ _

theorem exportDump (h : Alike w w') (doFullDump : Bool) :
    (w'.exportDump doFullDump).header = (w.exportDump doFullDump).header ∧
      (w'.exportDump doFullDump).auctions.map AuctionSimpleInfo.known =
        (w.exportDump doFullDump).auctions.map AuctionSimpleInfo.known := by
  constructor
  · simp only [AuctionSimpleDiffWriter.exportDump, h.manager]
  · have hdump : forall xs : List AuctionSimpleData,
        ((xs.filter fun a => doFullDump || a.outputInPartialDump).map
          AuctionSimpleData.serialize).map AuctionSimpleInfo.known =
        ((xs.map AuctionSimpleData.known).filter fun a =>
          doFullDump || a.outputInPartialDump).map
            AuctionSimpleData.serialize := by
      intro xs
      have houtput : ((fun a => doFullDump || a.outputInPartialDump) ∘
          AuctionSimpleData.known) =
          fun a => doFullDump || a.outputInPartialDump := by
        funext a
        rw [Function.comp, AuctionSimpleData.outputInPartialDump,
          AuctionSimpleData.known_getAuctionDiffType]
        rfl
      rw [List.filter_map, houtput, List.map_map, List.map_map]
      exact List.map_congr_left fun a _ => a.serialize_known.symm
    change ((w'.auctions.elements.filter _).map _).map _ =
      ((w.auctions.elements.filter _).map _).map _
    rw [hdump, hdump, h.elements]

end Alike

/-- What holds after every round. -/
structure Settled (w : AuctionSimpleDiffWriter) : Prop where
  justReset : w.categoryTimeManager.JustReset
  auctions : w.Each fun a =>
    a.processStatus ≠ AuctionSimpleData.ProcessStatus.notProcessed

theorem create_settled (categoryCount : Nat) :
    (create categoryCount).Settled where
  justReset := CategoryTimeManager.create_justReset categoryCount
  auctions := AuctionGenericWriter.Each.create categoryCount _

variable {w : AuctionSimpleDiffWriter}

theorem endProcess_settled (w : AuctionSimpleDiffWriter) :
    w.endProcess.Settled where
  justReset := ⟨_, rfl⟩
  auctions := by
    have hany : w.Each fun _ => True := fun _ _ => trivial
    refine hany.endProcess ?_
    intro a _
    change (a.endProcess _).processStatus ≠ _
    rw [AuctionSimpleData.endProcess]
    split
    · rw [AuctionSimpleData.setStatus]
      exact fun h => by cases h
    · assumption

theorem Settled.rounds (h : w.Settled) (memory : Nat -> Memory)
    (rs : List (Round SimpleSighting)) : (rounds memory w rs).Settled := by
  induction rs generalizing w memory with
  | nil => exact h
  | cons r rest ih => exact ih (endProcess_settled _) _

theorem alike_importDump (h : w.Settled) (memory : Memory)
    (fresh : AuctionSimpleDiffWriter) :
    Alike w (fresh.importDump memory (w.exportDump true)) where
  manager := CategoryTimeManager.deserializeHeader_serializeHeader
    h.justReset DumpType.full
  auctions := by
    intro uid
    let restored : Callback AuctionSimpleData :=
      ⟨fun a => AuctionSimpleData.createFromDump (memory a.uid) a.serialize,
        fun a => AuctionSimpleData.createFromDump_uid _ _⟩
    have hfull : (w.exportDump true).auctions.map (fun info =>
        AuctionSimpleData.createFromDump (memory info.uid) info) =
          w.auctions.elements.map restored.run := by
      change ((w.auctions.elements.filter fun _ => true).map _).map _ = _
      rw [List.filter_true, List.map_map]
      rfl
    rw [importDump, hfull, AuctionGenericWriter.getAuction_importAuctions]
    cases hfound : w.getAuction uid with
    | none => rfl
    | some a =>
        exact congrArg some (AuctionSimpleData.known_createFromDump _
          (h.auctions.found hfound))

end AuctionSimpleDiffWriter

/--
After every round the writer that was restarted produces the same dumps as the
one that was not.  The simple writer never assigns the epic of an auction that
has no data, and what it writes for it is whatever the memory held.
-/
theorem restart_transparent :
    (forall (categoryCount categoryCount' : Nat) (diffMode : Bool)
        (earlier later : List (Round AuctionSimpleInfo))
        (doFullDump alwaysWithData : Bool),
      let w := ((AuctionComplexDiffWriter.create
        categoryCount).setDiffInputMode diffMode).rounds earlier
      let fresh := (AuctionComplexDiffWriter.create
        categoryCount').setDiffInputMode diffMode
      ((fresh.importDump (w.exportDump true true)).rounds later).exportDump
          doFullDump alwaysWithData =
        (w.rounds later).exportDump doFullDump alwaysWithData) ∧
    forall (categoryCount categoryCount' : Nat)
        (memory memory' memory'' : Nat -> Memory) (imported : Memory)
        (earlier later : List (Round SimpleSighting)) (doFullDump : Bool),
      let w := AuctionSimpleDiffWriter.rounds memory
        (AuctionSimpleDiffWriter.create categoryCount) earlier
      let fresh := AuctionSimpleDiffWriter.create categoryCount'
      let dump := (AuctionSimpleDiffWriter.rounds memory' w later).exportDump
        doFullDump
      let dump' := (AuctionSimpleDiffWriter.rounds memory''
        (fresh.importDump imported (w.exportDump true)) later).exportDump
          doFullDump
      dump'.header = dump.header ∧
        dump'.auctions.map AuctionSimpleInfo.known =
          dump.auctions.map AuctionSimpleInfo.known := by
  constructor
  · intro categoryCount categoryCount' diffMode earlier later doFullDump
      alwaysWithData w fresh
    have hsettled : w.Settled :=
      (AuctionComplexDiffWriter.create_settled categoryCount
        diffMode).rounds earlier
    have hmode : w.diffMode = fresh.diffMode :=
      AuctionComplexDiffWriter.rounds_diffMode _ earlier
    have hrestarted := AuctionComplexDiffWriter.restarted_importDump hsettled
      fresh hmode.symm
    cases later with
    | nil => exact hrestarted.exportDump doFullDump alwaysWithData
    | cons r rest =>
        rw [AuctionComplexDiffWriter.rounds, AuctionComplexDiffWriter.rounds,
          List.foldl_cons, List.foldl_cons, hrestarted.round r]
  · intro categoryCount categoryCount' memory memory' memory'' imported
      earlier later doFullDump w fresh dump dump'
    have hsettled : w.Settled :=
      (AuctionSimpleDiffWriter.create_settled categoryCount).rounds memory
        earlier
    have halike := AuctionSimpleDiffWriter.alike_importDump hsettled imported
      fresh
    exact (halike.rounds memory' memory'' later).exportDump doFullDump

end Auction
end Rzu
