import Rzu.Auction.Facts
import Rzu.Auction.SimpleDiffWriter

/-!
# Full mode and diff mode

One complex writer sees every auction of a round, another one only what the
simple writer puts in its partial dump.  They hold the same auctions.
-/

namespace Rzu
namespace Auction

open Library

/-!
## A round of the simple writer
-/

namespace AuctionSimpleData

variable {a : AuctionSimpleData}

theorem beginProcess_live (hlive : a.isInFinalState = false) :
    a.beginProcess =
      { a with
        processStatus := ProcessStatus.notProcessed
        timeMin := a.timeMax } := by
  have hstatus : a.processStatus ≠ ProcessStatus.deleted := by
    simpa [isInFinalState] using hlive
  rw [beginProcess, if_neg hstatus]

theorem doUpdate_changed (h : a.processStatus = ProcessStatus.notProcessed)
    {data : List UInt8} (hdata : data ≠ []) (hchanged : a.rawData ≠ data)
    (timeMax : UInt64) (epic : UInt32) :
    a.doUpdate timeMax epic data =
      { a with
        rawDataEpic := epic
        rawData := data
        timeMax := timeMax
        processStatus := ProcessStatus.updated } := by
  simp [doUpdate, parseData, hdata, hchanged, h, setStatus]

theorem doUpdate_unchanged (h : a.processStatus = ProcessStatus.notProcessed)
    {data : List UInt8} (hdata : data = [] ∨ a.rawData = data)
    (timeMax : UInt64) (epic : UInt32) :
    (a.doUpdate timeMax epic data).processStatus = ProcessStatus.unmodifed ∧
      (a.doUpdate timeMax epic data).rawData = a.rawData := by
  by_cases hempty : data = []
  · simp [doUpdate, parseData, hempty, h, setStatus]
  · have hsame := hdata.resolve_left hempty
    simp [doUpdate, parseData, hempty, h, hsame, setStatus]

theorem doUpdate_category (a : AuctionSimpleData) (timeMax : UInt64)
    (epic : UInt32) (data : List UInt8) :
    (a.doUpdate timeMax epic data).category = a.category := by
  have hstatus : forall (b : AuctionSimpleData) status time,
      (b.setStatus status time).category = b.category := by
    intro b status time
    rw [setStatus]
    split <;> rfl
  have hparsed : (a.parseData epic data).2.category = a.category := by
    rw [parseData]
    split <;> rfl
  simp only [doUpdate]
  split
  · rw [hstatus, hparsed]
  · split
    · rw [hstatus, hparsed]
    · exact hparsed

theorem create_fields (memory uid : UInt32) (timeMin timeMax : UInt64)
    (category : UInt16) (epic : UInt32) (data : List UInt8) :
    (create memory uid timeMin timeMax category epic data).processStatus =
        ProcessStatus.added ∧
      (create memory uid timeMin timeMax category epic data).rawData = data ∧
      (create memory uid timeMin timeMax category epic data).category =
        category ∧
      (create memory uid timeMin timeMax category epic data).timeMax =
        timeMax ∧
      (data ≠ [] ->
        (create memory uid timeMin timeMax category epic data).rawDataEpic =
          epic) := by
  rw [create, parseData]
  split
  · rename_i hdata
    exact ⟨rfl, hdata.symm, rfl, rfl, fun h => absurd hdata h⟩
  · exact ⟨rfl, rfl, rfl, rfl, fun _ => rfl⟩

theorem endProcess_processed
    (h : a.processStatus ≠ ProcessStatus.notProcessed)
    (categoryEndTime : UInt64) : a.endProcess categoryEndTime = a :=
  if_neg h

theorem endProcess_notProcessed
    (h : a.processStatus = ProcessStatus.notProcessed)
    (categoryEndTime : UInt64) :
    a.endProcess categoryEndTime =
      { a with
        timeMax := categoryEndTime
        processStatus := ProcessStatus.deleted } := by
  rw [endProcess, if_pos h, setStatus, if_pos (Or.inr (by decide))]

end AuctionSimpleData

namespace AuctionSimpleDiffWriter

variable {w : AuctionSimpleDiffWriter} {uid : UInt32}

/-- The auctions that are left when a round has begun. -/
def live (w : AuctionSimpleDiffWriter) (uid : UInt32) :
    Option AuctionSimpleData :=
  (w.getAuction uid).filter fun a => !a.isInFinalState

theorem foldl_category_getAuction (w : AuctionSimpleDiffWriter)
    (calls : List CategoryCall) (uid : UInt32) :
    (calls.foldl category w).getAuction uid = w.getAuction uid := by
  induction calls generalizing w with
  | nil => rfl
  | cons first rest ih => exact ih (w.category first)

theorem addAuctionInfo_getAuction (memory : Memory)
    (w : AuctionSimpleDiffWriter) (s : SimpleSighting) :
    exists timeMin, (w.addAuctionInfo memory s).getAuction s.uid =
      some (match w.getAuction s.uid with
        | some a => a.doUpdate s.time s.epic s.data
        | none => AuctionSimpleData.create (memory s.uid) s.uid timeMin s.time
            s.category s.epic s.data) := by
  refine ⟨(w.categoryTimeManager.getEstimatedPreviousCategoryBeginTime
    s.category.toNat).toUInt64, ?_⟩
  rw [addAuctionInfo]
  cases hfound : w.getAuction s.uid with
  | some a =>
      change (w.modifyAuction _ _).getAuction _ = _
      rw [AuctionGenericWriter.getAuction_modifyAuction, if_pos rfl, hfound]
      rfl
  | none =>
      change (w.addAuction _).getAuction _ = _
      have huid : IAuctionData.getUid (AuctionSimpleData.create (memory s.uid)
          s.uid (w.categoryTimeManager.getEstimatedPreviousCategoryBeginTime
            s.category.toNat).toUInt64 s.time s.category s.epic s.data) =
          s.uid := AuctionSimpleData.create_uid _ _ _ _ _ _ _
      rw [AuctionGenericWriter.getAuction_addAuction, hfound, if_pos huid]
      rfl

theorem call_getAuction_ne (memory : Memory) (w : AuctionSimpleDiffWriter)
    (c : Call SimpleSighting)
    (hne : forall s, c = Call.addAuctionInfo s -> s.uid ≠ uid) :
    (w.call memory c).getAuction uid = w.getAuction uid := by
  cases c with
  | category call => rfl
  | addAuctionInfo s =>
      have hs := hne s rfl
      change (w.addAuctionInfo memory s).getAuction uid = _
      rw [addAuctionInfo]
      cases hfound : w.getAuction s.uid with
      | some a =>
          change (w.modifyAuction _ _).getAuction _ = _
          rw [AuctionGenericWriter.getAuction_modifyAuction,
            if_neg (Ne.symm hs)]
      | none =>
          change (w.addAuction _).getAuction _ = _
          have huid : ¬IAuctionData.getUid (AuctionSimpleData.create
              (memory s.uid) s.uid
              (w.categoryTimeManager.getEstimatedPreviousCategoryBeginTime
                s.category.toNat).toUInt64 s.time s.category s.epic s.data) =
              uid := by
            change ¬(AuctionSimpleData.create _ _ _ _ _ _ _).uid = uid
            rw [AuctionSimpleData.create_uid]
            exact hs
          rw [AuctionGenericWriter.getAuction_addAuction, if_neg huid,
            Option.or_none]

theorem begun_getAuction (w : AuctionSimpleDiffWriter)
    (calls : List CategoryCall) (uid : UInt32) :
    (beginProcess (calls.foldl category w)).getAuction uid =
      (w.live uid).map AuctionSimpleData.beginProcess := by
  rw [beginProcess, AuctionGenericWriter.getAuction_beginProcess,
    foldl_category_getAuction]
  rfl

theorem endProcess_getAuction (w : AuctionSimpleDiffWriter) (uid : UInt32) :
    exists categoryEndTime : AuctionSimpleData -> UInt64,
      w.endProcess.getAuction uid = (w.getAuction uid).map fun a =>
        a.endProcess (categoryEndTime a) := by
  refine ⟨fun a => ((w.auctions.elements.foldl (fun m auction =>
    m.reserve auction.category.toNat)
      w.categoryTimeManager).getEstimatedCategoryEndTime
        a.category.toNat).toUInt64, ?_⟩
  exact AuctionGenericWriter.getAuction_endProcess _ _ _

theorem round_unseen (memory : Memory) {r : Round SimpleSighting}
    (hline : r.infos.find? (fun s => s.uid = uid) = none) :
    (w.live uid = none ∧ (w.round memory r).getAuction uid = none) ∨
      exists a b, w.live uid = some a ∧
        (w.round memory r).getAuction uid = some b ∧
        b.processStatus = AuctionSimpleData.ProcessStatus.deleted ∧
        b.category = a.category := by
  have hcalls : (r.calls.foldl (call memory)
      (beginProcess (r.before.foldl category w))).getAuction uid =
        (w.live uid).map AuctionSimpleData.beginProcess := by
    rw [← begun_getAuction]
    refine foldl_unmentioned (fun w => AuctionGenericWriter.getAuction w uid)
      (fun w c hne => call_getAuction_ne memory w c hne) ?_ _
    intro s hs
    simpa using List.find?_eq_none.mp hline s (Round.mem_infos.mpr hs)
  rcases endProcess_getAuction (r.calls.foldl (call memory)
    (beginProcess (r.before.foldl category w))) uid with
    ⟨categoryEndTime, hend⟩
  rw [hcalls] at hend
  cases hlive : w.live uid with
  | none =>
      rw [hlive] at hend
      exact Or.inl ⟨rfl, hend⟩
  | some a =>
      rw [hlive] at hend
      have hfinal := (Option.filter_eq_some_iff.mp hlive).right
      have hbegin := AuctionSimpleData.beginProcess_live (a := a)
        (by simpa using hfinal)
      have hstatus : a.beginProcess.processStatus =
          AuctionSimpleData.ProcessStatus.notProcessed := by rw [hbegin]
      refine Or.inr ⟨a, a.beginProcess.endProcess
        (categoryEndTime a.beginProcess), rfl, hend, ?_, ?_⟩
      · rw [AuctionSimpleData.endProcess_notProcessed hstatus]
      · rw [AuctionSimpleData.endProcess_notProcessed hstatus, hbegin]

theorem round_seen (memory : Memory) {r : Round SimpleSighting}
    (hnodup : (r.infos.map SimpleSighting.uid).Nodup) {s : SimpleSighting}
    (hline : r.infos.find? (fun s => s.uid = uid) = some s) :
    exists timeMin, (w.round memory r).getAuction uid =
      some (match w.live uid with
        | some a => a.beginProcess.doUpdate s.time s.epic s.data
        | none => AuctionSimpleData.create (memory s.uid) s.uid timeMin s.time
            s.category s.epic s.data) := by
  have huid : s.uid = uid := by simpa using List.find?_some hline
  have hmem := Round.mem_infos.mp (List.mem_of_find?_eq_some hline)
  rcases foldl_mentioned (fun w => AuctionGenericWriter.getAuction w uid)
    (fun w c hne => call_getAuction_ne memory w c hne) hmem huid hnodup
    (beginProcess (r.before.foldl category w)) with ⟨before, hsame, hcalls⟩
  rcases addAuctionInfo_getAuction memory (before.foldl (call memory)
    (beginProcess (r.before.foldl category w))) s with ⟨timeMin, hadd⟩
  rw [huid] at hadd
  rw [begun_getAuction] at hsame
  rw [hsame] at hadd
  rcases endProcess_getAuction (r.calls.foldl (call memory)
    (beginProcess (r.before.foldl category w))) uid with
    ⟨categoryEndTime, hend⟩
  refine ⟨timeMin, ?_⟩
  change (endProcess _).getAuction uid = _
  rw [hend, hcalls]
  change Option.map _ ((addAuctionInfo memory _ s).getAuction uid) = _
  rw [hadd, Option.map_some]
  cases hlive : w.live uid with
  | none =>
      have hfields := AuctionSimpleData.create_fields (memory uid) s.uid
        timeMin s.time s.category s.epic s.data
      rw [huid] at hfields
      dsimp only [Option.map_none]
      rw [AuctionSimpleData.endProcess_processed]
      · rw [huid]
      · rw [hfields.left]
        exact fun h => by cases h
  | some a =>
      have hfinal := (Option.filter_eq_some_iff.mp hlive).right
      have hbegin := AuctionSimpleData.beginProcess_live (a := a)
        (by simpa using hfinal)
      have hstatus : a.beginProcess.processStatus =
          AuctionSimpleData.ProcessStatus.notProcessed := by rw [hbegin]
      dsimp only [Option.map_some]
      rw [AuctionSimpleData.endProcess_processed]
      by_cases hchanged : s.data ≠ [] ∧ a.beginProcess.rawData ≠ s.data
      · rw [AuctionSimpleData.doUpdate_changed hstatus hchanged.left
          hchanged.right]
        exact fun h => by cases h
      · have hunchanged : s.data = [] ∨ a.beginProcess.rawData = s.data := by
          by_contra hneither
          exact hchanged ⟨fun h => hneither (Or.inl h),
            fun h => hneither (Or.inr h)⟩
        rw [(AuctionSimpleData.doUpdate_unchanged hstatus hunchanged _
          _).left]
        exact fun h => by cases h

theorem exportDump_find? (w : AuctionSimpleDiffWriter) (uid : UInt32) :
    (w.exportDump false).auctions.find? (fun info => info.uid = uid) =
      ((w.getAuction uid).filter
        AuctionSimpleData.outputInPartialDump).map
          AuctionSimpleData.serialize := by
  have hfilter := FlatMap.find?_filter w.auctions
    AuctionSimpleData.outputInPartialDump uid.toNat
  rw [AuctionGenericWriter.getAuction, ← hfilter]
  change ((w.auctions.elements.filter _).map _).find? _ = _
  rw [List.find?_map]
  congr 1
  rw [FlatMap.find?]
  congr 1
  funext a
  change decide (a.uid = uid) = decide (a.uid.toNat = uid.toNat)
  simp only [UInt32.toNat_inj]

theorem exportDump_nodup (w : AuctionSimpleDiffWriter) (doFullDump : Bool) :
    ((w.exportDump doFullDump).auctions.map AuctionSimpleInfo.uid).Nodup := by
  change (((w.auctions.elements.filter _).map _).map _).Nodup
  rw [List.map_map]
  refine List.pairwise_map.mpr ((w.auctions.sorted.filter _).imp ?_)
  intro a b hlt heq
  have huid : a.uid = b.uid := heq
  have hlt' : a.uid.toNat < b.uid.toNat := hlt
  rw [huid] at hlt'
  exact Nat.lt_irrefl _ hlt'

end AuctionSimpleDiffWriter

/-!
## Both pipelines
-/

/-- An auction in the result of a search. -/
structure Visible extends SimpleSighting where
  previousTime : Int64

/-- Full mode is told that the auction is there. -/
def Visible.toBase (v : Visible) : AuctionSimpleInfo where
  uid := v.uid
  time := v.time.toInt64
  previousTime := v.previousTime
  diffType := DiffType.base.toUInt16
  category := v.category
  epic := v.epic
  data := v.data

def Call.map {Info Info' : Type} (f : Info -> Info') :
    Call Info -> Call Info'
  | category c => category c
  | addAuctionInfo info => addAuctionInfo (f info)

def Round.map {Info Info' : Type} (f : Info -> Info') (r : Round Info) :
    Round Info' :=
  ⟨r.before, r.calls.map (Call.map f)⟩

theorem Round.infos_map {Info Info' : Type} (f : Info -> Info')
    (r : Round Info) : (r.map f).infos = r.infos.map f := by
  rw [Round.infos, Round.map, Round.infos]
  induction r.calls with
  | nil => rfl
  | cons first rest ih =>
      cases first with
      | category call => exact ih
      | addAuctionInfo info => exact congrArg (f info :: ·) ih

/--
A round of searches, what the memory of new auctions holds, and the times of
the categories that the reader of the partial dump is given.
-/
structure Observation where
  memory : Memory
  round : Round Visible
  times : List CategoryCall

structure Pipelines where
  full : AuctionComplexDiffWriter
  simple : AuctionSimpleDiffWriter
  diff : AuctionComplexDiffWriter

namespace Pipelines

def create (categoryCount : Nat) : Pipelines where
  full := AuctionComplexDiffWriter.create categoryCount
  simple := AuctionSimpleDiffWriter.create categoryCount
  diff := (AuctionComplexDiffWriter.create categoryCount).setDiffInputMode true

def step (p : Pipelines) (o : Observation) : Pipelines :=
  let simple := p.simple.round o.memory (o.round.map Visible.toSimpleSighting)
  { full := p.full.round (o.round.map Visible.toBase)
    simple := simple
    diff := p.diff.round ⟨o.times,
      (simple.exportDump false).auctions.map Call.addAuctionInfo⟩ }

def run (categoryCount : Nat) (observations : List Observation) : Pipelines :=
  observations.foldl step (create categoryCount)

end Pipelines

/--
An auction is seen at most once in a round, in a category that is there, and
with an epic of its own that is not corrected.
-/
structure Observation.Valid (epicOf : UInt32 -> UInt32) (categoryCount : Nat)
    (o : Observation) : Prop where
  nodup : (o.round.infos.map fun v => v.uid).Nodup
  category : forall v, v ∈ o.round.infos -> v.category.toNat < categoryCount
  epic : forall v, v ∈ o.round.infos -> v.epic = epicOf v.uid
  corrected : forall v, v ∈ o.round.infos ->
    AuctionComplexDiffWriter.parseEpic v.epic v.time.toInt64 = v.epic

/-- No auction, or one that counts as deleted. -/
def Gone (f : Option Facts) : Prop := forall g, f = some g -> g.deleted = true

def Read (epic : UInt32) (f : Option Facts) (data : List UInt8) : Prop :=
  exists g, f = some g ∧ g.present = g ∧ g.parse epic data = g

/-- What the simple writer and a complex writer hold of one auction. -/
def Coupled (epic : UInt32) (f : Option Facts) (s : Option AuctionSimpleData) :
    Prop :=
  match s with
  | none => Gone f
  | some s => Read epic f s.rawData

theorem gone_age {f : Option Facts} : Gone (f.map Facts.age) := by
  intro g hg
  rcases Option.map_eq_some_iff.mp hg with ⟨old, -, heq⟩
  rw [← heq]
  rfl

theorem gone_live {f : Option Facts} (h : Gone f) : Gone (Facts.live f) := by
  intro g hg
  exact h g (Option.filter_eq_some_iff.mp hg).left

theorem read_present (epic : UInt32) (data : List UInt8) (f : Facts) :
    Read epic (some (f.parse epic data).present) data :=
  ⟨_, rfl, rfl, Facts.parse_present_parse⟩

theorem live_of_read {epic : UInt32} {f : Option Facts} {data : List UInt8}
    (h : Read epic f data) : Facts.live f = f := by
  rcases h with ⟨g, hg, hpresent, -⟩
  have hfinal : g.final = false := by rw [← hpresent]; rfl
  rw [hg, Facts.live, Option.filter_some, hfinal]
  rfl

theorem unmentioned_of_gone {f : Option Facts} (h : Gone f) :
    f.map (Facts.unmentioned true) = f.map (Facts.unmentioned false) := by
  cases f with
  | none => rfl
  | some g =>
      have hdeleted := h g rfl
      rw [Option.map_some, Option.map_some, Facts.unmentioned,
        Facts.unmentioned, hdeleted]
      rfl

theorem infos_addAuctionInfo {Info : Type} (times : List CategoryCall)
    (infos : List Info) :
    (Round.mk times (infos.map Call.addAuctionInfo)).infos = infos := by
  rw [Round.infos]
  induction infos with
  | nil => rfl
  | cons first rest ih => exact congrArg (first :: ·) ih

theorem find?_infos_map {Info Info' : Type} {f : Info -> Info'}
    (uidOf : Info -> UInt32) (uidOf' : Info' -> UInt32)
    (hf : forall info, uidOf' (f info) = uidOf info) (r : Round Info)
    (uid : UInt32) :
    (r.map f).infos.find? (fun info => uidOf' info = uid) =
      (r.infos.find? fun info => uidOf info = uid).map f := by
  rw [Round.infos_map, List.find?_map]
  congr 2
  funext info
  simp only [Function.comp, hf]

namespace Pipelines

/-- The two complex writers hold the same, and the simple one as much. -/
structure Agree (epicOf : UInt32 -> UInt32) (categoryCount : Nat)
    (p : Pipelines) : Prop where
  fullMode : p.full.diffMode = false
  diffMode : p.diff.diffMode = true
  fullNumber : categoryCount ≤ p.full.number
  diffNumber : categoryCount ≤ p.diff.number
  category : p.simple.Each fun s => s.category.toNat < categoryCount
  facts : forall uid, p.diff.facts uid = p.full.facts uid
  coupled : forall uid,
    Coupled (epicOf uid) (p.full.facts uid) (p.simple.live uid)

variable {epicOf : UInt32 -> UInt32} {categoryCount : Nat} {p : Pipelines}
  {o : Observation}

theorem agree_create : (create categoryCount).Agree epicOf categoryCount where
  fullMode := rfl
  diffMode := rfl
  fullNumber := Nat.le_of_eq List.length_replicate.symm
  diffNumber := Nat.le_of_eq List.length_replicate.symm
  category := AuctionGenericWriter.Each.create categoryCount _
  facts _ := rfl
  coupled _ := fun _ hg => by cases hg

theorem simple_nodup (ho : o.Valid epicOf categoryCount) :
    ((o.round.map Visible.toSimpleSighting).infos.map
      SimpleSighting.uid).Nodup := by
  rw [Round.infos_map, List.map_map]
  exact ho.nodup

/-- Auctions keep the category in which they were first seen. -/
theorem step_category (h : p.Agree epicOf categoryCount)
    (ho : o.Valid epicOf categoryCount) :
    (p.step o).simple.Each fun s => s.category.toNat < categoryCount := by
  intro b hb
  have hfound := AuctionGenericWriter.mem_iff_getAuction.mp hb
  change (p.simple.round o.memory _).getAuction b.uid = some b at hfound
  have hlive : forall a, p.simple.live b.uid = some a ->
      a.category.toNat < categoryCount := by
    intro a ha
    exact h.category.found (Option.filter_eq_some_iff.mp ha).left
  cases hline : (o.round.map Visible.toSimpleSighting).infos.find?
      fun s => s.uid = b.uid with
  | none =>
      rcases AuctionSimpleDiffWriter.round_unseen o.memory hline with
        ⟨-, hnone⟩ | ⟨a, b', ha, hb', -, hcategory⟩
      · rw [hnone] at hfound
        cases hfound
      · rw [hb'] at hfound
        cases hfound
        rw [hcategory]
        exact hlive a ha
  | some s =>
      rcases AuctionSimpleDiffWriter.round_seen o.memory (simple_nodup ho)
        hline with ⟨timeMin, hseen⟩
      rw [hseen] at hfound
      have hs : s.category.toNat < categoryCount := by
        have hmem := List.mem_of_find?_eq_some hline
        rw [Round.infos_map] at hmem
        rcases List.mem_map.mp hmem with ⟨v, hv, heq⟩
        rw [← heq]
        exact ho.category v hv
      cases ha : p.simple.live b.uid with
      | none =>
          rw [ha] at hfound
          cases hfound
          rw [(AuctionSimpleData.create_fields _ _ _ _ _ _ _).right.right.left]
          exact hs
      | some a =>
          rw [ha] at hfound
          cases hfound
          have hfinal := (Option.filter_eq_some_iff.mp ha).right
          have hbegin := AuctionSimpleData.beginProcess_live (a := a)
            (by simpa using hfinal)
          rw [AuctionSimpleData.doUpdate_category, hbegin]
          exact hlive a ha

theorem parse_line {v : Visible} (hv : v ∈ o.round.infos)
    (ho : o.Valid epicOf categoryCount) {epic : UInt32}
    (hepic : v.data ≠ [] -> epic = v.epic) (f : Facts) :
    f.parse (AuctionComplexDiffWriter.parseEpic epic v.time.toInt64) v.data =
      f.parse (epicOf v.uid) v.data := by
  by_cases hdata : v.data = []
  · rw [hdata, Facts.parse_nil, Facts.parse_nil]
  · rw [hepic hdata, ho.corrected v hv, ho.epic v hv]

theorem process_line {v : Visible} (hv : v ∈ o.round.infos)
    (ho : o.Valid epicOf categoryCount) {b : AuctionSimpleData}
    (hstatus : b.processStatus = AuctionSimpleData.ProcessStatus.added ∨
      b.processStatus = AuctionSimpleData.ProcessStatus.updated)
    (hdata : b.rawData = v.data) (htime : b.timeMax = v.time)
    (hepic : v.data ≠ [] -> b.rawDataEpic = v.epic) (f : Option Facts) :
    Facts.process true f (((some b).filter
        AuctionSimpleData.outputInPartialDump).map
          AuctionSimpleData.serialize) =
      some ((f.getD Facts.initial).parse (epicOf v.uid) v.data).present := by
  have houtput : b.outputInPartialDump = true := by
    rw [AuctionSimpleData.outputInPartialDump,
      AuctionSimpleData.getAuctionDiffType]
    rcases hstatus with heq | heq
    · rw [heq]
      rfl
    · rw [heq]
      rfl
  rw [Option.filter_some, if_pos houtput, Option.map_some, ← parse_line hv ho
    hepic, ← hdata, ← htime]
  have hdiffType : b.serialize.diffType =
      b.getAuctionDiffType.toUInt16 := rfl
  rw [Facts.process, hdiffType, DiffType.ofUInt16?_toUInt16,
    AuctionSimpleData.getAuctionDiffType]
  rcases hstatus with heq | heq
  · rw [heq]
    rfl
  · rw [heq]
    rfl

theorem live_round_of_status {w : AuctionSimpleDiffWriter} {uid : UInt32}
    {b : AuctionSimpleData} (hfound : w.getAuction uid = some b)
    (hstatus : b.processStatus ≠ AuctionSimpleData.ProcessStatus.deleted) :
    w.live uid = some b := by
  rw [AuctionSimpleDiffWriter.live, hfound, Option.filter_some, if_pos]
  simpa [AuctionSimpleData.isInFinalState] using hstatus

theorem step_uid (h : p.Agree epicOf categoryCount)
    (ho : o.Valid epicOf categoryCount) (uid : UInt32) :
    (p.step o).diff.facts uid = (p.step o).full.facts uid ∧
      Coupled (epicOf uid) ((p.step o).full.facts uid)
        ((p.step o).simple.live uid) := by
  have hfull : (p.step o).full.facts uid = Facts.process false
      (Facts.live (p.full.facts uid))
      ((o.round.infos.find? fun v => v.uid = uid).map Visible.toBase) := by
    have hround := AuctionComplexDiffWriter.facts_round p.full
      (r := o.round.map Visible.toBase) (by
        rw [Round.infos_map, List.map_map]
        exact ho.nodup) (by
        intro info hinfo
        rw [Round.infos_map] at hinfo
        rcases List.mem_map.mp hinfo with ⟨v, hv, heq⟩
        rw [← heq]
        exact Nat.lt_of_lt_of_le (ho.category v hv) h.fullNumber) uid
    rw [h.fullMode, find?_infos_map (fun v => v.uid)
      AuctionSimpleInfo.uid (fun _ => rfl)] at hround
    exact hround
  have hdiff : (p.step o).diff.facts uid = Facts.process true
      (Facts.live (p.full.facts uid))
      ((((p.step o).simple.getAuction uid).filter
        AuctionSimpleData.outputInPartialDump).map
          AuctionSimpleData.serialize) := by
    have hround := AuctionComplexDiffWriter.facts_round p.diff
      (r := ⟨o.times, ((p.step o).simple.exportDump false).auctions.map
        Call.addAuctionInfo⟩) (by
        rw [infos_addAuctionInfo]
        exact AuctionSimpleDiffWriter.exportDump_nodup _ _) (by
        intro info hinfo
        rw [infos_addAuctionInfo] at hinfo
        rcases List.mem_map.mp hinfo with ⟨b, hb, heq⟩
        rw [← heq]
        exact Nat.lt_of_lt_of_le (step_category h ho b
          (List.mem_filter.mp hb).left) h.diffNumber) uid
    rw [h.diffMode, infos_addAuctionInfo,
      AuctionSimpleDiffWriter.exportDump_find?, h.facts uid] at hround
    exact hround
  have hcoupled := h.coupled uid
  rw [hfull, hdiff]
  have hsimple : (p.step o).simple = p.simple.round o.memory
      (o.round.map Visible.toSimpleSighting) := rfl
  have hsline := find?_infos_map (fun v : Visible => v.uid) SimpleSighting.uid
    (f := Visible.toSimpleSighting) (fun _ => rfl) o.round uid
  generalize p.full.facts uid = f at hcoupled
  cases hline : o.round.infos.find? fun v => v.uid = uid with
  | none =>
      rw [hline] at hsline
      rcases AuctionSimpleDiffWriter.round_unseen o.memory hsline with
        ⟨hlive, hfound⟩ | ⟨a, b, hlive, hfound, hdeleted, -⟩
      · rw [hlive] at hcoupled
        rw [hsimple, AuctionSimpleDiffWriter.live, hfound]
        exact ⟨unmentioned_of_gone (gone_live hcoupled), gone_age⟩
      · rw [hsimple, AuctionSimpleDiffWriter.live, hfound]
        have hfinal : (!b.isInFinalState) = false := by
          simp [AuctionSimpleData.isInFinalState, hdeleted]
        have houtput : b.outputInPartialDump = true := by
          simp [AuctionSimpleData.outputInPartialDump,
            AuctionSimpleData.getAuctionDiffType, hdeleted]
        have hdiffType : b.serialize.diffType =
            DiffType.deleted.toUInt16 := by
          simp [AuctionSimpleData.serialize,
            AuctionSimpleData.getAuctionDiffType, hdeleted]
        rw [Option.filter_some, if_pos houtput, Option.filter_some, hfinal]
        constructor
        · rw [Option.map_some, Facts.process, hdiffType,
            DiffType.ofUInt16?_toUInt16]
          rfl
        · exact gone_age
  | some v =>
      have hv := List.mem_of_find?_eq_some hline
      have huid : v.uid = uid := by simpa using List.find?_some hline
      rw [hline] at hsline
      rcases AuctionSimpleDiffWriter.round_seen o.memory (simple_nodup ho)
        hsline with ⟨timeMin, hfound⟩
      have hseen : Facts.process false (Facts.live f)
          ((some v).map Visible.toBase) =
          some (((Facts.live f).getD Facts.initial).parse (epicOf v.uid)
            v.data).present := by
        have hepic : v.data ≠ [] -> v.epic = v.epic := fun _ => rfl
        rw [← parse_line hv ho hepic]
        rfl
      rw [hseen]
      cases hlive : p.simple.live uid with
      | none =>
          rw [hlive] at hcoupled hfound
          rcases AuctionSimpleData.create_fields (o.memory v.uid) v.uid timeMin
            v.time v.category v.epic v.data with
            ⟨hstatus, hdata, -, htime, hepic⟩
          have hlive' := live_round_of_status hfound (by
            intro hdeleted
            rw [hstatus] at hdeleted
            cases hdeleted)
          rw [hsimple, hlive', hfound, process_line hv ho (Or.inl hstatus)
            hdata htime hepic]
          refine ⟨rfl, ?_⟩
          rw [Coupled, hdata, huid]
          exact read_present _ _ _
      | some a =>
          rw [hlive] at hcoupled hfound
          have hfinal := (Option.filter_eq_some_iff.mp hlive).right
          have hbegin := AuctionSimpleData.beginProcess_live (a := a)
            (by simpa using hfinal)
          have hstatus : a.beginProcess.processStatus =
              AuctionSimpleData.ProcessStatus.notProcessed := by rw [hbegin]
          have hraw : a.beginProcess.rawData = a.rawData := by rw [hbegin]
          by_cases hchanged : v.data ≠ [] ∧ a.beginProcess.rawData ≠ v.data
          · have hupdate := AuctionSimpleData.doUpdate_changed hstatus
              hchanged.left hchanged.right v.time v.epic
            dsimp only at hfound
            rw [hupdate] at hfound
            have hlive' := live_round_of_status hfound (by
              intro hdeleted
              cases hdeleted)
            rw [hsimple, hlive', hfound, process_line hv ho (Or.inr rfl)
              rfl rfl (fun _ => rfl)]
            refine ⟨rfl, ?_⟩
            rw [Coupled, huid]
            exact read_present _ _ _
          · have hunchanged : v.data = [] ∨ a.beginProcess.rawData = v.data := by
              by_contra hneither
              exact hchanged ⟨fun h => hneither (Or.inl h),
                fun h => hneither (Or.inr h)⟩
            rcases AuctionSimpleData.doUpdate_unchanged hstatus hunchanged
              v.time v.epic with ⟨hunmodified, hkept⟩
            have hlive' := live_round_of_status hfound (by
              intro hdeleted
              rw [hunmodified] at hdeleted
              cases hdeleted)
            rcases hcoupled with ⟨g, hg, hpresent, hparse⟩
            have hsame : g.parse (epicOf v.uid) v.data = g := by
              rcases hunchanged with hdata | hdata
              · rw [hdata, Facts.parse_nil]
              · rw [← hdata, hraw, huid, hparse]
            have hmentioned : (a.beginProcess.doUpdate v.time v.epic
                v.data).outputInPartialDump = false := by
              simp [AuctionSimpleData.outputInPartialDump,
                AuctionSimpleData.getAuctionDiffType, hunmodified]
            have hpresent' : g.deleted = false := by rw [← hpresent]; rfl
            rw [hsimple, hlive', hfound, live_of_read ⟨g, hg, hpresent, hparse⟩,
              hg]
            dsimp only
            rw [Option.filter_some, hmentioned, Option.getD_some, hsame,
              hpresent]
            constructor
            · change some (Facts.unmentioned true g) = some g
              rw [Facts.unmentioned, hpresent']
              exact congrArg some hpresent
            · rw [Coupled, hkept, hraw]
              exact ⟨g, rfl, hpresent, hparse⟩

theorem step_agree (h : p.Agree epicOf categoryCount)
    (ho : o.Valid epicOf categoryCount) :
    (p.step o).Agree epicOf categoryCount where
  fullMode := (p.full.round_diffMode _).trans h.fullMode
  diffMode := (p.diff.round_diffMode _).trans h.diffMode
  fullNumber := Nat.le_trans h.fullNumber (p.full.round_number _)
  diffNumber := Nat.le_trans h.diffNumber (p.diff.round_number _)
  category := step_category h ho
  facts uid := (step_uid h ho uid).left
  coupled uid := (step_uid h ho uid).right

end Pipelines

/--
After any rounds the writer in full mode and the one in diff mode hold the same
auctions, with the same facts about each.
-/
theorem modes_agree {epicOf : UInt32 -> UInt32} {categoryCount : Nat}
    {observations : List Observation}
    (hvalid : forall o, o ∈ observations -> o.Valid epicOf categoryCount)
    (uid : UInt32) :
    (Pipelines.run categoryCount observations).diff.facts uid =
      (Pipelines.run categoryCount observations).full.facts uid := by
  have hagree : forall (os : List Observation) (p : Pipelines),
      p.Agree epicOf categoryCount ->
      (forall o, o ∈ os -> o.Valid epicOf categoryCount) ->
      (os.foldl Pipelines.step p).Agree epicOf categoryCount := by
    intro os
    induction os with
    | nil => exact fun p hp _ => hp
    | cons first rest ih =>
        intro p hp hos
        exact ih _ (Pipelines.step_agree hp (hos first List.mem_cons_self))
          fun o ho => hos o (List.mem_cons_of_mem _ ho)
  exact (hagree observations _ Pipelines.agree_create hvalid).facts uid

/-- Three searches, in which an auction is found, missed and found again. -/
def observations : List Observation :=
  let sighting : SimpleSighting := ⟨7, 100, 0, 0x090700, [1, 2, 3]⟩
  let found : Round Visible := ⟨[], [Call.addAuctionInfo ⟨sighting, 0⟩]⟩
  [⟨fun _ => 0, found, []⟩, ⟨fun _ => 0, ⟨[], []⟩, []⟩, ⟨fun _ => 0, found, []⟩]

theorem modes_agree_found_again :
    (Pipelines.run 1 observations).diff.facts 7 =
      (Pipelines.run 1 observations).full.facts 7 := by
  have hvalid : forall o, o ∈ observations ->
      o.Valid (fun _ => 0x090700) 1 := by
    intro o ho
    simp only [observations, List.mem_cons, List.not_mem_nil, or_false] at ho
    rcases ho with heq | heq | heq
    · rw [heq]
      constructor <;> decide
    · rw [heq]
      constructor <;> decide
    · rw [heq]
      constructor <;> decide
  exact modes_agree hvalid 7

end Auction
end Rzu
