import Rzu.Auction.AuctionWriter
import Rzu.Auction.ComplexDiffWriter
import Rzu.Packet.ReadKeeps

/-!
# Values that the complex writer has

Whatever a complex writer has been through, its auctions can be written: the
name of a seller fits its field, and only what is deleted is counted.
-/

namespace Rzu
namespace Auction

open Library Packet

namespace AuctionComplexData

structure Writable (a : AuctionComplexData) : Prop where
  seller : a.seller.length ≤ 30
  terminated : 0 ∉ a.seller
  deletedCount : a.deleted = false -> a.deletedCount = 0

variable {a b : AuctionComplexData}

theorem Writable.of_same (h : a.Writable) (hseller : b.seller = a.seller)
    (hdeleted : b.deleted = a.deleted)
    (hcount : b.deletedCount = a.deletedCount) : b.Writable where
  seller := by
    rw [hseller]
    exact h.seller
  terminated := by
    rw [hseller]
    exact h.terminated
  deletedCount := by
    rw [hdeleted, hcount]
    exact h.deletedCount

theorem Writable.parseData (h : a.Writable) (epic : UInt32)
    (data : List UInt8) : (a.parseData epic data).2.Writable := by
  rw [AuctionComplexData.parseData]
  split
  · exact h
  · split
    · constructor
      · exact Nat.le_trans (List.takeWhile_prefix _).length_le
          (List.length_take_le _ _)
      · exact terminated_takeWhile _
      · exact h.deletedCount
    · exact h.of_same rfl rfl rfl

theorem Writable.postParseData (h : a.Writable) (newData : Bool) :
    (a.postParseData newData).Writable := by
  simp only [AuctionComplexData.postParseData]
  split
  · split
    · exact h.of_same rfl rfl rfl
    · split
      · exact h.of_same rfl rfl rfl
      · exact h
  · exact h

theorem create_writable (uid : UInt32) (timeMin timeMax : UInt64)
    (category : UInt16) (epic : UInt32) (data : List UInt8) :
    (create uid timeMin timeMax category epic data).Writable := by
  apply Writable.postParseData
  apply Writable.parseData
  constructor
  · exact Nat.zero_le _
  · exact List.not_mem_nil
  · exact fun _ => rfl

theorem Writable.setStatus (h : a.Writable) (status : ProcessStatus)
    (time : UInt64) : (a.setStatus status time).Writable := by
  rw [AuctionComplexData.setStatus]
  split
  · exact ⟨h.seller, h.terminated, fun hdeleted => by cases hdeleted⟩
  · split
    · exact ⟨h.seller, h.terminated, fun _ => rfl⟩
    · exact h.of_same rfl rfl rfl

theorem Writable.update (h : a.Writable) (time : UInt64) (epic : UInt32)
    (data : List UInt8) : (a.update time epic data).Writable := by
  have hparsed := h.parseData epic data
  simp only [AuctionComplexData.update]
  generalize (a.parseData epic data).2 = parsed at hparsed
  have hpost : forall b : AuctionComplexData, b.Writable ->
      (if (a.parseData epic data).1 then b.postParseData false
        else b).Writable := by
    intro b hb
    split
    · exact hb.postParseData _
    · exact hb
  apply hpost
  split
  · exact hparsed.setStatus _ _
  · split
    · exact hparsed.setStatus _ _
    · exact hparsed

theorem Writable.remove (h : a.Writable) (time : UInt64) :
    (a.remove time).Writable := by
  rw [AuctionComplexData.remove]
  split
  · exact h.setStatus _ _
  · exact h

theorem Writable.unmodified (h : a.Writable) (time : UInt64) :
    (a.unmodified time).Writable := by
  rw [AuctionComplexData.unmodified]
  split
  · exact h.setStatus _ _
  · exact h

theorem Writable.maybeStillDeleted (h : a.Writable) :
    a.maybeStillDeleted.Writable := by
  rw [AuctionComplexData.maybeStillDeleted]
  split
  · rename_i hdeleted
    have hcounted :
        { a with deletedCount := a.deletedCount + 1 }.Writable := by
      refine ⟨h.seller, h.terminated, fun hlive => ?_⟩
      exact Bool.noConfusion (hdeleted.symm.trans hlive)
    simp only
    split
    · exact hcounted.setStatus _ _
    · split
      · exact hcounted.setStatus _ _
      · exact hcounted
  · exact h

theorem Writable.beginProcess (h : a.Writable) :
    a.beginProcess.Writable := by
  rw [AuctionComplexData.beginProcess]
  split
  · exact h
  · exact h.of_same rfl rfl rfl

theorem Writable.endProcess (h : a.Writable)
    (categoryBeginTime categoryEndTime : UInt64) (diffMode : Bool) :
    (a.endProcess categoryBeginTime categoryEndTime diffMode).Writable := by
  apply Writable.maybeStillDeleted
  split
  · split
    · exact h.remove _
    · split
      · exact h.unmodified _
      · exact h
  · exact h

theorem createFromDump_writable {info : AuctionInfo}
    (hseller : info.seller.length ≤ 30) (hterminated : 0 ∉ info.seller)
    (hcount : info.deleted = false -> info.deletedCount = 0) :
    (createFromDump info).Writable := by
  have hzero : info.deleted = false -> info.deletedCount.toNat = 0 := by
    intro hdeleted
    rw [hcount hdeleted]
    rfl
  simp only [createFromDump]
  split
  · exact ⟨hseller, hterminated, hzero⟩
  · exact ⟨hseller, hterminated, hzero⟩

theorem Writable.serialize (h : a.Writable) (alwaysWithData : Bool)
    (hdata : (a.serialize alwaysWithData).data.length ≤ 65535) :
    (a.serialize alwaysWithData).Writable where
  data := hdata
  seller := h.seller
  terminated := h.terminated
  deletedCount := by
    intro hdeleted
    change UInt8.ofNat a.deletedCount = 0
    rw [h.deletedCount hdeleted]
    rfl

end AuctionComplexData

/-!
## Files that were read
-/

namespace StoredInfo

variable {version : Version}

/-- The name of a seller, as a file has it. -/
def SellerFits (r : Record) : Prop :=
  (r.string "seller").length ≤ 30 ∧ 0 ∉ r.string "seller"

/-- Only what is deleted is counted. -/
def Counted (r : Record) : Prop :=
  r.integer "deleted" = 0 -> r.integer "deletedCount" = 0

theorem read_last (l : Locals) (b : MessageBuffer) (r : Record)
    (b' : MessageBuffer) (r' : Record)
    (h : (Struct.field "deletedCount" deletedSinceV4
      (Metatype.simple uint8 uint8 (some 0)) Struct.nil).read version l b r =
        some (b', r')) : Counted r' := by
  rw [Struct.read] at h
  split at h
  · rename_i hactive
    rcases Option.bind_eq_some_iff.mp h with ⟨⟨l1, b1, r1⟩, hread, hnil⟩
    cases hnil
    rcases Metatype.read_simple hread with ⟨val, heq⟩
    rw [deletedSinceV4, Bool.and_eq_true, decide_eq_true_eq] at hactive
    intro hzero
    rw [heq, Record.integer_setInteger, if_neg (by decide)] at hzero
    exact absurd hzero hactive.right
  · cases h
    intro hzero
    rw [Metatype.copyDefaultValue, Record.integer_setInteger, if_pos rfl]
    decide

theorem read_counted : forall (l : Locals) (b : MessageBuffer) (r : Record)
    (b' : MessageBuffer) (r' : Record),
    AUCTION_INFO.read version l b r = some (b', r') -> Counted r' := by
  apply Struct.read_ends
  apply Struct.read_ends
  apply Struct.read_ends
  apply Struct.read_ends
  apply Struct.read_ends
  apply Struct.read_ends
  apply Struct.read_ends
  apply Struct.read_ends
  apply Struct.read_ends
  apply Struct.read_ends
  apply Struct.read_ends
  apply Struct.read_ends
  apply Struct.read_ends
  apply Struct.read_ends
  apply Struct.read_ends
  apply Struct.read_ends
  apply Struct.read_ends
  exact read_last

theorem seller_simple {name : String} {type member : IntType}
    {defaultval : Option Int} {cond : Condition} {rest : Struct}
    (hrest : rest.FieldsKeep SellerFits) :
    (Struct.field name cond (Metatype.simple type member defaultval)
      rest).FieldsKeep SellerFits := by
  refine ⟨?_, ?_, hrest⟩
  · intro l b r l' b' r' hread hr
    rcases Metatype.read_simple hread with ⟨val, heq⟩
    rw [heq]
    exact hr
  · intro r hr
    cases defaultval with
    | none => exact hr
    | some val => exact hr

theorem read_seller : AUCTION_INFO.FieldsKeep SellerFits := by
  apply seller_simple
  apply seller_simple
  apply seller_simple
  apply seller_simple
  apply seller_simple
  apply seller_simple
  apply seller_simple
  apply seller_simple
  apply seller_simple
  refine ⟨?_, fun _ hr => hr, ?_⟩
  · intro l b r l' b' r' hread hr
    rw [Metatype.read_count hread]
    exact hr
  refine ⟨?_, fun _ hr => hr, ?_⟩
  · intro l b r l' b' r' hread hr
    rcases Metatype.read_dynarray hread with ⟨val, heq⟩
    rw [heq]
    exact hr
  apply seller_simple
  apply seller_simple
  apply seller_simple
  refine ⟨?_, fun _ hr => hr, ?_⟩
  · intro l b r l' b' r' hread hr
    rcases Metatype.read_string hread with ⟨val, heq, hval⟩
    rw [SellerFits, heq, Record.string_setString, if_pos rfl]
    rcases hval with hold | hnew
    · rw [hold]
      exact hr
    · exact hnew
  apply seller_simple
  apply seller_simple
  apply seller_simple
  trivial

theorem auctions_stored {b b' : MessageBuffer} {r : Record}
    (h : AUCTION_FILE.deserialize version b Record.zero = some (b', r)) :
    forall item, item ∈ r.objectVector "auctions" ->
      SellerFits item ∧ Counted item := by
  have hzero : SellerFits Record.zero ∧ Counted Record.zero :=
    ⟨⟨Nat.zero_le _, List.not_mem_nil⟩, fun _ => rfl⟩
  have hfields : AUCTION_FILE.FieldsKeep fun r =>
      forall item, item ∈ r.objectVector "auctions" ->
        SellerFits item ∧ Counted item := by
    refine ⟨?_, fun _ hr => hr, ?_, fun _ hr => hr, ?_, fun _ hr => hr, trivial⟩
    · intro version l b r b' r' hread hr
      rcases Option.map_eq_some_iff.mp hread with ⟨result, -, hpair⟩
      cases hpair
      exact hr
    · intro l b r l' b' r' hread hr
      rw [Metatype.read_count hread]
      exact hr
    · intro version l b r b' r' hread hr
      refine Struct.readObjects_keeps ?_ hzero hread hr
      intro b item b' item' hitem hkeeps
      exact ⟨Struct.read_keeps read_seller hitem hkeeps.left,
        read_counted _ _ _ _ _ hitem⟩
  exact Struct.read_keeps hfields h fun item hitem => nomatch hitem

end StoredInfo

/-!
## Writers in use
-/

namespace AuctionComplexDiffWriter

open AuctionComplexData (Writable)

/-- What a writer can become: it imports files that were read. -/
inductive Reachable : AuctionComplexDiffWriter -> Prop where
  | create (categoryCount : Nat) : Reachable (create categoryCount)
  | call {w : AuctionComplexDiffWriter} (h : Reachable w)
      (call : Call AuctionSimpleInfo) : Reachable (w.call call)
  | beginProcess {w : AuctionComplexDiffWriter} (h : Reachable w) :
      Reachable w.beginProcess
  | endProcess {w : AuctionComplexDiffWriter} (h : Reachable w) :
      Reachable w.endProcess
  | setDiffInputMode {w : AuctionComplexDiffWriter} (h : Reachable w)
      (diffMode : Bool) : Reachable (w.setDiffInputMode diffMode)
  | importDump {w : AuctionComplexDiffWriter} (h : Reachable w)
      {version : Version} {b b' : MessageBuffer} {r : Record}
      (hread : AUCTION_FILE.deserialize version b Record.zero =
        some (b', r)) : Reachable (w.importDump (AuctionFile.ofRecord r))

theorem each_addAuctionInfo {w : AuctionComplexDiffWriter}
    (h : w.Each Writable) (auction : AuctionSimpleInfo) :
    (w.addAuctionInfo auction).Each Writable := by
  rcases addAuctionInfo_cases w auction with ⟨w', hauctions, -, hcases⟩
  have h' : w'.Each Writable := by
    intro a ha
    rw [hauctions] at ha
    exact h a ha
  rcases hcases with heq | ⟨timeMin, epic, heq⟩ | ⟨timeMin, epic, heq⟩ |
    ⟨timeMin, heq⟩
  · rw [heq]
    exact h'
  · rw [heq]
    refine AuctionGenericWriter.Each.modifyAuction h' auction.uid ?_
    intro a ha
    have hsame : { a with timeMin := timeMin.getD a.timeMin }.Writable :=
      ha.of_same rfl rfl rfl
    exact hsame.update _ _ _
  · rw [heq]
    exact AuctionGenericWriter.Each.addAuction h'
      (AuctionComplexData.create_writable _ _ _ _ _ _)
  · rw [heq]
    refine AuctionGenericWriter.Each.modifyAuction h' auction.uid ?_
    intro a ha
    have hsame : { a with timeMin := timeMin.getD a.timeMin }.Writable :=
      ha.of_same rfl rfl rfl
    exact hsame.remove _

theorem each_importDump (w : AuctionComplexDiffWriter) {version : Version}
    {b b' : MessageBuffer} {r : Record}
    (hread : AUCTION_FILE.deserialize version b Record.zero =
      some (b', r)) :
    (w.importDump (AuctionFile.ofRecord r)).Each Writable := by
  apply AuctionGenericWriter.Each.importAuctions
  intro a ha
  rcases List.mem_map.mp ha with ⟨info, hinfo, heq⟩
  rcases List.mem_map.mp hinfo with ⟨item, hitem, hinfoEq⟩
  rcases StoredInfo.auctions_stored hread item hitem with ⟨hseller, hcount⟩
  rw [← heq, ← hinfoEq]
  refine AuctionComplexData.createFromDump_writable hseller.left
    hseller.right ?_
  intro hdeleted
  have hzero : item.integer "deleted" = 0 := by
    simpa [AuctionInfo.ofRecord] using hdeleted
  change UInt8.ofNat (item.integer "deletedCount").toNat = 0
  rw [hcount hzero]
  rfl

theorem Reachable.each {w : AuctionComplexDiffWriter} (h : w.Reachable) :
    w.Each Writable := by
  induction h with
  | create categoryCount => exact AuctionGenericWriter.Each.create _ _
  | call h call ih =>
      cases call with
      | category call => exact ih
      | addAuctionInfo auction => exact each_addAuctionInfo ih auction
  | beginProcess h ih =>
      exact AuctionGenericWriter.Each.beginProcess ih
        fun a ha _ => ha.beginProcess
  | endProcess h ih =>
      exact AuctionGenericWriter.Each.endProcess ih
        fun a ha => ha.endProcess _ _ _
  | setDiffInputMode h diffMode ih => exact ih
  | importDump h hread ih => exact each_importDump _ hread

end AuctionComplexDiffWriter

end Auction
end Rzu
