import Rzu.Auction.SimpleDiffWriter
import Rzu.Auction.WriterValues

/-!
# Round trip of auction files

A dump comes back from its file exactly if its auctions and its categories are
less than 65536 each and it takes less than four gigabytes.
-/

namespace Rzu
namespace Auction

open Library Packet

/-- What one of the writers exports. -/
inductive AuctionDump where
  | simple (file : AuctionSimpleFile)
  | complex (file : AuctionFile)
deriving DecidableEq

namespace AuctionDump

def header : AuctionDump -> AuctionHeader
  | simple file => file.header
  | complex file => file.header

def auctionCount : AuctionDump -> Nat
  | simple file => file.auctions.length
  | complex file => file.auctions.length

def rawData : AuctionDump -> List (List UInt8)
  | simple file => file.auctions.map AuctionSimpleInfo.data
  | complex file => file.auctions.map fun info => info.data

/-- The bytes that the file takes. -/
def size (dump : AuctionDump) : Nat :=
  15 + 16 * dump.header.categories.length +
    match dump with
    | simple file =>
        (file.auctions.map fun info => 30 + info.data.length).sum
    | complex file =>
        (file.auctions.map fun info =>
          97 + info.data.length + info.deleted.toNat).sum

def serialize (garbage : Nat -> UInt8) : AuctionDump -> Option (List UInt8)
  | simple file => file.serialize garbage
  | complex file => file.serialize garbage

/-- `AuctionWriter::deserialize` to a file of the same kind. -/
def deserialize (data : List UInt8) : AuctionDump -> Option AuctionDump
  | simple _ => (AuctionWriter.deserializeSimple data).map simple
  | complex _ => (AuctionWriter.deserializeComplex data).map complex

/-- A dump is what comes back from its bytes. -/
def RoundTrips (dump : AuctionDump) (garbage : Nat -> UInt8) : Prop :=
  exists bytes, dump.serialize garbage = some bytes ∧
    dump.deserialize bytes = some dump

/-- What a simple writer exports in any state, or a complex one in use. -/
inductive Produced : AuctionDump -> Prop where
  | simple (w : AuctionSimpleDiffWriter) (doFullDump : Bool) :
      Produced (simple (w.exportDump doFullDump))
  | complex {w : AuctionComplexDiffWriter} (h : w.Reachable)
      (doFullDump alwaysWithData : Bool) :
      Produced (complex (w.exportDump doFullDump alwaysWithData))

variable {dump : AuctionDump}

theorem Produced.signature (h : dump.Produced) :
    dump.header.signature.length = 4 := by
  cases h with
  | simple w doFullDump => rfl
  | complex h doFullDump alwaysWithData => rfl

theorem Produced.file_version (h : dump.Produced) :
    dump.header.file_version = AUCTION_LATEST := by
  cases h with
  | simple w doFullDump => rfl
  | complex h doFullDump alwaysWithData => rfl

theorem Produced.dumpType (h : dump.Produced) :
    dump.header.dumpType ≠ AuctionWriter.unknownDumpType := by
  have hknown : forall dumpType : DumpType,
      dumpType.toInt8 ≠ AuctionWriter.unknownDumpType := by
    intro dumpType
    cases dumpType with
    | diff => decide
    | full => decide
  cases h with
  | simple w doFullDump => exact hknown _
  | complex h doFullDump alwaysWithData => exact hknown _

theorem size_simple (file : AuctionSimpleFile) :
    (simple file).size =
      AuctionSimpleInfo.format.fileSize file.header file.auctions := by
  have hsum : forall info : AuctionSimpleInfo,
      (AuctionSimpleInfo.format.fieldSizes info).sum =
        30 + info.data.length := by
    intro info
    change info.fieldSizes.sum = _
    simp only [AuctionSimpleInfo.fieldSizes, List.sum_cons, List.sum_nil]
    lia
  rw [InfoFormat.fileSize, List.map_congr_left fun info _ => hsum info]
  rfl

theorem size_complex (file : AuctionFile) :
    (complex file).size =
      AuctionInfo.format.fileSize file.header file.auctions := by
  have hsum : forall info : AuctionInfo,
      (AuctionInfo.format.fieldSizes info).sum =
        97 + info.data.length + info.deleted.toNat := by
    intro info
    change info.fieldSizes.sum = _
    rw [AuctionInfo.fieldSizes, List.sum_append]
    cases info.deleted with
    | false =>
        simp only [Bool.false_eq_true, ↓reduceIte, List.sum_cons,
          List.sum_nil, Bool.toNat_false]
        lia
    | true =>
        simp only [↓reduceIte, List.sum_cons, List.sum_nil, Bool.toNat_true]
        lia
  rw [InfoFormat.fileSize, List.map_congr_left fun info _ => hsum info]
  rfl

theorem Produced.writes_simple {file : AuctionSimpleFile}
    (h : (AuctionDump.simple file).Produced)
    (hdata : forall data, data ∈ (AuctionDump.simple file).rawData ->
      data.length ≤ 65535)
    (hauctions : file.auctions.length < 65536)
    (hcategories : file.header.categories.length < 65536) :
    AuctionSimpleInfo.format.Writes file.header file.auctions where
  header := ⟨h.signature, hcategories⟩
  few := hauctions
  each info hinfo := hdata info.data (List.mem_map_of_mem hinfo)

theorem Produced.writes_complex {file : AuctionFile}
    (h : (AuctionDump.complex file).Produced)
    (hdata : forall data, data ∈ (AuctionDump.complex file).rawData ->
      data.length ≤ 65535)
    (hauctions : file.auctions.length < 65536)
    (hcategories : file.header.categories.length < 65536) :
    AuctionInfo.format.Writes file.header file.auctions where
  header := ⟨h.signature, hcategories⟩
  few := hauctions
  each := by
    intro info hinfo
    have hlength := hdata info.data
      (List.mem_map_of_mem (f := fun info : AuctionInfo => info.data) hinfo)
    cases h with
    | complex h doFullDump alwaysWithData =>
        rcases List.mem_map.mp hinfo with ⟨a, ha, heq⟩
        rw [← heq] at hlength ⊢
        exact (h.each a (List.mem_filter.mp ha).left).serialize _ hlength

theorem Produced.not_deserialize_nil (h : dump.Produced) :
    dump.deserialize [] ≠ some dump := by
  intro hread
  have hdumpType := h.dumpType
  cases dump with
  | simple file =>
      have hold : (AuctionDump.simple file).deserialize [] =
          some (AuctionDump.simple ⟨AuctionWriter.oldFileHeader, []⟩) := rfl
      rw [hold] at hread
      cases hread
      exact hdumpType rfl
  | complex file => cases hread

theorem few_of_deserializeFile {Info : Type} {F : InfoFormat Info}
    {data : List UInt8} {r : Record}
    (h : AuctionWriter.deserializeFile F.fileStruct data = some r) :
    (r.objectVector "auctions").length < 65536 ∧
      (AuctionHeader.ofRecord (r.object "header")).categories.length <
        65536 := by
  rcases InfoFormat.deserializeFile_few h with ⟨hauctions, hcategories⟩
  refine ⟨hauctions, ?_⟩
  rw [AuctionHeader.ofRecord, List.length_map]
  exact hcategories

theorem Produced.few (h : dump.Produced) {data : List UInt8}
    (hread : dump.deserialize data = some dump) :
    dump.auctionCount < 65536 ∧ dump.header.categories.length < 65536 := by
  have hdumpType := h.dumpType
  cases dump with
  | simple file =>
      rcases Option.map_eq_some_iff.mp hread with ⟨file', hfile, heq⟩
      cases heq
      rw [AuctionWriter.deserializeSimple] at hfile
      rcases Option.bind_eq_some_iff.mp hfile with
        ⟨⟨version, format⟩, -, hformat⟩
      cases format with
      | simple =>
          rcases Option.map_eq_some_iff.mp hformat with ⟨r, hr, heq⟩
          rcases few_of_deserializeFile (F := AuctionSimpleInfo.format) hr
            with ⟨hauctions, hcategories⟩
          rw [← heq]
          refine ⟨?_, hcategories⟩
          rw [auctionCount, AuctionSimpleFile.ofRecord, List.length_map]
          exact hauctions
      | complex =>
          rcases Option.map_eq_some_iff.mp hformat with ⟨r, hr, heq⟩
          rcases few_of_deserializeFile (F := AuctionInfo.format) hr
            with ⟨hauctions, hcategories⟩
          rw [← heq]
          refine ⟨?_, hcategories⟩
          rw [auctionCount, AuctionFile.ofRecord, List.length_map,
            List.length_map]
          exact hauctions
      | old =>
          rcases Option.bind_eq_some_iff.mp hformat with ⟨header, -, hold⟩
          rcases Option.bind_eq_some_iff.mp hold with ⟨auctions, -, hpair⟩
          cases hpair
          exact (hdumpType rfl).elim
  | complex file =>
      rcases Option.map_eq_some_iff.mp hread with ⟨file', hfile, heq⟩
      cases heq
      rcases Option.map_eq_some_iff.mp hfile with ⟨r, hr, heq⟩
      rcases few_of_deserializeFile (F := AuctionInfo.format) hr with
        ⟨hauctions, hcategories⟩
      rw [← heq]
      refine ⟨?_, hcategories⟩
      rw [auctionCount, AuctionFile.ofRecord, List.length_map]
      exact hauctions

/-- A dump that is small in every respect comes back. -/
theorem Produced.roundTrips (h : dump.Produced)
    (hdata : forall data, data ∈ dump.rawData -> data.length ≤ 65535)
    (hauctions : dump.auctionCount < 65536)
    (hcategories : dump.header.categories.length < 65536)
    (hsize : dump.size < 2 ^ 32) (garbage : Nat -> UInt8) :
    dump.RoundTrips garbage := by
  cases dump with
  | simple file =>
      rw [size_simple] at hsize
      rcases (h.writes_simple hdata hauctions hcategories).readWritten
        h.file_version hsize garbage with
        ⟨bytes, r, hwritten, hsignature, hlarge, hread, hheader, hinfos⟩
      have hfile : AuctionSimpleFile.ofRecord r = file := by
        rcases file with ⟨header, auctions⟩
        rw [AuctionSimpleFile.ofRecord, hheader]
        exact congrArg _ hinfos
      have hsame : file.header.signature = [82, 72, 83, 0] := by
        cases h
        rfl
      rw [hsame] at hsignature
      have hformat : AuctionWriter.getAuctionFileFormat bytes =
          some (AuctionWriter.readAt bytes 4 4,
            AuctionWriter.AuctionFileFormat.simple) := by
        rw [AuctionWriter.getAuctionFileFormat, if_neg, if_pos]
        · exact ⟨hlarge, hsignature⟩
        · rw [hsignature]
          exact fun hboth => absurd hboth.right (by decide)
      have hdeserialized : AuctionWriter.deserializeFile AUCTION_SIMPLE_FILE
          bytes = some r := hread
      refine ⟨bytes, hwritten, ?_⟩
      rw [deserialize, AuctionWriter.deserializeSimple, hformat,
        Option.bind_eq_bind, Option.bind_some, hdeserialized,
        Option.map_some, hfile, Option.map_some]
  | complex file =>
      rw [size_complex] at hsize
      rcases (h.writes_complex hdata hauctions hcategories).readWritten
        h.file_version hsize garbage with
        ⟨bytes, r, hwritten, -, -, hread, hheader, hinfos⟩
      have hfile : AuctionFile.ofRecord r = file := by
        rcases file with ⟨header, auctions⟩
        rw [AuctionFile.ofRecord, hheader]
        exact congrArg _ hinfos
      have hdeserialized : AuctionWriter.deserializeFile AUCTION_FILE
          bytes = some r := hread
      refine ⟨bytes, hwritten, ?_⟩
      rw [deserialize, AuctionWriter.deserializeComplex, hdeserialized,
        Option.map_some, hfile, Option.map_some]

/--
A dump comes back exactly if its auctions and its categories are less than
65536 each and its file is smaller than four gigabytes.
-/
theorem comesBack_iff (h : dump.Produced)
    (hdata : forall data, data ∈ dump.rawData -> data.length ≤ 65535)
    (garbage : Nat -> UInt8) :
    dump.RoundTrips garbage ↔
      dump.auctionCount < 65536 ∧ dump.header.categories.length < 65536 ∧
        dump.size < 2 ^ 32 := by
  constructor
  · rintro ⟨bytes, hwritten, hread⟩
    rcases h.few hread with ⟨hauctions, hcategories⟩
    refine ⟨hauctions, hcategories, ?_⟩
    by_contra hlarge
    have hempty : bytes = [] := by
      cases dump with
      | simple file =>
          rw [size_simple, Nat.not_lt] at hlarge
          exact (h.writes_simple hdata hauctions hcategories).serialize_large
            h.file_version hlarge hwritten
      | complex file =>
          rw [size_complex, Nat.not_lt] at hlarge
          exact (h.writes_complex hdata hauctions hcategories).serialize_large
            h.file_version hlarge hwritten
    rw [hempty] at hread
    exact h.not_deserialize_nil hread
  · rintro ⟨hauctions, hcategories, hsize⟩
    exact h.roundTrips hdata hauctions hcategories hsize garbage

/-- The dump of a new writer comes back. -/
theorem comesBack_iff_empty :
    (simple ((AuctionSimpleDiffWriter.create 1).exportDump true)).RoundTrips
        (fun _ => 0) ↔
      0 < 65536 ∧ 1 < 65536 ∧ 31 < 2 ^ 32 := by
  have hdata : forall data, data ∈ (simple
      ((AuctionSimpleDiffWriter.create 1).exportDump true)).rawData ->
        data.length ≤ 65535 := by
    intro data hdata
    cases hdata
  exact comesBack_iff (Produced.simple _ true) hdata _

end AuctionDump

/-!
## A dump that does not come back
-/

namespace AuctionSimpleDiffWriter

/-- An auction that is seen once. -/
def numbered (uid : Nat) : SimpleSighting where
  uid := UInt32.ofNat uid
  time := 100
  category := 0
  epic := 0x090700
  data := [1, 2, 3]

def crowded : Nat -> AuctionSimpleDiffWriter
  | 0 => create 1
  | n + 1 => (crowded n).addAuctionInfo (fun _ => 0) (numbered n)

theorem crowded_succ {n : Nat} (hn : n < 2 ^ 32)
    (hbelow : forall a, a ∈ (crowded n).auctions.elements ->
      auctionKey a < n) :
    exists a : AuctionSimpleData, auctionKey a = n ∧
      a.rawData = [1, 2, 3] ∧
      (crowded (n + 1)).auctions.elements =
        (crowded n).auctions.elements ++ [a] := by
  have huid : (numbered n).uid.toNat = n := UInt32.toNat_ofNat_of_lt' hn
  have hmissing : (crowded n).getAuction (numbered n).uid = none := by
    cases hfound : (crowded n).getAuction (numbered n).uid with
    | none => rfl
    | some a =>
        have hkey : auctionKey a = (numbered n).uid.toNat :=
          FlatMap.key_of_find? hfound
        have hlt := hbelow a (FlatMap.mem_of_find? hfound)
        lia
  let a := AuctionSimpleData.create 0 (numbered n).uid
    ((crowded n).categoryTimeManager.getEstimatedPreviousCategoryBeginTime
      0).toUInt64 100 0 0x090700 [1, 2, 3]
  have hkey : auctionKey a = n := by
    rw [auctionKey]
    change a.uid.toNat = n
    rw [AuctionSimpleData.create_uid, huid]
  refine ⟨a, hkey, rfl, ?_⟩
  rw [crowded, addAuctionInfo, hmissing]
  apply FlatMap.insertInto_of_lt
  intro x hx
  change auctionKey x < auctionKey a
  rw [hkey]
  exact hbelow x hx

theorem crowded_spec {n : Nat} (hn : n ≤ 2 ^ 32) :
    (crowded n).auctions.elements.map auctionKey = List.range n ∧
      (crowded n).Each fun a => a.rawData = [1, 2, 3] := by
  induction n with
  | zero =>
      constructor
      · rfl
      · intro a ha
        cases ha
  | succ n ih =>
      rcases ih (Nat.le_of_succ_le hn) with ⟨hkeys, hdata⟩
      have hbelow : forall a, a ∈ (crowded n).auctions.elements ->
          auctionKey a < n := by
        intro a ha
        have hkey := List.mem_map_of_mem (f := auctionKey) ha
        rw [hkeys] at hkey
        exact List.mem_range.mp hkey
      rcases crowded_succ hn hbelow with ⟨a, hkey, hraw, helements⟩
      constructor
      · rw [helements, List.map_append, hkeys, List.range_succ, ← hkey]
        rfl
      · intro x hx
        rw [helements] at hx
        rcases List.mem_append.mp hx with hold | hnew
        · exact hdata x hold
        · rw [List.mem_singleton.mp hnew]
          exact hraw

end AuctionSimpleDiffWriter

namespace AuctionDump

/-- So many auctions, each with three bytes of data. -/
def crowded (n : Nat) : AuctionDump :=
  simple ((AuctionSimpleDiffWriter.crowded n).exportDump true)

theorem crowded_auctionCount {n : Nat} (hn : n ≤ 2 ^ 32) :
    (crowded n).auctionCount = n := by
  have hkeys := (AuctionSimpleDiffWriter.crowded_spec hn).left
  have hlength := congrArg List.length hkeys
  rw [List.length_map, List.length_range] at hlength
  have hall : ((AuctionSimpleDiffWriter.crowded n).auctions.elements.filter
      fun auction => true || auction.outputInPartialDump) =
        (AuctionSimpleDiffWriter.crowded n).auctions.elements := by
    simp
  rw [crowded, auctionCount, AuctionSimpleDiffWriter.exportDump, hall,
    List.length_map, hlength]

theorem crowded_rawData {n : Nat} (hn : n ≤ 2 ^ 32) {data : List UInt8}
    (h : data ∈ (crowded n).rawData) : data.length ≤ 65535 := by
  rcases List.mem_map.mp h with ⟨info, hinfo, heq⟩
  rcases List.mem_map.mp hinfo with ⟨a, ha, hsame⟩
  have hraw := (AuctionSimpleDiffWriter.crowded_spec hn).right a
    (List.mem_filter.mp ha).left
  have hdata : data = [1, 2, 3] := by
    rw [← heq, ← hsame]
    exact hraw
  rw [hdata]
  decide

/-- 65536 auctions can be counted in 32 bits, and they do not come back. -/
theorem not_roundTrips_crowded :
    (crowded 65536).Produced ∧
      (forall data, data ∈ (crowded 65536).rawData ->
        data.length ≤ 65535) ∧
      (crowded 65536).auctionCount < 2 ^ 32 ∧
      forall garbage, ¬(crowded 65536).RoundTrips garbage := by
  have hproduced : (crowded 65536).Produced := Produced.simple _ true
  have hcount := crowded_auctionCount (n := 65536) (by decide)
  refine ⟨hproduced, fun data hdata => crowded_rawData (by decide) hdata, ?_,
    ?_⟩
  · rw [hcount]
    decide
  · rintro garbage ⟨bytes, -, hread⟩
    have hfew := (hproduced.few hread).left
    rw [hcount] at hfew
    exact absurd hfew (by decide)

end AuctionDump

end Auction
end Rzu
