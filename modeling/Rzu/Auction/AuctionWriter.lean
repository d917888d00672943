import Rzu.Auction.FileLayout

/-!
# Writing and reading auction files

A dump is serialized to the bytes of a file.  The format of a file is told from
its first bytes, and files of the first versions have no structs at all.
-/

namespace Rzu
namespace Auction

open Library Packet

/--
`AuctionGenericWriter::serialize`, with what the allocated memory holds: there
is no output if a field did not fit.
-/
def AuctionGenericWriter.serialize (type : Struct) (fileVersion : Version)
    (auctionFile : Record) (garbage : Nat -> UInt8) :
    Option (List UInt8) := do
  let size <- type.getSize fileVersion auctionFile
  let buffer <- type.serialize fileVersion auctionFile
    (MessageBuffer.create ((List.range size).map garbage))
  if buffer.checkFinalSize then pure buffer.buffer else pure []

namespace AuctionWriter

inductive AuctionFileFormat where
  | old
  | simple
  | complex
deriving DecidableEq

/-- The bytes of an integer at an offset. -/
def readAt (data : List UInt8) (offset size : Nat) : Nat :=
  leNat ((data.drop offset).take size)

/-- The version and the format of a file. -/
def getAuctionFileFormat (data : List UInt8) :
    Option (Nat × AuctionFileFormat) :=
  if data.length > 8 ∧ data.take 4 = [82, 65, 72, 0] then
    some (readAt data 4 4, AuctionFileFormat.complex)
  else if data.length > 8 ∧ data.take 4 = [82, 72, 83, 0] then
    some (readAt data 4 4, AuctionFileFormat.simple)
  else if data.length > 8 then
    let trueVersion :=
      if readAt data 4 2 > 1000 then 0 else readAt data 4 2
    if readAt data 0 4 > 4096 ∨ trueVersion > 2 then none
    else some (trueVersion, AuctionFileFormat.old)
  else some (0, AuctionFileFormat.old)

def fileVersion (buffer : List UInt8) : Version :=
  UInt32.ofNat (readAt buffer 4 4)

/-- A struct is read as far as it goes, whatever follows it. -/
def deserializeFile (type : Struct) (buffer : List UInt8) : Option Record :=
  if buffer.length < 8 then none
  else do
    let result <- type.deserialize (fileVersion buffer)
      (MessageBuffer.create buffer) Record.zero
    if result.1.checkFinalSize then pure result.2 else none

/-- A packed header of an auction in an old file. -/
structure OldHeader where
  sizeof : Nat
  getSize : List UInt8 -> Int
  getFlag : List UInt8 -> UInt16
  getTime : List UInt8 -> Int64
  getPreviousTime : List UInt8 -> Int64
  getCategory : List UInt8 -> UInt16

namespace OldHeader

def readInt32 (data : List UInt8) (offset : Nat) : Int32 :=
  (UInt32.ofNat (readAt data offset 4)).toInt32

def readInt64 (data : List UInt8) (offset : Nat) : Int64 :=
  (UInt64.ofNat (readAt data offset 8)).toInt64

def readUInt16 (data : List UInt8) (offset : Nat) : UInt16 :=
  UInt16.ofNat (readAt data offset 2)

def AuctionHeaderV0 : OldHeader where
  sizeof := 20
  getSize data := (readInt32 data 0).toInt
  getFlag _ := DiffType.base.toUInt16
  getTime data := readInt64 data 4
  getPreviousTime _ := 0
  getCategory data := readUInt16 data 12

def AuctionHeaderV1 : OldHeader where
  sizeof := 18
  getSize data := (readInt32 data 0 - 18).toInt
  getFlag data := readUInt16 data 6
  getTime data := readInt64 data 8
  getPreviousTime _ := 0
  getCategory data := readUInt16 data 16

def AuctionHeaderV2 : OldHeader where
  sizeof := 26
  getSize data := (readInt32 data 0 - 26).toInt
  getFlag data := readUInt16 data 6
  getTime data := readInt64 data 8
  getPreviousTime data := readInt64 data 16
  getCategory data := readUInt16 data 24

def ofVersion : Nat -> Option OldHeader
  | 0 => some AuctionHeaderV0
  | 1 => some AuctionHeaderV1
  | 2 => some AuctionHeaderV2
  | _ => none

end OldHeader

/--
One auction after the other.  A negative size leads out of the memory, and so
does a missing uid.  The fuel bounds the passes of the loop.
-/
def deserializeOldFile (header : OldHeader) :
    Nat -> List UInt8 -> Option (List AuctionSimpleInfo)
  | _, [] => some []
  | 0, _ => none
  | fuel + 1, data =>
      if header.sizeof > data.length then none
      else if header.getSize data < 0 then none
      else
        let dataSize := (header.getSize data).toNat
        let rawData := data.drop header.sizeof
        if dataSize > rawData.length ∨ rawData.length < 4 then none
        else do
          let later <- deserializeOldFile header fuel (rawData.drop dataSize)
          pure ({ uid := UInt32.ofNat (readAt rawData 0 4)
                  time := header.getTime data
                  previousTime := header.getPreviousTime data
                  diffType := header.getFlag data
                  category := header.getCategory data
                  epic := 0xFFFFFF
                  data := rawData.take dataSize } :: later)

/-- `DT_UnknownDumpType`. -/
def unknownDumpType : Int8 := 2

def oldFileHeader : AuctionHeader where
  signature := [82, 72, 83, 0]
  file_version := AUCTION_LATEST
  dumpType := unknownDumpType
  categories := []

/-- `AuctionWriter::deserialize` to an `AUCTION_SIMPLE_FILE`. -/
def deserializeSimple (data : List UInt8) : Option AuctionSimpleFile := do
  let fileFormat <- getAuctionFileFormat data
  match fileFormat with
  | (_, AuctionFileFormat.simple) =>
      (deserializeFile AUCTION_SIMPLE_FILE data).map AuctionSimpleFile.ofRecord
  | (_, AuctionFileFormat.complex) =>
      (deserializeFile AUCTION_FILE data).map fun r =>
        let complexFile := AuctionFile.ofRecord r
        { header := complexFile.header
          auctions :=
            complexFile.auctions.map AuctionInfo.toAuctionSimpleInfo }
  | (version, AuctionFileFormat.old) => do
      let header <- OldHeader.ofVersion version
      let auctions <- deserializeOldFile header data.length data
      pure { header := oldFileHeader, auctions := auctions }

/-- `AuctionWriter::deserialize` to an `AUCTION_FILE`. -/
def deserializeComplex (data : List UInt8) : Option AuctionFile :=
  (deserializeFile AUCTION_FILE data).map AuctionFile.ofRecord

end AuctionWriter

def AuctionSimpleFile.serialize (file : AuctionSimpleFile)
    (garbage : Nat -> UInt8) : Option (List UInt8) :=
  AuctionGenericWriter.serialize AUCTION_SIMPLE_FILE file.header.file_version
    file.toRecord garbage

def AuctionFile.serialize (file : AuctionFile) (garbage : Nat -> UInt8) :
    Option (List UInt8) :=
  AuctionGenericWriter.serialize AUCTION_FILE file.header.file_version
    file.toRecord garbage

/-!
## Files that come back
-/

namespace InfoFormat

variable {Info : Type} {F : InfoFormat Info}
variable {header : AuctionHeader} {auctions : List Info}

theorem layout_front {chunks : List (List UInt8)}
    (h : F.fileStruct.layout AUCTION_LATEST (F.fileRecord header auctions)
      Locals.initial 0 = some chunks) :
    exists rest, chunks.flatten =
      ((List.range 4).flatMap fun i =>
        uint8.encode ((header.signature.getD i 0).toNat : Int)) ++
      (uint32.encode (header.file_version.toNat : Int) ++ rest) := by
  rw [fileStruct, auctionFileStruct, Struct.layout, if_pos (always_eq _ _),
    Shape.elements, Option.bind_eq_bind, Option.bind_some,
    fileRecord_header] at h
  rcases Option.bind_eq_some_iff.mp h with ⟨objects, hobjects, h⟩
  rcases Option.bind_eq_some_iff.mp h with ⟨later, -, hpair⟩
  cases hpair
  rw [List.mapM_cons, List.mapM_nil] at hobjects
  rcases Option.bind_eq_some_iff.mp hobjects with ⟨first, hfirst, hnil⟩
  cases hnil
  rcases Struct.layout_active (always_eq _ _) hfirst with
    ⟨l, signature, lines, hsignature, hlines, heq⟩
  cases hsignature
  rcases Struct.layout_active (always_eq _ _) hlines with
    ⟨l', version, lines', hversion, -, heq'⟩
  cases hversion
  subst heq heq'
  refine ⟨lines'.flatten ++ later.flatten, ?_⟩
  simp [AuctionHeader.toRecord]

theorem encode_byte (byte : UInt8) :
    uint8.encode (byte.toNat : Int) = [byte] := by
  have hmod : ((byte.toNat : Int) % uint8.modulus).toNat = byte.toNat := by
    have hlt := byte.toNat_lt
    change ((byte.toNat : Int) % 256).toNat = _
    lia
  rw [IntType.encode, hmod]
  change [UInt8.ofNat byte.toNat] = _
  rw [UInt8.ofNat_toNat]

theorem signature_bytes {signature : List UInt8}
    (h : signature.length = 4) :
    ((List.range 4).flatMap fun i =>
      uint8.encode ((signature.getD i 0).toNat : Int)) = signature := by
  rcases signature with _ | ⟨a, _ | ⟨b, _ | ⟨c, _ | ⟨d, _ | ⟨e, rest⟩⟩⟩⟩⟩
  case cons.cons.cons.cons.nil =>
    have hrange : List.range 4 = [0, 1, 2, 3] := rfl
    simp only [hrange, List.flatMap_cons, List.flatMap_nil, encode_byte]
    rfl
  all_goals cases h

theorem readAt_version {signature rest : List UInt8}
    (h : signature.length = 4) (version : UInt32) :
    AuctionWriter.readAt (signature ++ (uint32.encode (version.toNat : Int) ++
      rest)) 4 4 = version.toNat := by
  have hlength : (uint32.encode (version.toNat : Int)).length = 4 :=
    IntType.encode_length _ _
  have hcast := uint32.leNat_encode (version.toNat : Int)
  have hmodulus : uint32.modulus = 2 ^ 32 := by decide
  have hlt := version.toNat_lt
  rw [hmodulus] at hcast
  rw [AuctionWriter.readAt, List.drop_left' h, List.take_left' hlength]
  lia

theorem Writes.readWritten (h : F.Writes header auctions)
    (hversion : header.file_version = AUCTION_LATEST)
    (hsize : F.fileSize header auctions < 2 ^ 32) (garbage : Nat -> UInt8) :
    exists bytes r,
      AuctionGenericWriter.serialize F.fileStruct header.file_version
        (F.fileRecord header auctions) garbage = some bytes ∧
      bytes.take 4 = header.signature ∧ 8 < bytes.length ∧
      AuctionWriter.deserializeFile F.fileStruct bytes = some r ∧
      AuctionHeader.ofRecord (r.object "header") = header ∧
      (r.objectVector "auctions").map F.ofRecord = auctions := by
  rcases h.sized with ⟨chunks, hlayout, hsizes⟩
  have htotal : chunks.flatten.length = F.fileSize header auctions := by
    rw [List.length_flatten, hsizes, sum_fileFieldSizes]
  have hshort : Struct.Short chunks := by
    intro chunk hchunk
    apply h.short
    rw [← hsizes]
    exact List.mem_map_of_mem hchunk
  rcases layout_front hlayout with ⟨rest, hfront⟩
  rw [signature_bytes h.header.signature] at hfront
  have hlarge : 8 < chunks.flatten.length := by
    rw [htotal, fileSize]
    lia
  refine ⟨chunks.flatten, F.fileStruct.overwrite AUCTION_LATEST
    (F.fileRecord header auctions) Record.zero, ?_, ?_, hlarge, ?_,
    h.readBack⟩
  · have hgetSize : F.fileStruct.getSize AUCTION_LATEST
        (F.fileRecord header auctions) = some chunks.flatten.length := by
      have hadd := Struct.addSize_layout hlayout (by lia)
      rw [Nat.zero_add] at hadd
      exact hadd
    have hmemory : chunks.flatten.length =
        ((List.range chunks.flatten.length).map garbage).length := by
      rw [List.length_map, List.length_range]
    rw [hversion, AuctionGenericWriter.serialize, hgetSize,
      Option.bind_eq_bind, Option.bind_some,
      Struct.serialize_create hlayout hshort (by lia) hmemory]
    rfl
  · rw [hfront, List.take_left' h.header.signature]
  · have hfileVersion : AuctionWriter.fileVersion chunks.flatten =
        AUCTION_LATEST := by
      rw [AuctionWriter.fileVersion, hfront,
        readAt_version h.header.signature, UInt32.ofNat_toNat, hversion]
    have hread := Struct.deserialize_create
      (fileConditions header auctions Record.zero) F.filePlain
      F.fileBounded F.fileCounts h.inRange hlayout hshort (by lia)
    rw [AuctionWriter.deserializeFile, if_neg (by lia), hfileVersion, hread]
    rfl

/-!
## Files that do not come back
-/

theorem Writes.serialize_large (h : F.Writes header auctions)
    (hversion : header.file_version = AUCTION_LATEST)
    (hsize : 2 ^ 32 ≤ F.fileSize header auctions) {garbage : Nat -> UInt8}
    {bytes : List UInt8}
    (hwritten : AuctionGenericWriter.serialize F.fileStruct
      header.file_version (F.fileRecord header auctions) garbage =
        some bytes) : bytes = [] := by
  rcases h.sized with ⟨chunks, hlayout, hsizes⟩
  have htotal : chunks.flatten.length = F.fileSize header auctions := by
    rw [List.length_flatten, hsizes, sum_fileFieldSizes]
  have hshort : Struct.Short chunks := by
    intro chunk hchunk
    apply h.short
    rw [← hsizes]
    exact List.mem_map_of_mem hchunk
  rw [hversion] at hwritten
  rcases Option.bind_eq_some_iff.mp hwritten with ⟨size, -, hwritten⟩
  rcases Option.bind_eq_some_iff.mp hwritten with ⟨buffer, hbuffer, hfinal⟩
  rw [Struct.serialize_full F.filePlain hlayout hshort (by lia) hbuffer]
    at hfinal
  cases hfinal
  rfl

theorem not_exempt_auctions : ¬F.fileStruct.Exempt ["auctions"] := by
  rintro (⟨hpath, -⟩ | ⟨below, hpath, -⟩ | ⟨-, hdefault⟩ | ⟨-, hshape⟩ |
    ⟨below, hpath, hdefault | hexempt⟩ | hnil)
  · simp at hpath
  · simp at hpath
  · exact hdefault
  · cases hshape
  · exact hdefault
  · cases hpath
    exact Struct.not_exempt_nil _ hexempt
  · exact hnil

theorem not_exempt_categories :
    ¬F.fileStruct.Exempt ["header", "categories"] := by
  rintro (⟨hpath, -⟩ | ⟨below, hpath, hdefault | hexempt⟩ | ⟨hpath, -⟩ |
    ⟨hpath, -⟩ | ⟨below, hpath, -⟩ | hnil)
  · cases hpath
  · exact hdefault
  · cases hpath
    rcases hexempt with ⟨hpath, -⟩ | ⟨hpath, -⟩ | ⟨hpath, -⟩ |
      ⟨-, hdefault⟩ | ⟨-, hshape⟩ | ⟨below, hpath, hdefault | hexempt⟩ | hnil
    · simp at hpath
    · simp at hpath
    · simp at hpath
    · exact hdefault
    · cases hshape
    · exact hdefault
    · cases hpath
      exact Struct.not_exempt_nil _ hexempt
    · exact hnil
  · simp at hpath
  · simp at hpath
  · simp at hpath
  · exact hnil

/-- However many auctions and categories a file promises. -/
theorem deserializeFile_few {data : List UInt8} {r : Record}
    (h : AuctionWriter.deserializeFile F.fileStruct data = some r) :
    (r.objectVector "auctions").length < 65536 ∧
      ((r.object "header").objectVector "categories").length < 65536 := by
  rw [AuctionWriter.deserializeFile] at h
  split at h
  · cases h
  · rcases Option.bind_eq_some_iff.mp h with ⟨⟨b, g⟩, hread, hfinal⟩
    split at hfinal
    · cases hfinal
      have hbounded := (Struct.read_bounded hread).right
      constructor
      · by_contra hmany
        rcases hbounded ["auctions"]
          (Or.inl ⟨rfl, Or.inr (Or.inr (Nat.le_of_not_lt hmany))⟩) with
          hexempt | hbig
        · exact not_exempt_auctions hexempt
        · exact Record.not_big_zero hbig
      · by_contra hmany
        rcases hbounded ["header", "categories"]
          (Record.big_of_object
            (Or.inl ⟨rfl, Or.inr (Or.inr (Nat.le_of_not_lt hmany))⟩)) with
          hexempt | hbig
        · exact not_exempt_categories hexempt
        · exact Record.not_big_zero hbig
    · cases hfinal

end InfoFormat

end Auction
end Rzu
