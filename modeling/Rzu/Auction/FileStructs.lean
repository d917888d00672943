import Rzu.Auction.AuctionFile
import Rzu.Packet.StructBuffer

/-!
# Structs of auction files

The declarations of the structs that an auction file is made of, their values
as records, and the bytes of a value.
-/

namespace Rzu
namespace Auction

open Library Packet

def AUCTION_V4 : Version := 4
def AUCTION_V5 : Version := 5
def AUCTION_V6 : Version := 6

/-- `version >= AUCTION_VN`. -/
def since (epic : Version) : Condition := fun version _ => atLeast epic version

/-- `version >= AUCTION_V4 && deleted`. -/
def deletedSinceV4 : Condition := fun version r =>
  atLeast AUCTION_V4 version && r.integer "deleted" ≠ 0

def AUCTION_CATEGORY_INFO : Struct :=
  Struct.field "previousBegin" (fun version _ => !atLeast AUCTION_V5 version)
    (Metatype.simple int64 int64 none)
  (Struct.field "beginTime" always (Metatype.simple int64 int64 none)
  (Struct.field "endTime" always (Metatype.simple int64 int64 none)
  Struct.nil))

def AUCTION_HEADER : Struct :=
  Struct.field "signature" always (Metatype.array uint8 uint8 4 none)
  (Struct.field "file_version" always (Metatype.simple uint32 uint32 none)
  (Struct.field "dumpType" always (Metatype.simple int8 int8 none)
  (Struct.field "categories" always
    (Metatype.count uint16 Container.objectVector none)
  (Struct.object "categories" always Shape.dynarray AUCTION_CATEGORY_INFO
  Struct.nil))))

def AUCTION_SIMPLE_INFO : Struct :=
  Struct.field "uid" always (Metatype.simple uint32 uint32 none)
  (Struct.field "time" always (Metatype.simple int64 int64 none)
  (Struct.field "previousTime" always (Metatype.simple int64 int64 none)
  (Struct.field "diffType" always (Metatype.simple uint16 uint16 none)
  (Struct.field "category" always (Metatype.simple uint16 uint16 none)
  (Struct.field "epic" (since AUCTION_V6)
    (Metatype.simple uint32 uint32 (some 0xFFFFFF))
  (Struct.field "data" always (Metatype.count uint16 Container.vector none)
  (Struct.field "data" always (Metatype.dynarray uint8 uint8)
  Struct.nil)))))))

def AUCTION_INFO : Struct :=
  Struct.field "uid" always (Metatype.simple uint32 uint32 none)
  (Struct.field "time" always (Metatype.simple int64 int64 none)
  (Struct.field "previousTime" always (Metatype.simple int64 int64 none)
  (Struct.field "estimatedEndTimeFromAdded" always
    (Metatype.simple uint8 uint8 none)
  (Struct.field "estimatedEndTimeMin" always
    (Metatype.simple int64 int64 none)
  (Struct.field "estimatedEndTimeMax" always
    (Metatype.simple int64 int64 none)
  (Struct.field "diffType" always (Metatype.simple uint16 uint16 none)
  (Struct.field "category" always (Metatype.simple uint16 uint16 none)
  (Struct.field "epic" (since AUCTION_V6)
    (Metatype.simple uint32 uint32 (some 0xFFFFFF))
  (Struct.field "data" always (Metatype.count uint16 Container.vector none)
  (Struct.field "data" always (Metatype.dynarray uint8 uint8)
  (Struct.field "duration_type" (since AUCTION_V4)
    (Metatype.simple uint8 uint8 none)
  (Struct.field "bid_price" (since AUCTION_V4)
    (Metatype.simple int64 int64 none)
  (Struct.field "price" (since AUCTION_V4) (Metatype.simple int64 int64 none)
  (Struct.field "seller" (since AUCTION_V4) (Metatype.string 31 none)
  (Struct.field "bid_flag" (since AUCTION_V4) (Metatype.simple int8 int8 none)
  (Struct.field "deleted" (since AUCTION_V4)
    (Metatype.simple uint8 uint8 none)
  (Struct.field "deletedCount" deletedSinceV4
    (Metatype.simple uint8 uint8 (some 0))
  Struct.nil)))))))))))))))))

/-- A header, the number of auctions, and the auctions. -/
def auctionFileStruct (auctionInfo : Struct) : Struct :=
  Struct.object "header" always (Shape.simple none) AUCTION_HEADER
  (Struct.field "auctions" always
    (Metatype.count uint32 Container.objectVector none)
  (Struct.object "auctions" always Shape.dynarray auctionInfo
  Struct.nil))

def AUCTION_SIMPLE_FILE : Struct := auctionFileStruct AUCTION_SIMPLE_INFO

def AUCTION_FILE : Struct := auctionFileStruct AUCTION_INFO

/-!
## Values as records
-/

def AuctionCategoryInfo.toRecord (category : AuctionCategoryInfo) : Record :=
  (Record.zero.setInteger "beginTime" category.beginTime.toInt).setInteger
    "endTime" category.endTime.toInt

def AuctionCategoryInfo.ofRecord (r : Record) : AuctionCategoryInfo where
  beginTime := Int64.ofInt (r.integer "beginTime")
  endTime := Int64.ofInt (r.integer "endTime")

def AuctionHeader.toRecord (header : AuctionHeader) : Record :=
  let r := Record.zero.setArray "signature" fun i =>
    (header.signature.getD i 0).toNat
  let r := r.setInteger "file_version" header.file_version.toNat
  let r := r.setInteger "dumpType" header.dumpType.toInt
  r.setObjectVector "categories"
    (header.categories.map AuctionCategoryInfo.toRecord)

def AuctionHeader.ofRecord (r : Record) : AuctionHeader where
  signature := (List.range 4).map fun i =>
    UInt8.ofNat (r.array "signature" i).toNat
  file_version := UInt32.ofNat (r.integer "file_version").toNat
  dumpType := Int8.ofInt (r.integer "dumpType")
  categories :=
    (r.objectVector "categories").map AuctionCategoryInfo.ofRecord

def AuctionSimpleInfo.toRecord (info : AuctionSimpleInfo) : Record :=
  let r := Record.zero.setInteger "uid" info.uid.toNat
  let r := r.setInteger "time" info.time.toInt
  let r := r.setInteger "previousTime" info.previousTime.toInt
  let r := r.setInteger "diffType" info.diffType.toNat
  let r := r.setInteger "category" info.category.toNat
  let r := r.setInteger "epic" info.epic.toNat
  r.setVector "data" (info.data.map fun byte => (byte.toNat : Int))

def AuctionSimpleInfo.ofRecord (r : Record) : AuctionSimpleInfo where
  uid := UInt32.ofNat (r.integer "uid").toNat
  time := Int64.ofInt (r.integer "time")
  previousTime := Int64.ofInt (r.integer "previousTime")
  diffType := UInt16.ofNat (r.integer "diffType").toNat
  category := UInt16.ofNat (r.integer "category").toNat
  epic := UInt32.ofNat (r.integer "epic").toNat
  data := (r.vector "data").map fun byte => UInt8.ofNat byte.toNat

def AuctionInfo.toRecord (info : AuctionInfo) : Record :=
  let r := info.toAuctionSimpleInfo.toRecord
  let r := r.setInteger "estimatedEndTimeFromAdded"
    info.estimatedEndTimeFromAdded.toNat
  let r := r.setInteger "estimatedEndTimeMin" info.estimatedEndTimeMin.toInt
  let r := r.setInteger "estimatedEndTimeMax" info.estimatedEndTimeMax.toInt
  let r := r.setInteger "duration_type" info.duration_type.toNat
  let r := r.setInteger "bid_price" info.bid_price.toInt
  let r := r.setInteger "price" info.price.toInt
  let r := r.setString "seller" info.seller
  let r := r.setInteger "bid_flag" info.bid_flag.toInt
  let r := r.setInteger "deleted" info.deleted.toNat
  r.setInteger "deletedCount" info.deletedCount.toNat

def AuctionInfo.ofRecord (r : Record) : AuctionInfo where
  toAuctionSimpleInfo := AuctionSimpleInfo.ofRecord r
  estimatedEndTimeFromAdded := r.integer "estimatedEndTimeFromAdded" ≠ 0
  estimatedEndTimeMin := Int64.ofInt (r.integer "estimatedEndTimeMin")
  estimatedEndTimeMax := Int64.ofInt (r.integer "estimatedEndTimeMax")
  duration_type := UInt8.ofNat (r.integer "duration_type").toNat
  bid_price := Int64.ofInt (r.integer "bid_price")
  price := Int64.ofInt (r.integer "price")
  seller := r.string "seller"
  bid_flag := Int8.ofInt (r.integer "bid_flag")
  deleted := r.integer "deleted" ≠ 0
  deletedCount := UInt8.ofNat (r.integer "deletedCount").toNat

def fileRecord (header : AuctionHeader) (auctions : List Record) : Record :=
  (Record.zero.setObject "header" header.toRecord).setObjectVector "auctions"
    auctions

def AuctionSimpleFile.toRecord (file : AuctionSimpleFile) : Record :=
  fileRecord file.header (file.auctions.map AuctionSimpleInfo.toRecord)

def AuctionSimpleFile.ofRecord (r : Record) : AuctionSimpleFile where
  header := AuctionHeader.ofRecord (r.object "header")
  auctions := (r.objectVector "auctions").map AuctionSimpleInfo.ofRecord

def AuctionFile.toRecord (file : AuctionFile) : Record :=
  fileRecord file.header (file.auctions.map AuctionInfo.toRecord)

def AuctionFile.ofRecord (r : Record) : AuctionFile where
  header := AuctionHeader.ofRecord (r.object "header")
  auctions := (r.objectVector "auctions").map AuctionInfo.ofRecord

end Auction
end Rzu
