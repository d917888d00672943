import Rzu.Auction.FileStructs
import Rzu.Packet.FieldSizes

/-!
# Layout of auction files

A file of the latest version has the fields that its values say, and its values
are what is read from these fields.
-/

namespace Rzu
namespace Auction

open Library Packet

theorem since_V4 (r : Record) : since AUCTION_V4 AUCTION_LATEST r = true := by
  rw [since]
  decide

theorem since_V6 (r : Record) : since AUCTION_V6 AUCTION_LATEST r = true := by
  rw [since]
  decide

theorem before_V5 : (!atLeast AUCTION_V5 AUCTION_LATEST) = false := by
  decide

theorem map_toNat (data : List UInt8) :
    data.map ((fun byte : Int => UInt8.ofNat byte.toNat) ∘
      fun byte => (byte.toNat : Int)) = data := by
  apply List.map_id''
  intro byte
  exact UInt8.ofNat_toNat

/-!
## Values that fit
-/

section Fits

theorem fits_natCast {T : IntType} (hunsigned : T.signed = false) {n : Nat}
    (h : n < 256 ^ T.size) : T.Fits n := by
  have hcast : ((256 ^ T.size : Nat) : Int) = T.modulus := by
    rw [IntType.modulus, Int.natCast_pow]
    rfl
  rw [IntType.Fits, hunsigned, if_neg Bool.false_ne_true]
  constructor
  · exact Int.natCast_nonneg n
  · rw [← hcast]
    exact Int.ofNat_lt.mpr h

theorem fits_uint8 (n : UInt8) : Fits uint8 uint8 (n.toNat : Int) :=
  have h := fits_natCast (T := uint8) rfl n.toNat_lt
  ⟨h, h⟩

theorem fits_uint16 (n : UInt16) : Fits uint16 uint16 (n.toNat : Int) :=
  have h := fits_natCast (T := uint16) rfl n.toNat_lt
  ⟨h, h⟩

theorem fits_uint32 (n : UInt32) : Fits uint32 uint32 (n.toNat : Int) :=
  have h := fits_natCast (T := uint32) rfl n.toNat_lt
  ⟨h, h⟩

theorem fits_bool (b : Bool) : Fits uint8 uint8 (b.toNat : Int) := by
  cases b with
  | false => exact ⟨by decide, by decide⟩
  | true => exact ⟨by decide, by decide⟩

theorem fits_int8 (n : Int8) : Fits int8 int8 n.toInt := by
  have hlow := n.le_toInt
  have hhigh := n.toInt_lt
  have h : int8.Fits n.toInt := by
    change -(256 ^ 1) ≤ 2 * n.toInt ∧ 2 * n.toInt < 256 ^ 1
    lia
  exact ⟨h, h⟩

theorem fits_int64 (n : Int64) : Fits int64 int64 n.toInt := by
  have hlow := n.le_toInt
  have hhigh := n.toInt_lt
  have h : int64.Fits n.toInt := by
    change -(256 ^ 8) ≤ 2 * n.toInt ∧ 2 * n.toInt < 256 ^ 8
    lia
  exact ⟨h, h⟩

end Fits

/-!
## Auctions
-/

/-- What the codec needs to know of the auctions of a file. -/
structure InfoFormat (Info : Type) where
  struct : Struct
  toRecord : Info -> Record
  ofRecord : Record -> Info
  /-- The sizes of the fields. -/
  fieldSizes : Info -> List Nat
  /-- The values that a file can hold. -/
  Writable : Info -> Prop
  plain : struct.Plain
  bounded : struct.Bounded
  counts : struct.CountsMatch []
  short : forall info, Writable info -> forall size,
    size ∈ fieldSizes info -> size < 65536
  positive : forall info, 0 < (fieldSizes info).sum
  sized : forall info, Writable info ->
    struct.Sized AUCTION_LATEST (toRecord info) Locals.initial 0
      (fieldSizes info)
  inRange : forall info, Writable info ->
    struct.InRange AUCTION_LATEST (toRecord info)
  conditions : forall info old,
    struct.SameConditions AUCTION_LATEST (toRecord info) old
  readBack : forall info, Writable info -> forall old,
    ofRecord (struct.overwrite AUCTION_LATEST (toRecord info) old) = info

namespace AuctionSimpleInfo

variable (info : AuctionSimpleInfo)

def fieldSizes : List Nat := [4, 8, 8, 2, 2, 4, 2, info.data.length]

theorem sized (h : info.data.length ≤ 65535) :
    AUCTION_SIMPLE_INFO.Sized AUCTION_LATEST info.toRecord Locals.initial 0
      info.fieldSizes := by
  have hdata : (info.toRecord.vector "data").length = info.data.length := by
    simp [toRecord]
  have hcount : (Locals.initial.setSize "data" (getClampedCount uint16
      (Container.vector.size info.toRecord "data"))).size "data" =
        (info.toRecord.vector "data").length := by
    rw [Container.size, hdata, getClampedCount_eq h]
    rfl
  have hlast : [uint8.size * (info.toRecord.vector "data").length] =
      [info.data.length] := by
    rw [hdata]
    exact congrArg (fun size => [size]) (Nat.one_mul _)
  rw [fieldSizes, ← hlast]
  refine Struct.Sized.simple (always_eq _ _) ?_
  refine Struct.Sized.simple (always_eq _ _) ?_
  refine Struct.Sized.simple (always_eq _ _) ?_
  refine Struct.Sized.simple (always_eq _ _) ?_
  refine Struct.Sized.simple (always_eq _ _) ?_
  refine Struct.Sized.simple (since_V6 _) ?_
  refine Struct.Sized.count (always_eq _ _) ?_
  exact Struct.Sized.dynarray (always_eq _ _) hcount Struct.Sized.nil

theorem inRange (h : info.data.length ≤ 65535) :
    AUCTION_SIMPLE_INFO.InRange AUCTION_LATEST info.toRecord := by
  have hdata : (info.toRecord.vector "data").length = info.data.length := by
    simp [toRecord]
  refine ⟨?_, ?_, ?_, ?_, ?_, ?_, ?_, ?_, trivial⟩
  all_goals intro _
  · simpa [Metatype.InRange, toRecord] using fits_uint32 info.uid
  · simpa [Metatype.InRange, toRecord] using fits_int64 info.time
  · simpa [Metatype.InRange, toRecord] using fits_int64 info.previousTime
  · simpa [Metatype.InRange, toRecord] using fits_uint16 info.diffType
  · simpa [Metatype.InRange, toRecord] using fits_uint16 info.category
  · simpa [Metatype.InRange, toRecord] using fits_uint32 info.epic
  · refine ⟨by decide, ?_⟩
    rw [Container.size, hdata]
    exact h
  · intro byte hbyte
    rw [toRecord, Record.vector_setVector, if_pos rfl] at hbyte
    rcases List.mem_map.mp hbyte with ⟨n, -, heq⟩
    rw [← heq]
    exact fits_uint8 n

theorem readBack (old : Record) :
    ofRecord (AUCTION_SIMPLE_INFO.overwrite AUCTION_LATEST info.toRecord
      old) = info := by
  simp [ofRecord, AUCTION_SIMPLE_INFO, Struct.overwrite, always_eq, since_V6,
    Metatype.restore, toRecord, map_toNat]

def format : InfoFormat AuctionSimpleInfo where
  struct := AUCTION_SIMPLE_INFO
  toRecord := toRecord
  ofRecord := ofRecord
  fieldSizes := fieldSizes
  Writable info := info.data.length ≤ 65535
  plain := ⟨rfl, rfl, rfl, rfl, rfl, rfl, rfl, rfl, trivial⟩
  bounded := ⟨rfl, rfl, rfl, rfl, rfl, rfl, rfl, rfl, trivial⟩
  counts := by
    simp [AUCTION_SIMPLE_INFO, Struct.CountsMatch, Metatype.reliesOn,
      Metatype.counts]
  short info h size hsize := by
    simp only [fieldSizes, List.mem_cons, List.not_mem_nil, or_false] at hsize
    lia
  positive info := by
    rw [fieldSizes, List.sum_cons]
    lia
  sized := sized
  inRange := inRange
  conditions info old := by
    simp [AUCTION_SIMPLE_INFO, Struct.SameConditions, always_eq, since]
  readBack info _ old := info.readBack old

end AuctionSimpleInfo

namespace AuctionInfo

variable (info : AuctionInfo)

/-- Values as the writer has them: what it parses and what it counts. -/
structure Writable (info : AuctionInfo) : Prop where
  data : info.data.length ≤ 65535
  seller : info.seller.length ≤ 30
  terminated : 0 ∉ info.seller
  deletedCount : info.deleted = false -> info.deletedCount = 0

def fieldSizes : List Nat :=
  [4, 8, 8, 1, 8, 8, 2, 2, 4, 2, info.data.length, 1, 8, 8, 31, 1, 1] ++
    (if info.deleted then [1] else [])

theorem toRecord_data :
    info.toRecord.vector "data" =
      info.data.map fun byte => (byte.toNat : Int) := by
  simp [toRecord, AuctionSimpleInfo.toRecord]

theorem toRecord_seller : info.toRecord.string "seller" = info.seller := by
  simp [toRecord]

theorem toRecord_deleted :
    info.toRecord.integer "deleted" = (info.deleted.toNat : Int) := by
  simp [toRecord]

theorem counted {r : Record}
    (h : r.integer "deleted" = (info.deleted.toNat : Int)) :
    deletedSinceV4 AUCTION_LATEST r = info.deleted := by
  rw [deletedSinceV4, h]
  cases info.deleted with
  | false => decide
  | true => decide

theorem sized (h : info.Writable) :
    AUCTION_INFO.Sized AUCTION_LATEST info.toRecord Locals.initial 0
      info.fieldSizes := by
  have hdata : (info.toRecord.vector "data").length = info.data.length := by
    rw [toRecord_data, List.length_map]
  have hcount : (Locals.initial.setSize "data" (getClampedCount uint16
      (Container.vector.size info.toRecord "data"))).size "data" =
        (info.toRecord.vector "data").length := by
    rw [Container.size, hdata, getClampedCount_eq h.data]
    rfl
  have hlength : uint8.size * (info.toRecord.vector "data").length =
      info.data.length := by
    rw [hdata]
    exact Nat.one_mul _
  have hcounts := info.counted info.toRecord_deleted
  rw [fieldSizes, ← hlength]
  refine Struct.Sized.simple (always_eq _ _) ?_
  refine Struct.Sized.simple (always_eq _ _) ?_
  refine Struct.Sized.simple (always_eq _ _) ?_
  refine Struct.Sized.simple (always_eq _ _) ?_
  refine Struct.Sized.simple (always_eq _ _) ?_
  refine Struct.Sized.simple (always_eq _ _) ?_
  refine Struct.Sized.simple (always_eq _ _) ?_
  refine Struct.Sized.simple (always_eq _ _) ?_
  refine Struct.Sized.simple (since_V6 _) ?_
  refine Struct.Sized.count (always_eq _ _) ?_
  refine Struct.Sized.dynarray (always_eq _ _) hcount ?_
  refine Struct.Sized.simple (since_V4 _) ?_
  refine Struct.Sized.simple (since_V4 _) ?_
  refine Struct.Sized.simple (since_V4 _) ?_
  refine Struct.Sized.string (since_V4 _) (by decide) ?_
  refine Struct.Sized.simple (since_V4 _) ?_
  refine Struct.Sized.simple (since_V4 _) ?_
  cases hdeleted : info.deleted with
  | false =>
      rw [hdeleted] at hcounts
      exact Struct.Sized.skip (Bool.eq_false_iff.mp hcounts)
        Struct.Sized.nil
  | true =>
      rw [hdeleted] at hcounts
      exact Struct.Sized.simple hcounts Struct.Sized.nil

theorem inRange (h : info.Writable) :
    AUCTION_INFO.InRange AUCTION_LATEST info.toRecord := by
  have hdata : (info.toRecord.vector "data").length = info.data.length := by
    rw [toRecord_data, List.length_map]
  refine ⟨?_, ?_, ?_, ?_, ?_, ?_, ?_, ?_, ?_, ?_, ?_, ?_, ?_, ?_, ?_, ?_, ?_,
    ?_, trivial⟩
  all_goals intro _
  · simpa [Metatype.InRange, toRecord, AuctionSimpleInfo.toRecord] using
      fits_uint32 info.uid
  · simpa [Metatype.InRange, toRecord, AuctionSimpleInfo.toRecord] using
      fits_int64 info.time
  · simpa [Metatype.InRange, toRecord, AuctionSimpleInfo.toRecord] using
      fits_int64 info.previousTime
  · simpa [Metatype.InRange, toRecord] using
      fits_bool info.estimatedEndTimeFromAdded
  · simpa [Metatype.InRange, toRecord] using
      fits_int64 info.estimatedEndTimeMin
  · simpa [Metatype.InRange, toRecord] using
      fits_int64 info.estimatedEndTimeMax
  · simpa [Metatype.InRange, toRecord, AuctionSimpleInfo.toRecord] using
      fits_uint16 info.diffType
  · simpa [Metatype.InRange, toRecord, AuctionSimpleInfo.toRecord] using
      fits_uint16 info.category
  · simpa [Metatype.InRange, toRecord, AuctionSimpleInfo.toRecord] using
      fits_uint32 info.epic
  · refine ⟨by decide, ?_⟩
    rw [Container.size, hdata]
    exact h.data
  · intro byte hbyte
    rw [toRecord_data] at hbyte
    rcases List.mem_map.mp hbyte with ⟨n, -, heq⟩
    rw [← heq]
    exact fits_uint8 n
  · simpa [Metatype.InRange, toRecord] using fits_uint8 info.duration_type
  · simpa [Metatype.InRange, toRecord] using fits_int64 info.bid_price
  · simpa [Metatype.InRange, toRecord] using fits_int64 info.price
  · rw [Metatype.InRange, toRecord_seller]
    exact ⟨Nat.lt_succ_of_le h.seller, h.terminated⟩
  · simpa [Metatype.InRange, toRecord] using fits_int8 info.bid_flag
  · simpa [Metatype.InRange, toRecord] using fits_bool info.deleted
  · simpa [Metatype.InRange, toRecord] using fits_uint8 info.deletedCount

theorem conditions (old : Record) :
    AUCTION_INFO.SameConditions AUCTION_LATEST info.toRecord old := by
  refine Struct.SameConditions.active (always_eq _ _) (always_eq _ _) ?_
  refine Struct.SameConditions.active (always_eq _ _) (always_eq _ _) ?_
  refine Struct.SameConditions.active (always_eq _ _) (always_eq _ _) ?_
  refine Struct.SameConditions.active (always_eq _ _) (always_eq _ _) ?_
  refine Struct.SameConditions.active (always_eq _ _) (always_eq _ _) ?_
  refine Struct.SameConditions.active (always_eq _ _) (always_eq _ _) ?_
  refine Struct.SameConditions.active (always_eq _ _) (always_eq _ _) ?_
  refine Struct.SameConditions.active (always_eq _ _) (always_eq _ _) ?_
  refine Struct.SameConditions.active (since_V6 _) (since_V6 _) ?_
  refine Struct.SameConditions.active (always_eq _ _) (always_eq _ _) ?_
  refine Struct.SameConditions.active (always_eq _ _) (always_eq _ _) ?_
  refine Struct.SameConditions.active (since_V4 _) (since_V4 _) ?_
  refine Struct.SameConditions.active (since_V4 _) (since_V4 _) ?_
  refine Struct.SameConditions.active (since_V4 _) (since_V4 _) ?_
  refine Struct.SameConditions.active (since_V4 _) (since_V4 _) ?_
  refine Struct.SameConditions.active (since_V4 _) (since_V4 _) ?_
  refine Struct.SameConditions.active (since_V4 _) (since_V4 _) ?_
  refine ⟨?_, trivial⟩
  rw [info.counted info.toRecord_deleted]
  apply info.counted
  rw [Metatype.restore, Record.integer_setInteger, if_pos rfl,
    toRecord_deleted]

theorem readBack (h : info.Writable) (old : Record) :
    ofRecord (AUCTION_INFO.overwrite AUCTION_LATEST info.toRecord old) =
      info := by
  have hcounted := info.counted info.toRecord_deleted
  have hcast := uint8.cast_eq (n := 0) (by decide)
  simp only [AUCTION_INFO, Struct.overwrite, always_eq, since_V4, since_V6,
    ↓reduceIte, hcounted]
  cases info with
  | mk simple fromAdded min max duration bid price seller flag deleted count =>
      cases deleted with
      | false =>
          have hzero : count = 0 := h.deletedCount rfl
          simp [ofRecord, AuctionSimpleInfo.ofRecord, Metatype.restore,
            Metatype.copyDefaultValue, toRecord, AuctionSimpleInfo.toRecord,
            map_toNat, hcast, hzero]
      | true =>
          simp [ofRecord, AuctionSimpleInfo.ofRecord, Metatype.restore,
            toRecord, AuctionSimpleInfo.toRecord, map_toNat]

/-- The auctions of a complex file. -/
def format : InfoFormat AuctionInfo where
  struct := AUCTION_INFO
  toRecord := toRecord
  ofRecord := ofRecord
  fieldSizes := fieldSizes
  Writable := Writable
  plain := by simp [AUCTION_INFO, Struct.Plain, Metatype.isPlain]
  bounded := by simp [AUCTION_INFO, Struct.Bounded, Metatype.isBounded]
  counts := by
    simp [AUCTION_INFO, Struct.CountsMatch, Metatype.reliesOn,
      Metatype.counts]
  short info h size hsize := by
    have hdata := h.data
    rw [fieldSizes, List.mem_append] at hsize
    rcases hsize with hsize | hsize
    · simp only [List.mem_cons, List.not_mem_nil, or_false] at hsize
      omega
    · split at hsize
      · rw [List.mem_singleton] at hsize
        lia
      · cases hsize
  positive info := by
    rw [fieldSizes, List.cons_append, List.sum_cons]
    lia
  sized := sized
  inRange := inRange
  conditions := conditions
  readBack := readBack

end AuctionInfo

/-!
## Headers
-/

theorem AuctionCategoryInfo.sized (category : AuctionCategoryInfo) :
    AUCTION_CATEGORY_INFO.Sized AUCTION_LATEST category.toRecord
      Locals.initial 0 [8, 8] := by
  refine Struct.Sized.skip (Bool.eq_false_iff.mp before_V5) ?_
  refine Struct.Sized.simple (always_eq _ _) ?_
  exact Struct.Sized.simple (always_eq _ _) Struct.Sized.nil

theorem AuctionCategoryInfo.inRange (category : AuctionCategoryInfo) :
    AUCTION_CATEGORY_INFO.InRange AUCTION_LATEST category.toRecord := by
  refine ⟨?_, ?_, ?_, trivial⟩
  · intro hactive
    exact absurd hactive (Bool.eq_false_iff.mp before_V5)
  · intro _
    simpa [Metatype.InRange, toRecord] using fits_int64 category.beginTime
  · intro _
    simpa [Metatype.InRange, toRecord] using fits_int64 category.endTime

theorem AuctionCategoryInfo.readBack (category : AuctionCategoryInfo)
    (old : Record) :
    ofRecord (AUCTION_CATEGORY_INFO.overwrite AUCTION_LATEST
      category.toRecord old) = category := by
  simp [ofRecord, AUCTION_CATEGORY_INFO, Struct.overwrite, before_V5,
    always_eq, Metatype.restore, Metatype.copyDefaultValue, toRecord]

theorem map_overwriteEach {Item : Type} {toRecord : Item -> Record}
    {ofRecord : Record -> Item} {overwrite : Record -> Record -> Record}
    {items : List Item}
    (h : forall item, item ∈ items ->
      forall old, ofRecord (overwrite (toRecord item) old) = item)
    {olds : List Record} (hlength : olds.length = items.length) :
    (overwriteEach overwrite (items.map toRecord) olds).map ofRecord =
      items := by
  induction items generalizing olds with
  | nil => rfl
  | cons item items ih =>
      cases olds with
      | nil => cases hlength
      | cons old olds =>
          rw [List.map_cons, overwriteEach, List.map_cons,
            h item List.mem_cons_self,
            ih (fun item hitem => h item (List.mem_cons_of_mem _ hitem))
              (Nat.succ.inj hlength)]

theorem forall₂_sized {Item : Type} {type : Struct}
    {toRecord : Item -> Record} {sizes : Item -> List Nat}
    {items : List Item}
    (h : forall item, item ∈ items ->
      type.Sized AUCTION_LATEST (toRecord item) Locals.initial 0
        (sizes item)) :
    List.Forall₂ (fun r sizes =>
      type.Sized AUCTION_LATEST r Locals.initial 0 sizes)
      (items.map toRecord) (items.map sizes) := by
  rw [List.forall₂_map_left_iff, List.forall₂_map_right_iff,
    List.forall₂_same]
  exact h

namespace AuctionHeader

variable (header : AuctionHeader)

/-- A signature of four bytes, and categories that can be counted. -/
structure Writable (header : AuctionHeader) : Prop where
  signature : header.signature.length = 4
  categories : header.categories.length < 65536

def fieldSizes : List Nat :=
  [4, 4, 1, 2] ++ (header.categories.map fun _ => [8, 8]).flatten

theorem toRecord_categories :
    header.toRecord.objectVector "categories" =
      header.categories.map AuctionCategoryInfo.toRecord := by
  rw [toRecord, Record.objectVector_setObjectVector, if_pos rfl]

theorem sized (h : header.Writable) :
    AUCTION_HEADER.Sized AUCTION_LATEST header.toRecord Locals.initial 0
      header.fieldSizes := by
  have hlength : (header.toRecord.objectVector "categories").length =
      header.categories.length := by
    rw [toRecord_categories, List.length_map]
  have hcount : (Locals.initial.setSize "categories" (getClampedCount uint16
      (Container.objectVector.size header.toRecord "categories"))).size
        "categories" =
          (header.toRecord.objectVector "categories").length := by
    rw [Container.size, hlength,
      getClampedCount_eq (Nat.le_of_lt_succ h.categories)]
    rfl
  have hitems : List.Forall₂ (fun r sizes =>
      AUCTION_CATEGORY_INFO.Sized AUCTION_LATEST r Locals.initial 0 sizes)
      (header.toRecord.objectVector "categories")
      (header.categories.map fun _ => [8, 8]) := by
    rw [toRecord_categories]
    exact forall₂_sized fun category _ => category.sized
  rw [fieldSizes, ← List.append_nil (List.flatten _)]
  refine Struct.Sized.array (always_eq _ _) ?_
  refine Struct.Sized.simple (always_eq _ _) ?_
  refine Struct.Sized.simple (always_eq _ _) ?_
  refine Struct.Sized.count (always_eq _ _) ?_
  exact Struct.Sized.objectVector (always_eq _ _) hcount hitems
    Struct.Sized.nil

theorem inRange (h : header.Writable) :
    AUCTION_HEADER.InRange AUCTION_LATEST header.toRecord := by
  refine ⟨?_, ?_, ?_, ?_, ?_, trivial⟩
  all_goals intro _
  · intro i hi
    simpa [toRecord] using fits_uint8 (header.signature.getD i 0)
  · simpa [Metatype.InRange, toRecord] using fits_uint32 header.file_version
  · simpa [Metatype.InRange, toRecord] using fits_int8 header.dumpType
  · refine ⟨by decide, ?_⟩
    rw [Container.size, toRecord_categories, List.length_map]
    exact Nat.le_of_lt_succ h.categories
  · rw [Shape.items, toRecord_categories]
    refine ⟨?_, ?_⟩
    · intro item hitem
      rcases List.mem_map.mp hitem with ⟨category, -, heq⟩
      rw [← heq]
      exact category.inRange
    · intro _
      refine ⟨?_, ?_⟩
      · rw [List.length_map]
        exact h.categories
      · intro item hitem chunks hchunks
        rcases List.mem_map.mp hitem with ⟨category, -, heq⟩
        rw [← heq] at hchunks
        rw [category.sized.length hchunks]
        decide

theorem readBack (h : header.Writable) (old : Record) :
    ofRecord (AUCTION_HEADER.overwrite AUCTION_LATEST header.toRecord old) =
      header := by
  have hcategories : ((AUCTION_HEADER.overwrite AUCTION_LATEST
      header.toRecord old).objectVector "categories").map
        AuctionCategoryInfo.ofRecord = header.categories := by
    have hrestored : (AUCTION_HEADER.overwrite AUCTION_LATEST header.toRecord
        old).objectVector "categories" =
          overwriteEach (fun r g =>
            AUCTION_CATEGORY_INFO.overwrite AUCTION_LATEST r g)
            (header.categories.map AuctionCategoryInfo.toRecord)
            (resize header.categories.length
              (old.objectVector "categories")) := by
      simp only [AUCTION_HEADER, Struct.overwrite, always_eq, ↓reduceIte,
        Shape.restore, Record.objectVector_setObjectVector,
        toRecord_categories, List.length_map]
      rfl
    rw [hrestored]
    exact map_overwriteEach (fun category _ old => category.readBack old)
      (resize_length _ _)
  have hsignature : (List.range 4).map (fun i => UInt8.ofNat
      ((AUCTION_HEADER.overwrite AUCTION_LATEST header.toRecord old).array
        "signature" i).toNat) = header.signature := by
    apply List.ext_getElem
    · rw [List.length_map, List.length_range, h.signature]
    · intro i hi hi'
      have hrestored : (AUCTION_HEADER.overwrite AUCTION_LATEST
          header.toRecord old).array "signature" i =
            if i < 4 then ((header.signature.getD i 0).toNat : Int)
            else old.array "signature" i := by
        simp [AUCTION_HEADER, Struct.overwrite, always_eq, Metatype.restore,
          Shape.restore, toRecord]
      rw [List.getElem_map, List.getElem_range, hrestored,
        if_pos (by rwa [h.signature] at hi'), Int.toNat_natCast,
        UInt8.ofNat_toNat, List.getD_eq_getElem?_getD,
        List.getElem?_eq_getElem hi', Option.getD_some]
  have hversion : (AUCTION_HEADER.overwrite AUCTION_LATEST header.toRecord
      old).integer "file_version" = header.file_version.toNat := by
    simp [AUCTION_HEADER, Struct.overwrite, always_eq, Metatype.restore,
      Shape.restore, toRecord]
  have hdumpType : (AUCTION_HEADER.overwrite AUCTION_LATEST header.toRecord
      old).integer "dumpType" = header.dumpType.toInt := by
    simp [AUCTION_HEADER, Struct.overwrite, always_eq, Metatype.restore,
      Shape.restore, toRecord]
  rw [ofRecord, hcategories, hsignature, hversion, hdumpType,
    Int.toNat_natCast, UInt32.ofNat_toNat, Int8.ofInt_toInt]

theorem conditions (old : Record) :
    AUCTION_HEADER.SameConditions AUCTION_LATEST header.toRecord old := by
  have hversion : AUCTION_HEADER.VersionConditions := by
    simp [AUCTION_HEADER, AUCTION_CATEGORY_INFO, Struct.VersionConditions,
      always_eq]
  exact hversion.same _ _ _

end AuctionHeader

/-!
## Files
-/

namespace InfoFormat

variable {Info : Type} (F : InfoFormat Info)
variable {header : AuctionHeader} {auctions : List Info}

def fileStruct : Struct := auctionFileStruct F.struct

def fileRecord (header : AuctionHeader) (auctions : List Info) : Record :=
  Auction.fileRecord header (auctions.map F.toRecord)

def fileSize (header : AuctionHeader) (auctions : List Info) : Nat :=
  15 + 16 * header.categories.length +
    (auctions.map fun info => (F.fieldSizes info).sum).sum

def fileFieldSizes (header : AuctionHeader) (auctions : List Info) :
    List Nat :=
  header.fieldSizes ++ (4 :: (auctions.map F.fieldSizes).flatten)

theorem sum_fileFieldSizes (header : AuctionHeader) (auctions : List Info) :
    (F.fileFieldSizes header auctions).sum = F.fileSize header auctions := by
  have hcategories : forall categories : List AuctionCategoryInfo,
      (categories.map fun _ => [8, 8]).flatten.sum =
        16 * categories.length := by
    intro categories
    induction categories with
    | nil => rfl
    | cons first rest ih =>
        rw [List.map_cons, List.flatten_cons, List.sum_append, ih,
          List.length_cons]
        change 16 + _ = _
        lia
  have hauctions : (4 :: (auctions.map F.fieldSizes).flatten).sum =
      4 + (auctions.map fun info => (F.fieldSizes info).sum).sum := by
    rw [List.sum_cons, List.sum_flatten, List.map_map]
    rfl
  rw [fileFieldSizes, List.sum_append, AuctionHeader.fieldSizes,
    List.sum_append, hcategories, hauctions, fileSize]
  change 11 + _ + (4 + _) = _
  lia

theorem fileRecord_header :
    (F.fileRecord header auctions).object "header" = header.toRecord := by
  have hobject : (F.fileRecord header auctions).object "header" =
      (Record.zero.setObject "header" header.toRecord).object "header" := rfl
  rw [hobject, Record.object_setObject, if_pos rfl]

theorem fileRecord_auctions :
    (F.fileRecord header auctions).objectVector "auctions" =
      auctions.map F.toRecord := by
  rw [fileRecord, Auction.fileRecord, Record.objectVector_setObjectVector,
    if_pos rfl]

theorem filePlain : F.fileStruct.Plain := by
  refine ⟨?_, rfl, F.plain, trivial⟩
  simp [AUCTION_HEADER, AUCTION_CATEGORY_INFO, Struct.Plain,
    Metatype.isPlain]

theorem fileBounded : F.fileStruct.Bounded := by
  refine ⟨rfl, ?_, rfl, rfl, F.bounded, trivial⟩
  simp [AUCTION_HEADER, AUCTION_CATEGORY_INFO, Struct.Bounded,
    Metatype.isBounded, Shape.isBounded]

theorem fileCounts : F.fileStruct.CountsMatch [] := by
  have hheader : AUCTION_HEADER.CountsMatch [] := by
    simp [AUCTION_HEADER, AUCTION_CATEGORY_INFO, Struct.CountsMatch,
      Metatype.reliesOn, Metatype.counts]
  refine ⟨?_, hheader, ?_, ?_, ?_, F.counts, trivial⟩
  · intro hdynarray
    cases hdynarray
  · intro c hc
    cases hc
  · intro c hc c' hc'
    cases hc'
  · intro _
    exact List.mem_append_left _ List.mem_cons_self

/-- A file of which every value can be written. -/
structure Writes (header : AuctionHeader) (auctions : List Info) : Prop where
  header : header.Writable
  few : auctions.length < 65536
  each : forall info, info ∈ auctions -> F.Writable info

variable {F}

theorem Writes.sized (h : F.Writes header auctions) :
    F.fileStruct.Sized AUCTION_LATEST (F.fileRecord header auctions)
      Locals.initial 0 (F.fileFieldSizes header auctions) := by
  have hlength : ((F.fileRecord header auctions).objectVector
      "auctions").length = auctions.length := by
    rw [fileRecord_auctions, List.length_map]
  have hmax : auctions.length ≤ uint32.max := by
    have hfew := h.few
    have hmax : uint32.max = 4294967295 := by decide
    lia
  have hcount : (Locals.initial.setSize "auctions" (getClampedCount uint32
      (Container.objectVector.size (F.fileRecord header auctions)
        "auctions"))).size "auctions" =
          ((F.fileRecord header auctions).objectVector "auctions").length := by
    rw [Container.size, hlength, getClampedCount_eq hmax]
    rfl
  have hitems : List.Forall₂ (fun r sizes =>
      F.struct.Sized AUCTION_LATEST r Locals.initial 0 sizes)
      ((F.fileRecord header auctions).objectVector "auctions")
      (auctions.map F.fieldSizes) := by
    rw [fileRecord_auctions]
    exact forall₂_sized fun info hinfo => F.sized info (h.each info hinfo)
  have hobject : (F.fileRecord header auctions).object "header" =
      header.toRecord := F.fileRecord_header
  have hheader := header.sized h.header
  rw [← hobject] at hheader
  rw [fileFieldSizes, ← List.append_nil (List.flatten _)]
  refine Struct.Sized.object (always_eq _ _) hheader ?_
  refine Struct.Sized.count (always_eq _ _) ?_
  exact Struct.Sized.objectVector (always_eq _ _) hcount hitems
    Struct.Sized.nil

theorem Writes.short (h : F.Writes header auctions) {size : Nat}
    (hsize : size ∈ F.fileFieldSizes header auctions) : size < 65536 := by
  rw [fileFieldSizes, AuctionHeader.fieldSizes, List.append_assoc,
    List.mem_append, List.mem_append] at hsize
  rcases hsize with hfront | hcategory | hlast
  · simp only [List.mem_cons, List.not_mem_nil, or_false] at hfront
    omega
  · rcases List.mem_flatten.mp hcategory with ⟨sizes, hsizes, hsize⟩
    rcases List.mem_map.mp hsizes with ⟨category, -, heq⟩
    rw [← heq] at hsize
    simp only [List.mem_cons, List.not_mem_nil, or_false, or_self] at hsize
    omega
  · rcases List.mem_cons.mp hlast with hcount | hauction
    · omega
    · rcases List.mem_flatten.mp hauction with ⟨sizes, hsizes, hsize⟩
      rcases List.mem_map.mp hsizes with ⟨info, hinfo, heq⟩
      rw [← heq] at hsize
      exact F.short info (h.each info hinfo) size hsize

theorem Writes.inRange (h : F.Writes header auctions) :
    F.fileStruct.InRange AUCTION_LATEST (F.fileRecord header auctions) := by
  refine ⟨?_, ?_, ?_, trivial⟩
  all_goals intro _
  · refine ⟨?_, ?_⟩
    · intro item hitem
      rw [Shape.items, List.mem_singleton, fileRecord_header] at hitem
      rw [hitem]
      exact header.inRange h.header
    · intro hdynarray
      cases hdynarray
  · refine ⟨by decide, ?_⟩
    have hfew := h.few
    have hmax : uint32.max = 4294967295 := by decide
    rw [Container.size, fileRecord_auctions, List.length_map]
    lia
  · rw [Shape.items, fileRecord_auctions]
    refine ⟨?_, fun _ => ⟨?_, ?_⟩⟩
    · intro item hitem
      rcases List.mem_map.mp hitem with ⟨info, hinfo, heq⟩
      rw [← heq]
      exact F.inRange info (h.each info hinfo)
    · rw [List.length_map]
      exact h.few
    · intro item hitem chunks hchunks
      rcases List.mem_map.mp hitem with ⟨info, hinfo, heq⟩
      rw [← heq] at hchunks
      rw [(F.sized info (h.each info hinfo)).length hchunks]
      exact F.positive info

theorem fileConditions (header : AuctionHeader) (auctions : List Info)
    (old : Record) :
    F.fileStruct.SameConditions AUCTION_LATEST (F.fileRecord header auctions)
      old := by
  refine ⟨rfl, ?_, rfl, rfl, ?_, trivial⟩
  · intro _ item hitem old
    rw [Shape.items, List.mem_singleton, fileRecord_header] at hitem
    rw [hitem]
    exact header.conditions old
  · intro _ item hitem old
    rw [Shape.items, fileRecord_auctions] at hitem
    rcases List.mem_map.mp hitem with ⟨info, -, heq⟩
    rw [← heq]
    exact F.conditions info old

theorem Writes.readBack (h : F.Writes header auctions) :
    let r := F.fileStruct.overwrite AUCTION_LATEST
      (F.fileRecord header auctions) Record.zero
    AuctionHeader.ofRecord (r.object "header") = header ∧
      (r.objectVector "auctions").map F.ofRecord = auctions := by
  have hobject : (F.fileStruct.overwrite AUCTION_LATEST
      (F.fileRecord header auctions) Record.zero).object "header" =
        AUCTION_HEADER.overwrite AUCTION_LATEST header.toRecord
          (Record.zero.object "header") := by
    simp only [fileStruct, auctionFileStruct, Struct.overwrite, always_eq,
      ↓reduceIte, Shape.restore, Metatype.restore, fileRecord_header]
    change (Record.zero.setObject "header" _).object "header" = _
    rw [Record.object_setObject, if_pos rfl]
  have hobjects : (F.fileStruct.overwrite AUCTION_LATEST
      (F.fileRecord header auctions) Record.zero).objectVector "auctions" =
        overwriteEach (fun r g => F.struct.overwrite AUCTION_LATEST r g)
          (auctions.map F.toRecord) (resize auctions.length []) := by
    simp only [fileStruct, auctionFileStruct, Struct.overwrite, always_eq,
      ↓reduceIte, Shape.restore, Metatype.restore, fileRecord_auctions,
      Record.objectVector_setObjectVector, List.length_map]
    rfl
  constructor
  · rw [hobject]
    exact header.readBack h.header _
  · rw [hobjects]
    exact map_overwriteEach
      (fun info hinfo old => F.readBack info (h.each info hinfo) old)
      (resize_length _ _)

end InfoFormat

end Auction
end Rzu
