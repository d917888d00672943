import Mathlib.Algebra.Ring.Nat

/-!
# Dumps of auctions

What the auction writers export and import: a header with the times of the
categories, and the auctions.
-/

namespace Rzu
namespace Auction

inductive DiffType where
  | added
  | updated
  | deleted
  | unmodified
  | base
  | maybeDeleted
  | invalid
deriving DecidableEq

namespace DiffType

def toUInt16 : DiffType -> UInt16
  | added => 0
  | updated => 1
  | deleted => 2
  | unmodified => 3
  | base => 4
  | maybeDeleted => 5
  | invalid => 0xFFFF

/-- The cast of a number, which may be none of the enumerators. -/
def ofUInt16? (n : UInt16) : Option DiffType :=
  [added, updated, deleted, unmodified, base, maybeDeleted, invalid].find?
    fun diffType => diffType.toUInt16 = n

theorem ofUInt16?_toUInt16 (diffType : DiffType) :
    ofUInt16? diffType.toUInt16 = some diffType := by
  cases diffType <;> rfl

end DiffType

inductive DumpType where
  | diff
  | full
deriving DecidableEq

def DumpType.toInt8 : DumpType -> Int8
  | diff => 0
  | full => 1

def AUCTION_LATEST : UInt32 := 6

structure AuctionCategoryInfo where
  beginTime : Int64
  endTime : Int64
deriving DecidableEq

structure AuctionHeader where
  signature : List UInt8
  file_version : UInt32
  dumpType : Int8
  categories : List AuctionCategoryInfo
deriving DecidableEq

structure AuctionSimpleInfo where
  uid : UInt32
  time : Int64
  previousTime : Int64
  diffType : UInt16
  category : UInt16
  epic : UInt32
  data : List UInt8
deriving DecidableEq

structure AuctionInfo extends AuctionSimpleInfo where
  estimatedEndTimeFromAdded : Bool
  estimatedEndTimeMin : Int64
  estimatedEndTimeMax : Int64
  duration_type : UInt8
  bid_price : Int64
  price : Int64
  seller : List UInt8
  bid_flag : Int8
  deleted : Bool
  deletedCount : UInt8
deriving DecidableEq

structure AuctionSimpleFile where
  header : AuctionHeader
  auctions : List AuctionSimpleInfo
deriving DecidableEq

structure AuctionFile where
  header : AuctionHeader
  auctions : List AuctionInfo
deriving DecidableEq

/-!
## Times of the categories
-/

structure CategoryTime where
  previousBegin : Int64
  previousEnd : Int64
  beginTime : Int64
  endTime : Int64
deriving DecidableEq

namespace CategoryTime

def zero : CategoryTime := ⟨0, 0, 0, 0⟩

def resetTimes (t : CategoryTime) (minimalBegin : Int64) : CategoryTime where
  previousBegin := t.beginTime
  previousEnd := t.endTime
  beginTime := minimalBegin
  endTime := minimalBegin

end CategoryTime

structure CategoryTimeManager where
  categoryTime : List CategoryTime
deriving DecidableEq

namespace CategoryTimeManager

def create (categoryCount : Nat) : CategoryTimeManager where
  categoryTime := List.replicate categoryCount CategoryTime.zero

def getCategoryNumber (m : CategoryTimeManager) : Nat := m.categoryTime.length

/-- `getCategoryTime` makes room for a category that is not there. -/
def reserve (m : CategoryTimeManager) (category : Nat) :
    CategoryTimeManager where
  categoryTime := m.categoryTime ++
    List.replicate (category + 1 - m.categoryTime.length) CategoryTime.zero

/-- Assign to `getCategoryTime(category)`. -/
def modifyCategoryTime (m : CategoryTimeManager) (category : Nat)
    (f : CategoryTime -> CategoryTime) : CategoryTimeManager where
  categoryTime := (m.reserve category).categoryTime.modify category f

def beginCategory (m : CategoryTimeManager) (category : Nat) (time : Int64) :
    CategoryTimeManager :=
  m.modifyCategoryTime category fun t => { t with beginTime := time }

def endCategory (m : CategoryTimeManager) (category : Nat) (time : Int64) :
    CategoryTimeManager :=
  m.modifyCategoryTime category fun t => { t with endTime := time }

def adjustCategoryTimeRange (m : CategoryTimeManager) (category : Nat)
    (time : Int64) : CategoryTimeManager :=
  m.modifyCategoryTime category fun t =>
    let t := if t.beginTime = 0 ∨ t.beginTime > time then
      { t with beginTime := time } else t
    if t.endTime < time then { t with endTime := time } else t

/-- The latest of some times. -/
def maxTime (times : List Int64) : Int64 :=
  times.foldl (fun latest time => if time > latest then time else latest) 0

/-- A category that is not there counts as one without times. -/
def getEstimatedPreviousCategoryBeginTime (m : CategoryTimeManager)
    (category : Nat) : Int64 :=
  maxTime ((m.categoryTime.take (category + 1)).map
    CategoryTime.previousBegin).reverse

def getEstimatedCategoryBeginTime (m : CategoryTimeManager)
    (category : Nat) : Int64 :=
  maxTime ((m.categoryTime.take (category + 1)).map
    CategoryTime.beginTime).reverse

def getEstimatedCategoryEndTime (m : CategoryTimeManager)
    (category : Nat) : Int64 :=
  maxTime ((m.categoryTime.take (category + 1)).map
    CategoryTime.endTime).reverse

def getLastEndCategoryTime (m : CategoryTimeManager) : Int64 :=
  maxTime (m.categoryTime.map CategoryTime.endTime)

def resetCategoryTime (m : CategoryTimeManager) : CategoryTimeManager where
  categoryTime := m.categoryTime.map fun t =>
    t.resetTimes m.getLastEndCategoryTime

/-- The times are read where `endProcess` has moved them to. -/
def serializeHeader (m : CategoryTimeManager) (dumpType : DumpType) :
    AuctionHeader where
  signature := [82, 65, 72, 0]
  file_version := AUCTION_LATEST
  dumpType := dumpType.toInt8
  categories := m.categoryTime.map fun t => ⟨t.previousBegin, t.previousEnd⟩

def deserializeHeader (header : AuctionHeader) : CategoryTimeManager :=
  resetCategoryTime ⟨header.categories.map fun category =>
    { CategoryTime.zero with
      beginTime := category.beginTime
      endTime := category.endTime }⟩

/-- `endProcess` has just moved the times. -/
def JustReset (m : CategoryTimeManager) : Prop :=
  exists before : CategoryTimeManager, m = before.resetCategoryTime

theorem create_justReset (categoryCount : Nat) :
    (create categoryCount).JustReset := by
  refine ⟨create categoryCount, ?_⟩
  have hlast : (create categoryCount).getLastEndCategoryTime = 0 := by
    rw [getLastEndCategoryTime, create, List.map_replicate]
    induction categoryCount with
    | zero => rfl
    | succ n ih => exact ih
  rw [resetCategoryTime, hlast, create, List.map_replicate]
  rfl

theorem deserializeHeader_serializeHeader {m : CategoryTimeManager}
    (h : m.JustReset) (dumpType : DumpType) :
    deserializeHeader (m.serializeHeader dumpType) = m := by
  rcases h with ⟨before, heq⟩
  subst heq
  rw [deserializeHeader, serializeHeader, resetCategoryTime,
    resetCategoryTime]
  have hlast : getLastEndCategoryTime ⟨(before.resetCategoryTime.categoryTime.map
      fun t => (⟨t.previousBegin, t.previousEnd⟩ : AuctionCategoryInfo)).map
        fun category => { CategoryTime.zero with
          beginTime := category.beginTime
          endTime := category.endTime }⟩ = before.getLastEndCategoryTime := by
    rw [getLastEndCategoryTime, getLastEndCategoryTime, resetCategoryTime,
      List.map_map, List.map_map, List.map_map]
    rfl
  rw [resetCategoryTime] at hlast
  rw [hlast, List.map_map, List.map_map, List.map_map]
  rfl

end CategoryTimeManager

end Auction
end Rzu
