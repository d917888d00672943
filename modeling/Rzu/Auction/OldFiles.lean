import Rzu.Auction.AuctionWriter

/-!
# Files of the first versions

A file is told by its first bytes, and an old one is read record by record.
The size of a record stands in it, and only that it does not lead behind the
end is tested: a record that is smaller than its own header, or that ends less
than four bytes behind it, is not read safely.
-/

namespace Rzu
namespace Auction

open Library Packet

namespace OldFile

open AuctionWriter (AuctionFileFormat OldHeader readAt)

/--
What must not happen.  A range that ends before it begins is none of the
vector, and what becomes of it is not defined.
-/
inductive Fault where
  | divisionByZero
  | outOfRange
  | invalidRange
deriving DecidableEq

def readBytes (data : List UInt8) (offset size : Nat) :
    Except Fault (List UInt8) :=
  if offset + size ≤ data.length then
    Except.ok ((data.drop offset).take size)
  else Except.error Fault.outOfRange

/-- The bytes from an address to one that a `size_t` is added to. -/
def readRange (data : List UInt8) (offset size : Nat) :
    Except Fault (List UInt8) :=
  if 2 ^ 63 ≤ size then Except.error Fault.invalidRange
  else readBytes data offset size

def divide (n m : Nat) : Except Fault Nat :=
  if m = 0 then Except.error Fault.divisionByZero else Except.ok (n / m)

def readNat (data : List UInt8) (offset size : Nat) : Except Fault Nat :=
  (readBytes data offset size).map leNat

/-- `strcmp`, which stops at the first difference. -/
def strcmpAt (data : List UInt8) : Nat -> List UInt8 -> Except Fault Bool
  | _, [] => Except.ok true
  | offset, c :: cs => do
      let byte <- readBytes data offset 1
      if byte = [c] then strcmpAt data (offset + 1) cs else Except.ok false

/-- Nothing is compared in a file that is too short. -/
def hasSignature (data signature : List UInt8) : Except Fault Bool :=
  if data.length > 8 then strcmpAt data 0 signature else Except.ok false

def getAuctionFileFormat (data : List UInt8) :
    Except Fault (Option (Nat × AuctionFileFormat)) := do
  if (<- hasSignature data [82, 65, 72, 0]) then
    return some (<- readNat data 4 4, AuctionFileFormat.complex)
  if (<- hasSignature data [82, 72, 83, 0]) then
    return some (<- readNat data 4 4, AuctionFileFormat.simple)
  if data.length > 8 then
    let version <- readNat data 4 2
    let trueVersion := if version > 1000 then 0 else version
    let size <- readNat data 0 4
    if size > 4096 ∨ trueVersion > 2 then return none
    return some (trueVersion, AuctionFileFormat.old)
  return some (0, AuctionFileFormat.old)

/-! ## Records -/

/-- `sizeof(*header) + header->getSize()`, as a `size_t`. -/
def stride (header : OldHeader) (bytes : List UInt8) : Nat :=
  (((header.sizeof : Int) + header.getSize bytes) % 2 ^ 64).toNat

/-- `header->getSize()`, as a `size_t`. -/
def dataSize (header : OldHeader) (bytes : List UInt8) : Nat :=
  (header.getSize bytes % 2 ^ 64).toNat

structure OldReader where
  p : Nat
  reserved : Bool
  auctions : List AuctionSimpleInfo
deriving DecidableEq

/-- One pass of the loop; a record that is too large ends it. -/
def readRecord (header : OldHeader) (data : List UInt8) (s : OldReader) :
    Except Fault (Option OldReader) := do
  let remainingDataSize := data.length - s.p
  if header.sizeof > remainingDataSize then return none
  let bytes <- readBytes data s.p header.sizeof
  if stride header bytes > remainingDataSize then return none
  if s.reserved = false then
    let _ <- divide data.length (stride header bytes)
  let uid <- readNat data (s.p + header.sizeof) 4
  let rawData <- readRange data (s.p + header.sizeof) (dataSize header bytes)
  return some
    { p := s.p + stride header bytes
      reserved := true
      auctions := s.auctions ++
        [{ uid := UInt32.ofNat uid
           time := header.getTime bytes
           previousTime := header.getPreviousTime bytes
           diffType := header.getFlag bytes
           category := header.getCategory bytes
           epic := 0xFFFFFF
           data := rawData }] }

/-- So many passes at most; the result says whether all of it was read. -/
def deserializeOldFile (header : OldHeader) (data : List UInt8) :
    Nat -> OldReader -> Option (Except Fault (Bool × List AuctionSimpleInfo))
  | 0, _ => none
  | fuel + 1, s =>
      if s.p < data.length then
        match readRecord header data s with
        | Except.error fault => some (Except.error fault)
        | Except.ok none => some (Except.ok (false, s.auctions))
        | Except.ok (some s') => deserializeOldFile header data fuel s'
      else some (Except.ok (true, s.auctions))

def start : OldReader := ⟨0, false, []⟩

/--
The format is told, and if it is an old one, the reading ends without any
fault.
-/
def ReadsSafely (data : List UInt8) : Prop :=
  exists format, getAuctionFileFormat data = Except.ok format ∧
    forall version header,
      format = some (version, AuctionFileFormat.old) ->
        OldHeader.ofVersion version = some header ->
          exists fuel result,
            deserializeOldFile header data fuel start =
              some (Except.ok result)

/-! ## The format -/

section Format

variable {data : List UInt8}

theorem readBytes_of_le {offset size : Nat}
    (h : offset + size ≤ data.length) :
    readBytes data offset size = Except.ok ((data.drop offset).take size) :=
  if_pos h

theorem readNat_of_le {offset size : Nat}
    (h : offset + size ≤ data.length) :
    readNat data offset size = Except.ok (readAt data offset size) := by
  rw [readNat, readBytes_of_le h]
  rfl

theorem strcmpAt_eq {cs : List UInt8} {offset : Nat}
    (h : offset + cs.length ≤ data.length) :
    strcmpAt data offset cs =
      Except.ok (decide ((data.drop offset).take cs.length = cs)) := by
  induction cs generalizing offset with
  | nil => rfl
  | cons c cs ih =>
      rw [List.length_cons] at h
      have hlt : offset < data.length := by omega
      rw [strcmpAt, readBytes_of_le (by omega), List.drop_eq_getElem_cons hlt]
      simp only [List.take_succ_cons, List.take_zero, List.length_cons]
      by_cases hsame : data[offset] = c
      · rw [hsame]
        change (if [c] = [c] then strcmpAt data (offset + 1) cs
          else Except.ok false) = _
        rw [if_pos rfl, ih (by omega)]
        simp
      · change (if [data[offset]] = [c] then strcmpAt data (offset + 1) cs
          else Except.ok false) = _
        rw [if_neg (by simpa using hsame)]
        simp [hsame]

theorem hasSignature_eq (data : List UInt8) {signature : List UInt8}
    (h : signature.length = 4) :
    hasSignature data signature =
      Except.ok (decide (data.length > 8 ∧ data.take 4 = signature)) := by
  unfold hasSignature
  by_cases hlong : data.length > 8
  · rw [if_pos hlong, strcmpAt_eq (by omega), h, List.drop_zero]
    simp [hlong]
  · rw [if_neg hlong]
    simp [hlong]

theorem getAuctionFileFormat_eq (data : List UInt8) :
    getAuctionFileFormat data =
      Except.ok (AuctionWriter.getAuctionFileFormat data) := by
  have hread : forall offset size, data.length > 8 -> offset + size ≤ 8 ->
      readNat data offset size = Except.ok (readAt data offset size) := by
    intro offset size hlong hle
    exact readNat_of_le (by omega)
  unfold getAuctionFileFormat AuctionWriter.getAuctionFileFormat
  rw [hasSignature_eq data rfl, hasSignature_eq data rfl]
  by_cases hcomplex : data.length > 8 ∧ data.take 4 = [82, 65, 72, 0]
  · rw [if_pos hcomplex, decide_eq_true hcomplex,
      hread 4 4 hcomplex.left (Nat.le_refl _)]
    rfl
  · rw [if_neg hcomplex, decide_eq_false hcomplex]
    by_cases hsimple : data.length > 8 ∧ data.take 4 = [82, 72, 83, 0]
    · rw [if_pos hsimple, decide_eq_true hsimple,
        hread 4 4 hsimple.left (Nat.le_refl _)]
      rfl
    · rw [if_neg hsimple, decide_eq_false hsimple]
      by_cases hlong : data.length > 8
      · rw [if_pos hlong, hread 4 2 hlong (by omega),
          hread 0 4 hlong (by omega)]
        simp only [bind, Except.bind, pure, Except.pure, Bool.false_eq_true,
          ↓reduceIte, hlong]
        exact (apply_ite Except.ok _ _ _).symm
      · simp only [bind, Except.bind, pure, Except.pure, Bool.false_eq_true,
          ↓reduceIte, hlong]

end Format

/-! ## The records -/

def bytesAt (header : OldHeader) (data : List UInt8) (p : Nat) : List UInt8 :=
  (data.drop p).take header.sizeof

/-- What is tested of a record. -/
structure Fits (header : OldHeader) (data : List UInt8) (p : Nat) : Prop where
  before : p < data.length
  front : p + header.sizeof ≤ data.length
  record : p + stride header (bytesAt header data p) ≤ data.length

/-- What is not: it is not too small, and there is an uid. -/
structure Whole (header : OldHeader) (data : List UInt8) (p : Nat) : Prop where
  size : 0 ≤ header.getSize (bytesAt header data p)
  uid : p + header.sizeof + 4 ≤ data.length

def recordAt (header : OldHeader) (data : List UInt8) (p : Nat) :
    AuctionSimpleInfo where
  uid := UInt32.ofNat (readAt data (p + header.sizeof) 4)
  time := header.getTime (bytesAt header data p)
  previousTime := header.getPreviousTime (bytesAt header data p)
  diffType := header.getFlag (bytesAt header data p)
  category := header.getCategory (bytesAt header data p)
  epic := 0xFFFFFF
  data := (data.drop (p + header.sizeof)).take
    (dataSize header (bytesAt header data p))

/-- Where the records begin that are read. -/
inductive Reaches (header : OldHeader) (data : List UInt8) : Nat -> Prop where
  | first : Reaches header data 0
  | next {p : Nat} (h : Reaches header data p) (hfits : Fits header data p)
      (hwhole : Whole header data p) :
      Reaches header data (p + stride header (bytesAt header data p))

/-- Every record that is read and passes the test is whole. -/
def RecordsWhole (header : OldHeader) (data : List UInt8) : Prop :=
  forall p, Reaches header data p -> Fits header data p -> Whole header data p

/-- The sizes of a header are those of a small struct and of an `int`. -/
structure Bounded (header : OldHeader) : Prop where
  positive : 0 < header.sizeof
  small : header.sizeof ≤ 26
  lower : forall bytes, -2 ^ 31 ≤ header.getSize bytes
  upper : forall bytes, header.getSize bytes < 2 ^ 31

theorem bounded_of_int32 {header : OldHeader} (hpos : 0 < header.sizeof)
    (hsmall : header.sizeof ≤ 26)
    (hint : forall bytes, exists size : Int32,
      header.getSize bytes = size.toInt) : Bounded header where
  positive := hpos
  small := hsmall
  lower := by
    intro bytes
    rcases hint bytes with ⟨size, heq⟩
    rw [heq]
    exact size.le_toInt
  upper := by
    intro bytes
    rcases hint bytes with ⟨size, heq⟩
    rw [heq]
    exact size.toInt_lt

theorem ofVersion_bounded {version : Nat} {header : OldHeader}
    (h : OldHeader.ofVersion version = some header) : Bounded header := by
  unfold OldHeader.ofVersion at h
  split at h
  · cases h
    exact bounded_of_int32 (by decide) (by decide) fun bytes => ⟨_, rfl⟩
  · cases h
    exact bounded_of_int32 (by decide) (by decide) fun bytes => ⟨_, rfl⟩
  · cases h
    exact bounded_of_int32 (by decide) (by decide) fun bytes => ⟨_, rfl⟩
  · cases h

section Records

variable {header : OldHeader} {data : List UInt8} {s : OldReader}

theorem stride_of_nonneg (hbounded : Bounded header) {bytes : List UInt8}
    (hsize : 0 ≤ header.getSize bytes) :
    stride header bytes = header.sizeof + dataSize header bytes ∧
      dataSize header bytes < 2 ^ 63 := by
  have hsmall := hbounded.small
  have hupper := hbounded.upper bytes
  unfold stride dataSize
  omega

theorem dataSize_of_neg (hbounded : Bounded header) {bytes : List UInt8}
    (hsize : header.getSize bytes < 0) : 2 ^ 63 ≤ dataSize header bytes := by
  have hlower := hbounded.lower bytes
  unfold dataSize
  omega

theorem readRecord_of_not_fits (hp : s.p < data.length)
    (h : ¬Fits header data s.p) :
    readRecord header data s = Except.ok none := by
  unfold readRecord
  by_cases hheader : header.sizeof > data.length - s.p
  · simp only [hheader, ↓reduceIte]
    rfl
  · have hread : readBytes data s.p header.sizeof =
        Except.ok (bytesAt header data s.p) :=
      readBytes_of_le (by omega)
    have hrecord : stride header (bytesAt header data s.p) >
        data.length - s.p := by
      apply Nat.lt_of_not_le
      intro hle
      exact h ⟨hp, by omega, by omega⟩
    simp only [hheader, ↓reduceIte, hread, bind, Except.bind, hrecord]
    rfl

/-- A record that fits is read if it is whole, and is a fault if it is not. -/
theorem readRecord_of_fits (hfits : Fits header data s.p) :
    readRecord header data s = (do
      if s.reserved = false then
        let _ <- divide data.length (stride header (bytesAt header data s.p))
      let uid <- readNat data (s.p + header.sizeof) 4
      let rawData <- readRange data (s.p + header.sizeof)
        (dataSize header (bytesAt header data s.p))
      return some
        { p := s.p + stride header (bytesAt header data s.p)
          reserved := true
          auctions := s.auctions ++
            [{ uid := UInt32.ofNat uid
               time := header.getTime (bytesAt header data s.p)
               previousTime :=
                header.getPreviousTime (bytesAt header data s.p)
               diffType := header.getFlag (bytesAt header data s.p)
               category := header.getCategory (bytesAt header data s.p)
               epic := 0xFFFFFF
               data := rawData }] }) := by
  have hheader := hfits.front
  have hrecord := hfits.record
  have hread : readBytes data s.p header.sizeof =
      Except.ok (bytesAt header data s.p) :=
    readBytes_of_le hheader
  have hnot : ¬header.sizeof > data.length - s.p := by omega
  have hnot' : ¬stride header (bytesAt header data s.p) >
      data.length - s.p := by omega
  unfold readRecord
  simp only [hnot, ↓reduceIte, hread, bind, Except.bind, hnot']

theorem readRecord_eq (hbounded : Bounded header)
    (hfits : Fits header data s.p) (hwhole : Whole header data s.p) :
    readRecord header data s = Except.ok (some
      { p := s.p + stride header (bytesAt header data s.p)
        reserved := true
        auctions := s.auctions ++ [recordAt header data s.p] }) := by
  rcases stride_of_nonneg hbounded hwhole.size with ⟨hstride, hdata⟩
  have hpos := hbounded.positive
  have hrecord := hfits.record
  have huid := readNat_of_le hwhole.uid
  have hrange : readRange data (s.p + header.sizeof)
      (dataSize header (bytesAt header data s.p)) =
        Except.ok ((data.drop (s.p + header.sizeof)).take
          (dataSize header (bytesAt header data s.p))) := by
    rw [readRange, if_neg (by omega), readBytes_of_le (by omega)]
  have hdivide : divide data.length
      (stride header (bytesAt header data s.p)) = Except.ok
        (data.length / stride header (bytesAt header data s.p)) :=
    if_neg (by omega)
  rw [readRecord_of_fits hfits, huid, hrange, hdivide]
  cases s.reserved with
  | true => rfl
  | false => rfl

theorem readRecord_not_whole (hbounded : Bounded header)
    (hfits : Fits header data s.p) (hnot : ¬Whole header data s.p) :
    exists fault, readRecord header data s = Except.error fault := by
  rw [readRecord_of_fits hfits]
  -- if the division succeeds, the uid or the data is not in the vector
  have hlater : exists fault, (do
      let uid <- readNat data (s.p + header.sizeof) 4
      let rawData <- readRange data (s.p + header.sizeof)
        (dataSize header (bytesAt header data s.p))
      return some
        { p := s.p + stride header (bytesAt header data s.p)
          reserved := true
          auctions := s.auctions ++
            [{ uid := UInt32.ofNat uid
               time := header.getTime (bytesAt header data s.p)
               previousTime :=
                header.getPreviousTime (bytesAt header data s.p)
               diffType := header.getFlag (bytesAt header data s.p)
               category := header.getCategory (bytesAt header data s.p)
               epic := 0xFFFFFF
               data := rawData }] } : Except Fault (Option OldReader)) =
        Except.error fault := by
    by_cases huid : s.p + header.sizeof + 4 ≤ data.length
    · have hneg : header.getSize (bytesAt header data s.p) < 0 := by
        apply Int.lt_of_not_ge
        intro hsize
        exact hnot ⟨hsize, huid⟩
      have hrange : readRange data (s.p + header.sizeof)
          (dataSize header (bytesAt header data s.p)) =
            Except.error Fault.invalidRange :=
        if_pos (dataSize_of_neg hbounded hneg)
      rw [readNat_of_le huid, hrange]
      exact ⟨_, rfl⟩
    · have hread : readNat data (s.p + header.sizeof) 4 =
          Except.error Fault.outOfRange := by
        rw [readNat, readBytes, if_neg huid]
        rfl
      rw [hread]
      exact ⟨_, rfl⟩
  cases hreserved : s.reserved with
  | true =>
      rcases hlater with ⟨fault, hfault⟩
      exact ⟨fault, hfault⟩
  | false =>
      unfold divide
      by_cases hzero : stride header (bytesAt header data s.p) = 0
      · rw [if_pos hzero]
        exact ⟨_, rfl⟩
      · rw [if_neg hzero]
        rcases hlater with ⟨fault, hfault⟩
        exact ⟨fault, hfault⟩

theorem exists_deserializeOldFile (hbounded : Bounded header)
    (hwhole : RecordsWhole header data) (hreaches : Reaches header data s.p) :
    exists fuel result,
      deserializeOldFile header data fuel s = some (Except.ok result) := by
  induction hrest : data.length - s.p using Nat.strong_induction_on
    generalizing s with
  | h rest ih =>
      by_cases hp : s.p < data.length
      · by_cases hfits : Fits header data s.p
        · have hrecord := hwhole s.p hreaches hfits
          have hpos := hbounded.positive
          have hstride := (stride_of_nonneg hbounded hrecord.size).left
          have hless : data.length -
              (s.p + stride header (bytesAt header data s.p)) < rest := by
            omega
          rcases @ih _ hless
            ⟨s.p + stride header (bytesAt header data s.p), true,
              s.auctions ++ [recordAt header data s.p]⟩
            (hreaches.next hfits hrecord) rfl with ⟨fuel, result, hresult⟩
          refine ⟨fuel + 1, result, ?_⟩
          rw [deserializeOldFile, if_pos hp,
            readRecord_eq hbounded hfits hrecord]
          exact hresult
        · refine ⟨1, (false, s.auctions), ?_⟩
          rw [deserializeOldFile, if_pos hp, readRecord_of_not_fits hp hfits]
      · exact ⟨1, (true, s.auctions), by rw [deserializeOldFile, if_neg hp]⟩

theorem reads_of_reaches (hbounded : Bounded header)
    (hsafe : exists fuel result,
      deserializeOldFile header data fuel start = some (Except.ok result))
    {p : Nat} (hreaches : Reaches header data p) :
    exists s : OldReader, s.p = p ∧ exists fuel result,
      deserializeOldFile header data fuel s = some (Except.ok result) := by
  induction hreaches with
  | first => exact ⟨start, rfl, hsafe⟩
  | @next p h hfits hwhole ih =>
      rcases ih with ⟨s, rfl, fuel, result, hresult⟩
      cases fuel with
      | zero => cases hresult
      | succ fuel =>
          rw [deserializeOldFile, if_pos hfits.before,
            readRecord_eq hbounded hfits hwhole] at hresult
          exact ⟨_, rfl, fuel, result, hresult⟩

theorem recordsWhole_of_reads (hbounded : Bounded header)
    (hsafe : exists fuel result,
      deserializeOldFile header data fuel start = some (Except.ok result)) :
    RecordsWhole header data := by
  intro p hreaches hfits
  by_contra hnot
  rcases reads_of_reaches hbounded hsafe hreaches
    with ⟨s, rfl, fuel, result, hresult⟩
  rcases readRecord_not_whole hbounded hfits hnot with ⟨fault, hfault⟩
  cases fuel with
  | zero => cases hresult
  | succ fuel =>
      rw [deserializeOldFile, if_pos hfits.before, hfault] at hresult
      cases hresult

end Records

/-- The records of an old file are whole, by the header of its version. -/
def FileWhole (data : List UInt8) : Prop :=
  forall version header,
    AuctionWriter.getAuctionFileFormat data =
      some (version, AuctionFileFormat.old) ->
        OldHeader.ofVersion version = some header -> RecordsWhole header data

/-- Exactly the files of whole records are read safely. -/
theorem readsSafely_iff (data : List UInt8) :
    ReadsSafely data ↔ FileWhole data := by
  constructor
  · rintro ⟨format, hformat, hreads⟩ version header hold hversion
    rw [getAuctionFileFormat_eq] at hformat
    have hsame := Except.ok.inj hformat
    exact recordsWhole_of_reads (ofVersion_bounded hversion)
      (hreads version header (hsame.symm.trans hold) hversion)
  · intro hwhole
    refine ⟨_, getAuctionFileFormat_eq data, ?_⟩
    intro version header hold hversion
    exact exists_deserializeOldFile (ofVersion_bounded hversion)
      (hwhole version header hold hversion) Reaches.first

/-! ## What is read -/

theorem readAt_take {data : List UInt8} {n offset size : Nat}
    (h : offset + size ≤ n) :
    readAt (data.take n) offset size = readAt data offset size := by
  rw [readAt, readAt, List.drop_take, List.take_take, Nat.min_eq_left]
  omega

/-- A header is read from its own bytes. -/
structure ReadsOwn (header : OldHeader) : Prop where
  getSize : forall data,
    header.getSize (data.take header.sizeof) = header.getSize data
  getFlag : forall data,
    header.getFlag (data.take header.sizeof) = header.getFlag data
  getTime : forall data,
    header.getTime (data.take header.sizeof) = header.getTime data
  getPreviousTime : forall data,
    header.getPreviousTime (data.take header.sizeof) =
      header.getPreviousTime data
  getCategory : forall data,
    header.getCategory (data.take header.sizeof) = header.getCategory data

theorem ofVersion_readsOwn {version : Nat} {header : OldHeader}
    (h : OldHeader.ofVersion version = some header) : ReadsOwn header := by
  have hint32 {n offset : Nat} (hle : offset + 4 ≤ n) (data : List UInt8) :
      OldHeader.readInt32 (data.take n) offset =
        OldHeader.readInt32 data offset := by
    rw [OldHeader.readInt32, readAt_take hle, OldHeader.readInt32]
  have hint64 {n offset : Nat} (hle : offset + 8 ≤ n) (data : List UInt8) :
      OldHeader.readInt64 (data.take n) offset =
        OldHeader.readInt64 data offset := by
    rw [OldHeader.readInt64, readAt_take hle, OldHeader.readInt64]
  have huint16 {n offset : Nat} (hle : offset + 2 ≤ n) (data : List UInt8) :
      OldHeader.readUInt16 (data.take n) offset =
        OldHeader.readUInt16 data offset := by
    rw [OldHeader.readUInt16, readAt_take hle, OldHeader.readUInt16]
  unfold OldHeader.ofVersion at h
  split at h
  · cases h
    exact
      { getSize := fun data => congrArg Int32.toInt (hint32 (by decide) data)
        getFlag := fun data => rfl
        getTime := fun data => hint64 (by decide) data
        getPreviousTime := fun data => rfl
        getCategory := fun data => huint16 (by decide) data }
  · cases h
    exact
      { getSize := fun data =>
          congrArg (fun size => (size - 18).toInt) (hint32 (by decide) data)
        getFlag := fun data => huint16 (by decide) data
        getTime := fun data => hint64 (by decide) data
        getPreviousTime := fun data => rfl
        getCategory := fun data => huint16 (by decide) data }
  · cases h
    exact
      { getSize := fun data =>
          congrArg (fun size => (size - 26).toInt) (hint32 (by decide) data)
        getFlag := fun data => huint16 (by decide) data
        getTime := fun data => hint64 (by decide) data
        getPreviousTime := fun data => hint64 (by decide) data
        getCategory := fun data => huint16 (by decide) data }
  · cases h

section Refinement

variable {header : OldHeader} {data : List UInt8}

theorem none_of_not_fits (hbounded : Bounded header) (hown : ReadsOwn header)
    {p fuel : Nat} (hp : p < data.length) (h : ¬Fits header data p) :
    AuctionWriter.deserializeOldFile header fuel (data.drop p) = none := by
  have hne : data.drop p ≠ [] := by
    intro hnil
    rw [List.drop_eq_nil_iff] at hnil
    omega
  cases hrest : data.drop p with
  | nil => exact absurd hrest hne
  | cons first rest =>
      cases fuel with
      | zero => rfl
      | succ fuel =>
          rw [AuctionWriter.deserializeOldFile]
          · rw [← hrest]
            split
            · rfl
            · rename_i hheader
              split
              · rfl
              · rename_i hsize
                rw [List.length_drop] at hheader
                have hsize' : 0 ≤ header.getSize (bytesAt header data p) := by
                  rw [bytesAt, hown.getSize]
                  omega
                rcases stride_of_nonneg hbounded hsize' with ⟨hstride, hdata⟩
                have hsame : dataSize header (bytesAt header data p) =
                    (header.getSize (data.drop p)).toNat := by
                  have hupper := hbounded.upper (data.drop p)
                  rw [dataSize, bytesAt, hown.getSize]
                  omega
                have hlong : (header.getSize (data.drop p)).toNat >
                    ((data.drop p).drop header.sizeof).length := by
                  rw [List.length_drop, List.length_drop]
                  apply Nat.lt_of_not_le
                  intro hle
                  exact h ⟨hp, by omega, by omega⟩
                simp only [hlong, true_or, ↓reduceIte]
          · intro hnil
            cases hnil

theorem cons_of_whole (hbounded : Bounded header) (hown : ReadsOwn header)
    {p fuel : Nat} (hfits : Fits header data p) (hwhole : Whole header data p) :
    AuctionWriter.deserializeOldFile header (fuel + 1) (data.drop p) =
      (AuctionWriter.deserializeOldFile header fuel
        (data.drop (p + stride header (bytesAt header data p)))).map
          (recordAt header data p :: ·) := by
  have hbefore := hfits.before
  have hfront := hfits.front
  have hrecord := hfits.record
  have huid := hwhole.uid
  have hsize := hwhole.size
  rcases stride_of_nonneg hbounded hsize with ⟨hstride, hdata⟩
  have hsame : dataSize header (bytesAt header data p) =
      (header.getSize (data.drop p)).toNat := by
    have hupper := hbounded.upper (data.drop p)
    rw [bytesAt, hown.getSize] at hsize
    rw [dataSize, bytesAt, hown.getSize]
    omega
  have hheader : ¬header.sizeof > (data.drop p).length := by
    rw [List.length_drop]
    omega
  have hnonneg : ¬header.getSize (data.drop p) < 0 := by
    rw [bytesAt, hown.getSize] at hsize
    omega
  have hroom : ¬((header.getSize (data.drop p)).toNat >
      ((data.drop p).drop header.sizeof).length ∨
        ((data.drop p).drop header.sizeof).length < 4) := by
    rw [List.length_drop, List.length_drop, ← hsame]
    omega
  have hnext : ((data.drop p).drop header.sizeof).drop
      (header.getSize (data.drop p)).toNat =
        data.drop (p + stride header (bytesAt header data p)) := by
    rw [List.drop_drop, List.drop_drop, ← hsame, hstride]
  have hinfo : recordAt header data p =
      { uid := UInt32.ofNat (readAt ((data.drop p).drop header.sizeof) 0 4)
        time := header.getTime (data.drop p)
        previousTime := header.getPreviousTime (data.drop p)
        diffType := header.getFlag (data.drop p)
        category := header.getCategory (data.drop p)
        epic := 0xFFFFFF
        data := ((data.drop p).drop header.sizeof).take
          (header.getSize (data.drop p)).toNat } := by
    rw [recordAt, hsame, bytesAt, hown.getTime, hown.getPreviousTime,
      hown.getFlag, hown.getCategory, List.drop_drop, readAt, readAt,
      List.drop_zero]
  rw [hinfo, ← hnext]
  generalize data.drop p = rest at *
  cases rest with
  | nil =>
      exfalso
      have hpos := hbounded.positive
      simp at hheader
      omega
  | cons first rest =>
      rw [AuctionWriter.deserializeOldFile]
      · rw [if_neg hheader, if_neg hnonneg]
        simp only
        rw [if_neg hroom, Option.bind_eq_bind, Option.map_eq_bind]
        rfl
      · intro hnil
        cases hnil

/--
Where nothing goes wrong, this is the reading of a file as a whole: the same
records, or none if one of them does not fit.
-/
theorem deserializeOldFile_refines (hbounded : Bounded header)
    (hown : ReadsOwn header) {fuel : Nat} {s : OldReader} {done : Bool}
    {auctions : List AuctionSimpleInfo}
    (h : deserializeOldFile header data fuel s =
      some (Except.ok (done, auctions))) {fuel' : Nat}
    (hfuel : data.length - s.p ≤ fuel') :
    exists later, auctions = s.auctions ++ later ∧
      AuctionWriter.deserializeOldFile header fuel' (data.drop s.p) =
        if done then some later else none := by
  induction fuel generalizing s fuel' with
  | zero => cases h
  | succ fuel ih =>
      rw [deserializeOldFile] at h
      by_cases hp : s.p < data.length
      · rw [if_pos hp] at h
        by_cases hfits : Fits header data s.p
        · by_cases hwhole : Whole header data s.p
          · rw [readRecord_eq hbounded hfits hwhole] at h
            have hpos := hbounded.positive
            have hstride := (stride_of_nonneg hbounded hwhole.size).left
            cases fuel' with
            | zero => omega
            | succ fuel' =>
                have hless : data.length - (s.p + stride header
                    (bytesAt header data s.p)) ≤ fuel' := by
                  omega
                rcases ih h hless with ⟨later, heq, hlater⟩
                refine ⟨recordAt header data s.p :: later, ?_, ?_⟩
                · rw [heq, List.append_assoc]
                  rfl
                · rw [cons_of_whole hbounded hown hfits hwhole, hlater]
                  cases done <;> rfl
          · rcases readRecord_not_whole hbounded hfits hwhole
              with ⟨fault, hfault⟩
            rw [hfault] at h
            cases h
        · rw [readRecord_of_not_fits hp hfits] at h
          cases h
          exact ⟨[], (List.append_nil _).symm,
            none_of_not_fits hbounded hown hp hfits⟩
      · rw [if_neg hp] at h
        cases h
        refine ⟨[], (List.append_nil _).symm, ?_⟩
        rw [List.drop_eq_nil_of_le (Nat.le_of_not_lt hp)]
        cases fuel' <;> rfl

theorem FileWhole.exists_auctions (h : FileWhole data) {version : Nat}
    (hold : AuctionWriter.getAuctionFileFormat data =
      some (version, AuctionFileFormat.old))
    (hversion : OldHeader.ofVersion version = some header) :
    exists fuel done auctions,
      deserializeOldFile header data fuel start =
        some (Except.ok (done, auctions)) ∧
      AuctionWriter.deserializeOldFile header data.length data =
        if done then some auctions else none := by
  have hbounded := ofVersion_bounded hversion
  rcases exists_deserializeOldFile (s := start) hbounded
    (h version header hold hversion) Reaches.first
      with ⟨fuel, ⟨done, auctions⟩, hresult⟩
  rcases deserializeOldFile_refines hbounded (ofVersion_readsOwn hversion)
    hresult (Nat.le_of_eq (Nat.sub_zero _)) with ⟨later, heq, hlater⟩
  have hsame : auctions = later := heq
  rw [hsame] at hresult
  exact ⟨fuel, done, later, hresult, hlater⟩

/-- A file of version 0 with one record of nothing but an uid. -/
def oneRecord : List UInt8 := [4, 0, 0, 0] ++ List.replicate 20 0

theorem exists_auctions_oneRecord :
    exists fuel done auctions,
      deserializeOldFile OldHeader.AuctionHeaderV0 oneRecord fuel start =
        some (Except.ok (done, auctions)) ∧
      AuctionWriter.deserializeOldFile OldHeader.AuctionHeaderV0
          oneRecord.length oneRecord =
        if done then some auctions else none := by
  have hformat : AuctionWriter.getAuctionFileFormat oneRecord =
      some (0, AuctionFileFormat.old) := rfl
  have hwhole : FileWhole oneRecord := by
    intro version header hold hversion
    rw [hformat] at hold
    cases hold
    cases hversion
    exact recordsWhole_of_reads (@ofVersion_bounded 0 _ rfl) ⟨2, _, rfl⟩
  exact hwhole.exists_auctions hformat rfl

end Refinement

theorem not_readsSafely_of_fault {data : List UInt8} {version : Nat}
    {header : OldHeader} {fault : Fault}
    (hformat : AuctionWriter.getAuctionFileFormat data =
      some (version, AuctionFileFormat.old))
    (hversion : OldHeader.ofVersion version = some header)
    (hdata : start.p < data.length)
    (hfault : readRecord header data start = Except.error fault) :
    ¬ReadsSafely data := by
  rintro ⟨format, hsafe, hreads⟩
  rw [getAuctionFileFormat_eq, hformat] at hsafe
  rcases hreads version header (Except.ok.inj hsafe).symm hversion
    with ⟨fuel, result, hresult⟩
  cases fuel with
  | zero => cases hresult
  | succ fuel =>
      rw [deserializeOldFile, if_pos hdata, hfault] at hresult
      cases hresult

/-- A file of version 1 whose only record has the size zero. -/
def emptyRecord : List UInt8 := [0, 0, 0, 0, 1, 0] ++ List.replicate 12 0

/-- A file of version 0 that ends with the header of a record. -/
def bareHeader : List UInt8 := List.replicate 20 0

/-- The first file leads to a division by zero, the second out of the file. -/
theorem not_readsSafely :
    (readRecord OldHeader.AuctionHeaderV1 emptyRecord start =
        Except.error Fault.divisionByZero ∧ ¬ReadsSafely emptyRecord) ∧
      readRecord OldHeader.AuctionHeaderV0 bareHeader start =
        Except.error Fault.outOfRange ∧ ¬ReadsSafely bareHeader := by
  have hdivision : readRecord OldHeader.AuctionHeaderV1 emptyRecord start =
      Except.error Fault.divisionByZero := rfl
  have hrange : readRecord OldHeader.AuctionHeaderV0 bareHeader start =
      Except.error Fault.outOfRange := rfl
  have hfirst : AuctionWriter.getAuctionFileFormat emptyRecord =
      some (1, AuctionFileFormat.old) := rfl
  have hsecond : AuctionWriter.getAuctionFileFormat bareHeader =
      some (0, AuctionFileFormat.old) := rfl
  exact ⟨⟨hdivision, not_readsSafely_of_fault hfirst rfl (by decide)
      hdivision⟩,
    hrange, not_readsSafely_of_fault hsecond rfl (by decide) hrange⟩

end OldFile

end Auction
end Rzu
