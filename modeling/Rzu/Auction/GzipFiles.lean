import Mathlib.Algebra.Ring.Nat
import Rzu.Library.Zlib

/-!
# Compressed auction files

Two writers compress their files in the same way, and each of them decompresses
a file with a loop of its own around the library.
-/

namespace Rzu
namespace Auction

open Library

/-- `resize`, where what is new is zero. -/
def resized (v : List UInt8) (size : Nat) : List UInt8 :=
  v.take size ++ List.replicate (size - v.length) 0

def written (v : List UInt8) (index : Nat) (bytes : List UInt8) : List UInt8 :=
  v.take index ++ bytes ++ v.drop (index + bytes.length)

/-- The code, and `compressedData`. -/
def gzipCompress (z : Zlib) (sourceData : List UInt8) (level : Int) :
    ZlibCode × List UInt8 :=
  if z.deflateInit2 level ≠ ZlibCode.ok then (z.deflateInit2 level, [])
  else
    let compressedData := resized [] (z.deflateBound sourceData.length)
    let availIn := sourceData.take (sourceData.length % 2 ^ 32)
    let availOut := compressedData.length % 2 ^ 32
    if availOut ≠ compressedData.length then
      (ZlibCode.bufError, compressedData)
    else
      let deflated := z.deflate level availIn availOut
      let compressedData := written compressedData 0 deflated.2
      if deflated.1 ≠ ZlibCode.streamEnd then
        (if deflated.1 = ZlibCode.ok then ZlibCode.bufError else deflated.1,
          compressedData)
      else (z.deflateEnd, resized compressedData deflated.2.length)

/-- The stream and the output between two passes of a loop. -/
structure Inflating (z : Zlib) where
  state : z.State
  availIn : List UInt8
  totalOut : Nat
  uncompressedData : List UInt8
  outputIndex : Nat

section Loop

variable (z : Zlib) (resizeOutput : List UInt8 -> List UInt8)
  (availOut : Nat -> Nat)

/-- One pass, where `availOut` is what the size of the room is cast to. -/
def inflatePass (l : Inflating z) : ZlibCode × Inflating z :=
  let uncompressedData := resizeOutput l.uncompressedData
  let room := availOut (uncompressedData.length - l.outputIndex)
  let call := z.inflate l.state l.availIn room
  (call.code,
    { state := call.state
      availIn := l.availIn.drop call.consumed
      totalOut := (l.totalOut + call.produced.length) % 2 ^ 64
      uncompressedData :=
        written uncompressedData l.outputIndex call.produced
      outputIndex :=
        uncompressedData.length - (room - call.produced.length) })

/--
The loop goes on while there is input, and so many times at most; the result is
the code and `uncompressedData`.
-/
def inflateLoop : Nat -> Inflating z -> Option (ZlibCode × List UInt8)
  | 0, _ => none
  | fuel + 1, l =>
      let pass := inflatePass z resizeOutput availOut l
      if pass.1.isFatal then
        some (if pass.1 = ZlibCode.needDict then ZlibCode.dataError
          else pass.1, pass.2.uncompressedData)
      else if pass.2.availIn ≠ [] then inflateLoop fuel pass.2
      else some (z.inflateEnd pass.2.state,
        resized pass.2.uncompressedData pass.2.totalOut)

def inflateStream (fuel : Nat) (compressedData : List UInt8) :
    Option (ZlibCode × List UInt8) :=
  if z.inflateInit2 ≠ ZlibCode.ok then some (z.inflateInit2, [])
  else inflateLoop z resizeOutput availOut fuel
    { state := z.inflateStart
      availIn := compressedData.take (compressedData.length % 2 ^ 32)
      totalOut := 0
      uncompressedData := []
      outputIndex := 0 }

end Loop

namespace AuctionCommonWriter

def compressGzip (z : Zlib) (sourceData : List UInt8) (level : Int) :
    ZlibCode × List UInt8 :=
  gzipCompress z sourceData level

def growth : Nat := 1024 * 1024

def resizeOutput (uncompressedData : List UInt8) : List UInt8 :=
  resized uncompressedData (uncompressedData.length + growth)

def availOut (remaining_size : Nat) : Nat := min remaining_size (2 ^ 32 - 1)

/-- Every pass makes room, and the input decides when to stop. -/
def uncompressGzip (z : Zlib) (fuel : Nat) (compressedData : List UInt8) :
    Option (ZlibCode × List UInt8) :=
  inflateStream z resizeOutput availOut fuel compressedData

end AuctionCommonWriter

namespace AuctionWriter

def compressGzip (z : Zlib) (sourceData : List UInt8) (level : Int) :
    ZlibCode × List UInt8 :=
  gzipCompress z sourceData level

def defaultSize : Nat := 6 * 1024 * 1024

def maximumSize : Nat := 10 * 1024 * 1024

/-- Both bytes of the header are read at the same index. -/
def header (compressedData : List UInt8) : UInt32 :=
  (compressedData.getD 0 0).toUInt32 |||
    (compressedData.getD 0 0).toUInt32 <<< 8

def dataSizeFromFile (compressedData : List UInt8) : UInt32 :=
  (compressedData.getD (compressedData.length - 4) 0).toUInt32 |||
    (compressedData.getD (compressedData.length - 3) 0).toUInt32 <<< 8 |||
    (compressedData.getD (compressedData.length - 2) 0).toUInt32 <<< 16 |||
    (compressedData.getD (compressedData.length - 1) 0).toUInt32 <<< 24

def dataSize (compressedData : List UInt8) : Nat :=
  if compressedData.length < 4 then defaultSize
  else if header compressedData ≠ 0x8B1F then defaultSize
  else if (dataSizeFromFile compressedData).toNat > maximumSize then
    defaultSize
  else if dataSizeFromFile compressedData = 0 then defaultSize
  else (dataSizeFromFile compressedData).toNat

/-- Only the first pass makes room; the later ones only warn. -/
def resizeOutput (dataSize : Nat) (uncompressedData : List UInt8) :
    List UInt8 :=
  if uncompressedData = [] ∧ 0 < dataSize then resized uncompressedData dataSize
  else if uncompressedData ≠ [] then uncompressedData
  else resized uncompressedData (uncompressedData.length + 7 * 1024 * 1024)

def availOut (remaining_size : Nat) : Nat := remaining_size % 2 ^ 32

def uncompressGzip (z : Zlib) (fuel : Nat) (compressedData : List UInt8) :
    Option (ZlibCode × List UInt8) :=
  inflateStream z (resizeOutput (dataSize compressedData)) availOut fuel
    compressedData

end AuctionWriter

/-! ## Buffers -/

theorem resized_length (v : List UInt8) (size : Nat) :
    (resized v size).length = size := by
  rw [resized, List.length_append, List.length_take, List.length_replicate]
  omega

theorem resized_of_le {v : List UInt8} {size : Nat} (h : size ≤ v.length) :
    resized v size = v.take size := by
  rw [resized, Nat.sub_eq_zero_of_le h, List.replicate_zero, List.append_nil]

theorem take_resized {v : List UInt8} {size index : Nat}
    (hindex : index ≤ v.length) (hsize : index ≤ size) :
    (resized v size).take index = v.take index := by
  rw [resized, List.take_append_of_le_length, List.take_take,
    Nat.min_eq_left hsize]
  rw [List.length_take]
  omega

theorem written_length {v : List UInt8} {index : Nat} {bytes : List UInt8}
    (h : index + bytes.length ≤ v.length) :
    (written v index bytes).length = v.length := by
  rw [written, List.length_append, List.length_append, List.length_take,
    List.length_drop]
  omega

theorem take_written {v : List UInt8} {index : Nat} {bytes : List UInt8}
    (h : index ≤ v.length) :
    (written v index bytes).take (index + bytes.length) =
      v.take index ++ bytes := by
  rw [written, List.take_append_of_le_length, List.take_of_length_le]
  · rw [List.length_append, List.length_take]
    omega
  · rw [List.length_append, List.length_take]
    omega

/-! ## What compressing gives -/

section Contract

variable {z : Zlib} {pending : z.State -> List UInt8 -> List UInt8 -> Prop}
  (hkeeps : z.Keeps pending)
include hkeeps

theorem gzipCompress_eq {sourceData : List UInt8} {level : Int}
    (hlevel : Zlib.ValidLevel level) (hlength : sourceData.length < 2 ^ 32) :
    gzipCompress z sourceData level =
      if z.deflateBound sourceData.length < 2 ^ 32 then
        (ZlibCode.ok, (z.deflate level sourceData
          (z.deflateBound sourceData.length)).2)
      else (ZlibCode.bufError,
        resized [] (z.deflateBound sourceData.length)) := by
  have hinit := hkeeps.deflateInit2 level hlevel
  have hin : sourceData.take (sourceData.length % 2 ^ 32) = sourceData := by
    rw [Nat.mod_eq_of_lt hlength, List.take_length]
  rcases hkeeps.deflate level sourceData _ hlevel (Nat.le_refl _)
    with ⟨hend, hfits, -⟩
  unfold gzipCompress
  simp only [resized_length]
  rw [if_neg (by rw [hinit]; exact fun h => h rfl), hin]
  by_cases hbound : z.deflateBound sourceData.length < 2 ^ 32
  · rw [Nat.mod_eq_of_lt hbound, if_neg (fun h => h rfl), if_pos hbound,
      if_neg (by rw [hend]; exact fun h => h rfl), hkeeps.deflateEnd]
    have hlength : (written (resized []
        (z.deflateBound sourceData.length)) 0 (z.deflate level sourceData
          (z.deflateBound sourceData.length)).2).length =
            z.deflateBound sourceData.length := by
      rw [written_length, resized_length]
      rw [resized_length]
      omega
    rw [resized_of_le (by rw [hlength]; exact hfits)]
    have htake := @take_written (resized []
      (z.deflateBound sourceData.length)) 0 (z.deflate level sourceData
        (z.deflateBound sourceData.length)).2 (Nat.zero_le _)
    rw [Nat.zero_add, List.take_zero, List.nil_append] at htake
    rw [htake]
  · have hne : z.deflateBound sourceData.length % 2 ^ 32 ≠
        z.deflateBound sourceData.length := by
      omega
    rw [if_pos hne, if_neg hbound]

theorem pending_of_gzipCompress {sourceData compressedData : List UInt8}
    {level : Int} (hlevel : Zlib.ValidLevel level)
    (hlength : sourceData.length < 2 ^ 32)
    (h : gzipCompress z sourceData level = (ZlibCode.ok, compressedData)) :
    compressedData.length < 2 ^ 32 ∧
      pending z.inflateStart compressedData sourceData := by
  rw [gzipCompress_eq hkeeps hlevel hlength] at h
  split at h
  · rename_i hbound
    rcases hkeeps.deflate level sourceData _ hlevel (Nat.le_refl _)
      with ⟨-, hfits, hpending⟩
    cases h
    exact ⟨Nat.lt_of_le_of_lt hfits hbound, hpending⟩
  · cases h

theorem exists_gzipCompress {sourceData : List UInt8} {level : Int}
    (hlevel : Zlib.ValidLevel level)
    (hlength : sourceData.length ≤ 2 ^ 31) :
    exists compressedData,
      gzipCompress z sourceData level = (ZlibCode.ok, compressedData) := by
  rw [gzipCompress_eq hkeeps hlevel (by omega),
    if_pos (hkeeps.deflateBound _ hlength)]
  exact ⟨_, rfl⟩

end Contract

end Auction
end Rzu
