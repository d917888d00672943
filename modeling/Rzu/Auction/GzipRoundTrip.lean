import Rzu.Auction.GzipFiles

/-!
# What is read back from a compressed file

A loop that stops when there is no more input leaves out what the stream still
has to give, and a loop that makes room only once never gets more than that
much.  Below the size of one pass, both loops give what was compressed.
-/

namespace Rzu
namespace Auction

open Library

/-! ## One pass -/

/-- The output so far is the front of the payload, and the rest is to come. -/
structure Restoring {z : Zlib}
    (pending : z.State -> List UInt8 -> List UInt8 -> Prop)
    (payload : List UInt8) (l : Inflating z) : Prop where
  front : l.uncompressedData.take l.outputIndex = payload.take l.outputIndex
  index : l.outputIndex ≤ payload.length
  size : l.outputIndex ≤ l.uncompressedData.length
  total : l.totalOut = l.outputIndex
  pending : pending l.state l.availIn (payload.drop l.outputIndex)

section Passes

variable {z : Zlib} {pending : z.State -> List UInt8 -> List UInt8 -> Prop}
  {payload : List UInt8} {l : Inflating z}
  {resizeOutput : List UInt8 -> List UInt8} {availOut : Nat -> Nat}

theorem restoring_start {compressedData : List UInt8}
    (hlength : compressedData.length < 2 ^ 32)
    (hpending : pending z.inflateStart compressedData payload) :
    Restoring pending payload
      { state := z.inflateStart
        availIn := compressedData.take (compressedData.length % 2 ^ 32)
        totalOut := 0
        uncompressedData := []
        outputIndex := 0 } where
  front := rfl
  index := Nat.zero_le _
  size := Nat.zero_le _
  total := rfl
  pending := by
    rw [Nat.mod_eq_of_lt hlength, List.take_length]
    exact hpending

/-- What a pass is given, if it resizes the buffer and casts its size. -/
structure Given (resizeOutput : List UInt8 -> List UInt8)
    (availOut : Nat -> Nat) (l : Inflating z) (size : Nat) : Prop where
  length : (resizeOutput l.uncompressedData).length = size
  front : (resizeOutput l.uncompressedData).take l.outputIndex =
    l.uncompressedData.take l.outputIndex
  room : availOut (size - l.outputIndex) = size - l.outputIndex
  index : l.outputIndex ≤ size

/-- What is known after a pass. -/
structure Passed (pending : z.State -> List UInt8 -> List UInt8 -> Prop)
    (payload : List UInt8) (size : Nat) (pass : ZlibCode × Inflating z) :
    Prop where
  code : pass.1.isFatal = false
  restoring : Restoring pending payload pass.2
  length : pass.2.uncompressedData.length = size
  stops : pass.2.outputIndex = size ∨
    (pass.2.outputIndex = payload.length ∧ pass.2.availIn = [])

theorem Restoring.pass (h : Restoring pending payload l)
    (hkeeps : z.Keeps pending) (hpayload : payload.length < 2 ^ 32)
    {size : Nat} (hgiven : Given resizeOutput availOut l size) :
    Passed pending payload size
      (inflatePass z resizeOutput availOut l) := by
  have hserves := hkeeps.inflate _ _ _ (size - l.outputIndex) h.pending
  have hindex := hgiven.index
  have hle := h.index
  unfold inflatePass
  simp only [hgiven.length, hgiven.room]
  generalize z.inflate l.state l.availIn (size - l.outputIndex) = call
    at hserves
  have hfits := hserves.fits
  have hproduced := hserves.produced_le
  rw [List.length_drop] at hproduced
  have hnext : size - (size - l.outputIndex - call.produced.length) =
      l.outputIndex + call.produced.length := by
    omega
  have hlength : (written (resizeOutput l.uncompressedData) l.outputIndex
      call.produced).length = size := by
    rw [written_length, hgiven.length]
    rw [hgiven.length]
    omega
  refine ⟨hserves.code, ⟨?_, ?_, ?_, ?_, ?_⟩, hlength, ?_⟩
  · change (written (resizeOutput l.uncompressedData) l.outputIndex
      call.produced).take (size - (size - l.outputIndex -
        call.produced.length)) = payload.take _
    rw [hnext, take_written (by rw [hgiven.length]; exact hindex),
      hgiven.front, h.front, List.take_add]
    exact congrArg _ hserves.produced
  · change size - (size - l.outputIndex - call.produced.length) ≤ _
    omega
  · change size - (size - l.outputIndex - call.produced.length) ≤
      (written (resizeOutput l.uncompressedData) l.outputIndex
        call.produced).length
    rw [hlength]
    omega
  · change (l.totalOut + call.produced.length) % 2 ^ 64 =
      size - (size - l.outputIndex - call.produced.length)
    rw [h.total, hnext, Nat.mod_eq_of_lt]
    omega
  · change pending call.state (l.availIn.drop call.consumed)
      (payload.drop (size - (size - l.outputIndex - call.produced.length)))
    rw [hnext, ← List.drop_drop]
    exact hserves.later
  · change size - (size - l.outputIndex - call.produced.length) = size ∨
      (size - (size - l.outputIndex - call.produced.length) =
        payload.length ∧ l.availIn.drop call.consumed = [])
    rw [hnext]
    rcases hserves.stops with hfull | ⟨hall, hinput⟩
    · omega
    · rw [List.length_drop] at hall
      exact Or.inr ⟨by omega, List.drop_eq_nil_of_le hinput⟩

theorem inflateLoop_succ {size fuel : Nat}
    (h : Passed pending payload size (inflatePass z resizeOutput availOut l)) :
    inflateLoop z resizeOutput availOut (fuel + 1) l =
      if (inflatePass z resizeOutput availOut l).2.availIn ≠ [] then
        inflateLoop z resizeOutput availOut fuel
          (inflatePass z resizeOutput availOut l).2
      else some
        (z.inflateEnd (inflatePass z resizeOutput availOut l).2.state,
          resized (inflatePass z resizeOutput availOut l).2.uncompressedData
            (inflatePass z resizeOutput availOut l).2.totalOut) := by
  rw [inflateLoop]
  simp only [h.code, Bool.false_eq_true, ↓reduceIte]

theorem Restoring.resized_eq (h : Restoring pending payload l) :
    resized l.uncompressedData l.totalOut = payload.take l.outputIndex := by
  rw [h.total, resized_of_le h.size, h.front]

theorem inflateStream_eq (hkeeps : z.Keeps pending) (fuel : Nat)
    (compressedData : List UInt8) :
    inflateStream z resizeOutput availOut fuel compressedData =
      inflateLoop z resizeOutput availOut fuel
        { state := z.inflateStart
          availIn := compressedData.take (compressedData.length % 2 ^ 32)
          totalOut := 0
          uncompressedData := []
          outputIndex := 0 } := by
  rw [inflateStream, if_neg]
  rw [hkeeps.inflateInit2]
  exact fun h => h rfl

end Passes

/-! ## A loop that always makes room -/

namespace AuctionCommonWriter

variable {z : Zlib} {pending : z.State -> List UInt8 -> List UInt8 -> Prop}
  {payload : List UInt8} {l : Inflating z}

theorem given (hfull : l.outputIndex = l.uncompressedData.length) :
    Given resizeOutput availOut l (l.uncompressedData.length + growth) where
  length := resized_length _ _
  front := take_resized (Nat.le_of_eq hfull) (by omega)
  room := by
    rw [hfull, Nat.add_sub_cancel_left]
    rfl
  index := by omega

/--
The loop gives the payload if it does not stop early, as with one pass, and
with a stream that has nothing left at the end of its input.
-/
theorem exists_inflateLoop (hkeeps : z.Keeps pending)
    (hpayload : payload.length < 2 ^ 32)
    (hstop : Zlib.Prompt pending ∨ payload.length ≤ growth)
    (h : Restoring pending payload l)
    (hfull : l.outputIndex = l.uncompressedData.length) :
    exists fuel, inflateLoop z resizeOutput availOut fuel l =
      some (ZlibCode.ok, payload) := by
  -- what is still to come gets less with every pass
  induction hrest : payload.length - l.outputIndex using
    Nat.strong_induction_on generalizing l with
  | h rest ih =>
      have hpass := h.pass hkeeps hpayload (given hfull)
      have hloop := fun fuel => @inflateLoop_succ _ _ _ _ _ _ _ fuel hpass
      generalize inflatePass z resizeOutput availOut l = pass at hpass hloop
      have hindex := hpass.restoring.index
      have hsize := hpass.length
      by_cases hinput : pass.2.availIn = []
      · have hall : pass.2.outputIndex = payload.length := by
          rcases hstop with hprompt | hsmall
          · have hpending := hpass.restoring.pending
            rw [hinput] at hpending
            have hnil := hprompt _ _ hpending
            rw [List.drop_eq_nil_iff] at hnil
            omega
          · rcases hpass.stops with hfilled | ⟨hall, -⟩
            · omega
            · exact hall
        refine ⟨1, ?_⟩
        rw [hloop 0, if_neg (fun hne => hne hinput), hkeeps.inflateEnd,
          hpass.restoring.resized_eq, hall, List.take_length]
      · have hfilled : pass.2.outputIndex = l.uncompressedData.length +
            growth := by
          rcases hpass.stops with hfilled | ⟨-, hnone⟩
          · exact hfilled
          · exact absurd hnone hinput
        have hpos : 0 < growth := by decide
        rcases ih (payload.length - pass.2.outputIndex) (by omega)
          hpass.restoring (hfilled.trans hsize.symm) rfl with ⟨fuel, hresult⟩
        refine ⟨fuel + 1, ?_⟩
        rw [hloop fuel, if_pos hinput, hresult]

theorem exists_uncompressGzip (hkeeps : z.Keeps pending)
    (hpayload : payload.length < 2 ^ 32)
    (hstop : Zlib.Prompt pending ∨ payload.length ≤ growth)
    {compressedData : List UInt8} (hlength : compressedData.length < 2 ^ 32)
    (hpending : pending z.inflateStart compressedData payload) :
    exists fuel, uncompressGzip z fuel compressedData =
      some (ZlibCode.ok, payload) := by
  rcases exists_inflateLoop hkeeps hpayload hstop
    (restoring_start hlength hpending) rfl with ⟨fuel, hfuel⟩
  exact ⟨fuel, (inflateStream_eq hkeeps fuel compressedData).trans hfuel⟩

theorem uncompressGzip_stored {fuel : Nat} {code : ZlibCode}
    {data : List UInt8} (hpayload : payload.length < 2 ^ 32)
    (h : uncompressGzip Zlib.stored fuel payload = some (code, data)) :
    data.length ≤ growth := by
  have hkeeps := Zlib.stored_keeps
  have hstart := @restoring_start Zlib.stored Zlib.storedPending payload
    payload hpayload rfl
  rw [uncompressGzip, inflateStream_eq hkeeps] at h
  cases fuel with
  | zero => cases h
  | succ fuel =>
      have hpass := hstart.pass hkeeps hpayload (given rfl)
      rw [inflateLoop_succ hpass] at h
      have hinput : (inflatePass Zlib.stored resizeOutput availOut
          { state := Zlib.stored.inflateStart
            availIn := payload.take (payload.length % 2 ^ 32)
            totalOut := 0
            uncompressedData := []
            outputIndex := 0 }).2.availIn = [] := by
        exact List.drop_length
      rw [if_neg (fun hne => hne hinput)] at h
      cases h
      have hsize := hpass.restoring.size
      rw [hpass.restoring.resized_eq, List.length_take]
      rw [hpass.length, List.length_nil, Nat.zero_add] at hsize
      omega

end AuctionCommonWriter

/-! ## A loop that makes room once -/

namespace AuctionWriter

variable {z : Zlib} {pending : z.State -> List UInt8 -> List UInt8 -> Prop}
  {payload : List UInt8} {l : Inflating z}

theorem header_ne (compressedData : List UInt8) :
    header compressedData ≠ 0x8B1F := by
  unfold header
  generalize compressedData.getD 0 0 = b
  intro heq
  have hnat := congrArg UInt32.toNat heq
  have hlt := b.toNat_lt
  have hshift : (b.toUInt32 <<< 8).toNat = b.toNat <<< 8 := by
    rw [UInt32.toNat_shiftLeft, UInt8.toNat_toUInt32]
    have hcount : (8 : UInt32).toNat % 32 = 8 := rfl
    rw [hcount, Nat.shiftLeft_eq]
    omega
  rw [UInt32.toNat_or, hshift, UInt8.toNat_toUInt32, Nat.or_comm,
    ← Nat.shiftLeft_add_eq_or_of_lt hlt, Nat.shiftLeft_eq] at hnat
  have hvalue : (0x8B1F : UInt32).toNat = 35615 := rfl
  -- no byte times 257 is that number
  omega

theorem dataSize_eq (compressedData : List UInt8) :
    dataSize compressedData = defaultSize := by
  rw [dataSize, if_pos (header_ne compressedData)]
  split <;> rfl

theorem resizeOutput_nil :
    resizeOutput defaultSize [] = resized [] defaultSize :=
  if_pos ⟨rfl, by decide⟩

theorem resizeOutput_of_ne_nil {size : Nat} {v : List UInt8} (h : v ≠ []) :
    resizeOutput size v = v := by
  rw [resizeOutput, if_neg (fun hnil => h hnil.left), if_pos h]

theorem given (hindex : l.outputIndex ≤ l.uncompressedData.length)
    (hlength : l.uncompressedData = [] ∨
      l.uncompressedData.length = defaultSize) :
    Given (resizeOutput defaultSize) availOut l defaultSize := by
  have hroom : availOut (defaultSize - l.outputIndex) =
      defaultSize - l.outputIndex := by
    have hlt : defaultSize < 2 ^ 32 := by decide
    exact Nat.mod_eq_of_lt (by omega)
  rcases hlength with hnil | hsize
  · rw [hnil, List.length_nil] at hindex
    have hzero : l.outputIndex = 0 := by omega
    refine ⟨?_, ?_, hroom, by omega⟩
    · rw [hnil, resizeOutput_nil, resized_length]
    · rw [hzero, List.take_zero, List.take_zero]
  · have hne : l.uncompressedData ≠ [] := by
      intro hnil
      rw [hnil] at hsize
      cases hsize
    refine ⟨?_, ?_, hroom, by omega⟩
    · rw [resizeOutput_of_ne_nil hne, hsize]
    · rw [resizeOutput_of_ne_nil hne]

theorem inflateLoop_length (hkeeps : z.Keeps pending)
    (hpayload : payload.length < 2 ^ 32)
    (h : Restoring pending payload l)
    (hlength : l.uncompressedData = [] ∨
      l.uncompressedData.length = defaultSize) {fuel : Nat} {code : ZlibCode}
    {data : List UInt8}
    (hresult : inflateLoop z (resizeOutput defaultSize) availOut fuel l =
      some (code, data)) : data.length ≤ defaultSize := by
  induction fuel generalizing l with
  | zero => cases hresult
  | succ fuel ih =>
      have hpass := h.pass hkeeps hpayload (given h.size hlength)
      rw [inflateLoop_succ hpass] at hresult
      split at hresult
      · exact ih hpass.restoring (Or.inr hpass.length) hresult
      · cases hresult
        have hsize := hpass.restoring.size
        rw [hpass.length] at hsize
        rw [hpass.restoring.resized_eq, List.length_take]
        omega

theorem uncompressGzip_length (hkeeps : z.Keeps pending)
    (hpayload : payload.length < 2 ^ 32) {compressedData : List UInt8}
    (hlength : compressedData.length < 2 ^ 32)
    (hpending : pending z.inflateStart compressedData payload) {fuel : Nat}
    {code : ZlibCode} {data : List UInt8}
    (h : uncompressGzip z fuel compressedData = some (code, data)) :
    data.length ≤ defaultSize := by
  rw [uncompressGzip, inflateStream_eq hkeeps, dataSize_eq] at h
  exact inflateLoop_length hkeeps hpayload (restoring_start hlength hpending)
    (Or.inl rfl) h

theorem exists_uncompressGzip (hkeeps : z.Keeps pending)
    (hsmall : payload.length < defaultSize) {compressedData : List UInt8}
    (hlength : compressedData.length < 2 ^ 32)
    (hpending : pending z.inflateStart compressedData payload) :
    exists fuel, uncompressGzip z fuel compressedData =
      some (ZlibCode.ok, payload) := by
  have hlt : defaultSize < 2 ^ 32 := by decide
  have hstart := restoring_start hlength hpending
  have hpass := hstart.pass hkeeps (by omega)
    (given hstart.size (Or.inl rfl))
  refine ⟨1, ?_⟩
  rw [uncompressGzip, inflateStream_eq hkeeps, dataSize_eq,
    inflateLoop_succ hpass]
  have hindex := hpass.restoring.index
  rcases hpass.stops with hfull | ⟨hall, hinput⟩
  · omega
  · rw [if_neg (fun hne => hne hinput), hkeeps.inflateEnd,
      hpass.restoring.resized_eq, hall, List.take_length]

end AuctionWriter

/-! ## Reading back -/

/-- Both writers give what they have compressed. -/
def ReadsBack (z : Zlib) (level : Int) (payload : List UInt8) : Prop :=
  (exists compressedData, AuctionWriter.compressGzip z payload level =
      (ZlibCode.ok, compressedData) ∧
    exists fuel, AuctionWriter.uncompressGzip z fuel compressedData =
      some (ZlibCode.ok, payload)) ∧
  exists compressedData, AuctionCommonWriter.compressGzip z payload level =
      (ZlibCode.ok, compressedData) ∧
    exists fuel, AuctionCommonWriter.uncompressGzip z fuel compressedData =
      some (ZlibCode.ok, payload)

section Reading

variable {z : Zlib} {pending : z.State -> List UInt8 -> List UInt8 -> Prop}
  {payload : List UInt8} {level : Int}

theorem readsBack_of_small (hkeeps : z.Keeps pending)
    (hlevel : Zlib.ValidLevel level)
    (hlength : payload.length < AuctionWriter.defaultSize)
    (hstop : Zlib.Prompt pending ∨
      payload.length ≤ AuctionCommonWriter.growth) :
    ReadsBack z level payload := by
  have hsize : AuctionWriter.defaultSize < 2 ^ 31 := by decide
  have hpayload : payload.length < 2 ^ 32 := by omega
  have hexists : exists compressedData, gzipCompress z payload level =
      (ZlibCode.ok, compressedData) :=
    exists_gzipCompress hkeeps hlevel (by omega)
  rcases hexists with ⟨compressedData, hcompress⟩
  rcases pending_of_gzipCompress hkeeps hlevel hpayload hcompress
    with ⟨hcompressed, hpending⟩
  exact ⟨⟨compressedData, hcompress, AuctionWriter.exists_uncompressGzip hkeeps
      hlength hcompressed hpending⟩,
    ⟨compressedData, hcompress, AuctionCommonWriter.exists_uncompressGzip
      hkeeps hpayload hstop hcompressed hpending⟩⟩

theorem not_readsBack_of_large (hkeeps : z.Keeps pending)
    (hlevel : Zlib.ValidLevel level) (hpayload : payload.length < 2 ^ 32)
    (hlarge : AuctionWriter.defaultSize < payload.length) :
    ¬ReadsBack z level payload := by
  rintro ⟨⟨compressedData, hcompress, fuel, hresult⟩, -⟩
  rcases pending_of_gzipCompress hkeeps hlevel hpayload hcompress
    with ⟨hcompressed, hpending⟩
  have hle := AuctionWriter.uncompressGzip_length hkeeps hpayload hcompressed
    hpending hresult
  omega

theorem not_readsBack_stored (hlevel : Zlib.ValidLevel level)
    (hpayload : payload.length < 2 ^ 32)
    (hlarge : AuctionCommonWriter.growth < payload.length) :
    ¬ReadsBack Zlib.stored level payload := by
  rintro ⟨-, compressedData, hcompress, fuel, hresult⟩
  rcases pending_of_gzipCompress Zlib.stored_keeps hlevel hpayload hcompress
    with ⟨-, hpending⟩
  have hsame : payload = compressedData := hpending
  rw [← hsame] at hresult
  have hle := AuctionCommonWriter.uncompressGzip_stored hpayload hresult
  omega

end Reading

/--
Exactly the payloads of at most one pass are read back whatever the library
does within its promises.
-/
theorem readsBack_iff {payload : List UInt8}
    (hpayload : payload.length < 2 ^ 32) :
    (forall (z : Zlib) pending level, z.Keeps pending ->
      Zlib.ValidLevel level -> ReadsBack z level payload) ↔
        payload.length ≤ AuctionCommonWriter.growth := by
  constructor
  · intro h
    by_contra hlarge
    have hlevel : Zlib.ValidLevel 9 := ⟨by decide, by decide⟩
    exact not_readsBack_stored hlevel hpayload (Nat.lt_of_not_le hlarge)
      (h Zlib.stored Zlib.storedPending 9 Zlib.stored_keeps hlevel)
  · intro hsmall z pending level hkeeps hlevel
    have hlt : AuctionCommonWriter.growth < AuctionWriter.defaultSize := by
      decide
    exact readsBack_of_small hkeeps hlevel (by omega) (Or.inr hsmall)

theorem readsBack_iff_short :
    (forall (z : Zlib) pending level, z.Keeps pending ->
      Zlib.ValidLevel level -> ReadsBack z level [82, 65, 72]) ↔
        [82, 65, 72].length ≤ AuctionCommonWriter.growth :=
  readsBack_iff (by decide)

/-- Whatever library it is, this payload is not read back. -/
theorem not_readsBack_zeros :
    (forall (z : Zlib) pending level, z.Keeps pending ->
      Zlib.ValidLevel level ->
        ¬ReadsBack z level (List.replicate (6 * 1024 * 1024 + 1) 0)) ∧
    exists (z : Zlib), exists pending, z.Keeps pending := by
  refine ⟨?_, Zlib.stored, Zlib.storedPending, Zlib.stored_keeps⟩
  intro z pending level hkeeps hlevel
  apply not_readsBack_of_large hkeeps hlevel
  · rw [List.length_replicate]
    decide
  · rw [List.length_replicate]
    exact Nat.lt_succ_self _

end Auction
end Rzu
