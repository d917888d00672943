import Rzu.Library.Keystream
import Rzu.Library.LittleEndian

/-!
# The RC4 cipher

The modified key schedule and the preparation of `RC4Cipher`, over the state
and the output function of RC4 itself.
-/

namespace Rzu
namespace Cipher

open Library

/-- `RC4_KEY`: whatever is stored in it has been masked to a byte. -/
structure RC4Key where
  x : UInt8
  y : UInt8
  data : Vector UInt8 256

def entry (data : Vector UInt8 256) (i : UInt8) : UInt8 :=
  data.get ⟨i.toNat, i.toNat_lt⟩

def exchange (data : Vector UInt8 256) (a b : UInt8) : Vector UInt8 256 :=
  (data.set a.toNat (entry data b) a.toNat_lt).set b.toNat
    (entry data a) b.toNat_lt

/-- A round of the key schedule.  The key byte is picked by `j`, not `i`. -/
def setKeyRound (key : List UInt8) (data : Vector UInt8 256) (j i : UInt8) :
    Vector UInt8 256 × UInt8 :=
  let j' := key.getD (j.toNat % key.length) 0 + entry data j + j
  (exchange data i j', j')

/-- The rounds of the key schedule from some index on. -/
def setKeyRounds (key : List UInt8) :
    Nat -> Nat -> Vector UInt8 256 -> UInt8 -> Vector UInt8 256
  | 0, _, data, _ => data
  | rounds + 1, i, data, j =>
      let next := setKeyRound key data j (UInt8.ofNat i)
      setKeyRounds key rounds (i + 1) next.1 next.2

/-- The table before the first round of the key schedule. -/
def identityTable : Vector UInt8 256 :=
  Vector.ofFn fun i => UInt8.ofNat i.val

def modifiedRC4SetKey (key : List UInt8) : RC4Key where
  x := 0
  y := 0
  data := setKeyRounds key 256 0 identityTable 0

/-- The part of an RC4 step that changes the key. -/
def RC4Key.stir (key : RC4Key) : RC4Key :=
  let x := key.x + 1
  let y := entry key.data x + key.y
  { x := x
    y := y
    data := exchange key.data x y }

/-- The byte that follows a step. -/
def RC4Key.output (key : RC4Key) : UInt8 :=
  entry key.data (entry key.data key.x + entry key.data key.y)

def rc4 : StreamCipher RC4Key where
  next key := (key.stir.output, key.stir)

/-- `prepare` simulates the transmission of 1013 bytes. -/
def prepare (key : List UInt8) : RC4Key :=
  rc4.advance (modifiedRC4SetKey key) 1013

/-- The default of `core.stream_cipher`. -/
def defaultStreamCipher : List UInt8 :=
  [125, 104, 55, 57, 113, 126, 66, 37, 97, 108, 59, 107, 39, 121, 32, 36, 69]

/-- The key that new sessions copy, once the configuration is loaded. -/
def encryptedSessionCachedCipher : RC4Key :=
  prepare defaultStreamCipher

/-!
## Evaluation

The table packed into one number, least significant entry first.  Each round
reads and exchanges entries of that number, and binds the results before it
goes on, so that a run of any length evaluates in constant space.
-/

def pack (data : Vector UInt8 256) : Nat :=
  leNat data.toList

theorem pack_entry (data : Vector UInt8 256) (i : UInt8) :
    pack data / 256 ^ i.toNat % 256 = (entry data i).toNat := by
  have hlen : i.toNat < data.toList.length := by
    rw [Vector.length_toList]
    exact i.toNat_lt
  rw [pack, leNat_getElem hlen]
  rfl

/-- A packed table after an exchange of two entries. -/
def packedExchange (table a b atA atB : Nat) : Nat :=
  table + (256 ^ a * atB + 256 ^ b * atA) -
    (256 ^ a * atA + 256 ^ b * atB)

theorem pack_exchange (data : Vector UInt8 256) (a b : UInt8) :
    pack (exchange data a b) =
      packedExchange (pack data) a.toNat b.toNat
        (entry data a).toNat (entry data b).toNat := by
  have hlen : a.toNat < data.toList.length := by
    rw [Vector.length_toList]
    exact a.toNat_lt
  have hlen' : b.toNat <
      (data.toList.set a.toNat (entry data b)).length := by
    rw [List.length_set, Vector.length_toList]
    exact b.toNat_lt
  have hfirst := leNat_set hlen (entry data b)
  have hsecond := leNat_set hlen' (entry data a)
  have hentry : (data.toList.set a.toNat (entry data b))[b.toNat] =
      entry data b := by
    rw [List.getElem_set]
    split
    · rfl
    · rfl
  have hentry' : data.toList[a.toNat] = entry data a := rfl
  rw [hentry] at hsecond
  rw [hentry'] at hfirst
  rw [pack, pack, exchange, Vector.toList_set, Vector.toList_set,
    packedExchange]
  lia

/-- Evaluate a number before passing it on. -/
def forced {result : Type} (n : Nat) (use : Nat -> result) : result :=
  match n with
  | 0 => use 0
  | n + 1 => use (n + 1)

theorem forced_eq {result : Type} (n : Nat) (use : Nat -> result) :
    forced n use = use n := by
  cases n with
  | zero => rfl
  | succ n => rfl

def packedRounds (key : List UInt8) : Nat -> Nat -> Nat -> Nat -> Nat
  | 0, _, table, _ => table
  | rounds + 1, i, table, j =>
      forced (table / 256 ^ j % 256) fun atJ =>
      forced (((key.getD (j % key.length) 0).toNat + atJ + j) % 256)
        fun j' =>
      forced (table / 256 ^ i % 256) fun atI =>
      forced (table / 256 ^ j' % 256) fun atJ' =>
      forced (packedExchange table i j' atI atJ') fun table' =>
      packedRounds key rounds (i + 1) table' j'

theorem packedRounds_eq (key : List UInt8) (rounds i : Nat)
    (data : Vector UInt8 256) (j : UInt8) (hi : i + rounds ≤ 256) :
    packedRounds key rounds i (pack data) j.toNat =
      pack (setKeyRounds key rounds i data j) := by
  induction rounds generalizing i data j with
  | zero => rfl
  | succ rounds ih =>
      have hindex : (UInt8.ofNat i).toNat = i := by
        rw [UInt8.toNat_ofNat']
        lia
      rw [packedRounds, setKeyRounds, ← ih (i + 1) _ _ (by lia)]
      simp only [forced_eq, setKeyRound]
      have hj : ((key.getD (j.toNat % key.length) 0).toNat +
          pack data / 256 ^ j.toNat % 256 + j.toNat) % 256 =
          (key.getD (j.toNat % key.length) 0 + entry data j + j).toNat := by
        rw [pack_entry, UInt8.toNat_add, UInt8.toNat_add]
        lia
      have hatI : pack data / 256 ^ i % 256 =
          (entry data (UInt8.ofNat i)).toNat := by
        rw [← pack_entry, hindex]
      rw [hj, hatI, pack_entry, pack_exchange, hindex]

def packedAdvance : Nat -> Nat -> Nat -> Nat -> Nat × Nat × Nat
  | 0, x, y, table => (x, y, table)
  | n + 1, x, y, table =>
      forced ((x + 1) % 256) fun x' =>
      forced (table / 256 ^ x' % 256) fun atX =>
      forced ((atX + y) % 256) fun y' =>
      forced (table / 256 ^ y' % 256) fun atY =>
      forced (packedExchange table x' y' atX atY) fun table' =>
      packedAdvance n x' y' table'

def RC4Key.packed (key : RC4Key) : Nat × Nat × Nat :=
  (key.x.toNat, key.y.toNat, pack key.data)

theorem packedAdvance_eq (n : Nat) (key : RC4Key) :
    packedAdvance n key.x.toNat key.y.toNat (pack key.data) =
      (rc4.advance key n).packed := by
  induction n generalizing key with
  | zero => rfl
  | succ n ih =>
      have hx : (key.x.toNat + 1) % 256 = (key.x + 1).toNat := by
        rw [UInt8.toNat_add]
        rfl
      have hy : ((entry key.data (key.x + 1)).toNat + key.y.toNat) % 256 =
          (entry key.data (key.x + 1) + key.y).toNat := by
        rw [UInt8.toNat_add]
      rw [packedAdvance, StreamCipher.advance]
      simp only [forced_eq]
      rw [hx, pack_entry, hy, pack_entry, ← pack_exchange]
      exact ih key.stir

/-- The output byte of a packed key. -/
def packedOutput (key : Nat × Nat × Nat) : Nat :=
  key.2.2 / 256 ^ ((key.2.2 / 256 ^ key.1 % 256 +
    key.2.2 / 256 ^ key.2.1 % 256) % 256) % 256

theorem packedOutput_packed (key : RC4Key) :
    packedOutput key.packed = key.output.toNat := by
  have hsum : ((entry key.data key.x).toNat +
      (entry key.data key.y).toNat) % 256 =
      (entry key.data key.x + entry key.data key.y).toNat := by
    rw [UInt8.toNat_add]
  rw [packedOutput, RC4Key.packed]
  simp only [pack_entry, hsum]
  rfl

theorem packedOutput_packedAdvance (key : RC4Key) (n : Nat) :
    packedOutput
        (packedAdvance (n + 1) key.x.toNat key.y.toNat (pack key.data)) =
      (rc4.keyByte key n).toNat := by
  rw [packedAdvance_eq, packedOutput_packed, StreamCipher.advance_add]
  rfl

theorem pack_modifiedRC4SetKey (key : List UInt8) :
    pack (modifiedRC4SetKey key).data =
      packedRounds key 256 0 (pack identityTable) 0 := by
  have hrounds := packedRounds_eq key 256 0 identityTable 0
    (Nat.le_refl 256)
  rw [UInt8.toNat_zero] at hrounds
  rw [hrounds, modifiedRC4SetKey]

theorem keyByte_prepare (key : List UInt8) (n : Nat) :
    (rc4.keyByte (prepare key) n).toNat =
      packedOutput
        (packedAdvance (1013 + n + 1) 0 0
          (packedRounds key 256 0 (pack identityTable) 0)) := by
  rw [← pack_modifiedRC4SetKey, prepare, StreamCipher.keyByte_advance]
  have hadvance :=
    packedOutput_packedAdvance (modifiedRC4SetKey key) (1013 + n)
  have hx : (modifiedRC4SetKey key).x.toNat = 0 := rfl
  have hy : (modifiedRC4SetKey key).y.toNat = 0 := rfl
  rw [hx, hy] at hadvance
  exact hadvance.symm

theorem defaultStreamCipher_keyByte_four :
    rc4.keyByte encryptedSessionCachedCipher 4 = 43 := by
  apply UInt8.toNat_inj.mp
  rw [encryptedSessionCachedCipher, keyByte_prepare]
  decide +kernel

theorem defaultStreamCipher_keyByte_five :
    rc4.keyByte encryptedSessionCachedCipher 5 = 37 := by
  apply UInt8.toNat_inj.mp
  rw [encryptedSessionCachedCipher, keyByte_prepare]
  decide +kernel

end Cipher
end Rzu
