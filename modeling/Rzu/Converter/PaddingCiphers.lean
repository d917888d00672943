import Rzu.Converter.Credentials

/-!
# Ciphers that only pad

Lawful ciphers whose texts anyone can read, and the logins that an endpoint
sends with them.
-/

namespace Rzu
namespace Converter

open Library Packet Auth

/-!
## Padding
-/

/-- A text fills whole blocks, behind the length of its padding. -/
def pad (data : List UInt8) : List UInt8 :=
  UInt8.ofNat (16 - data.length % 16) ::
    (data ++ List.replicate (15 - data.length % 16) 0)

/-- Nothing has to make sense of an empty text. -/
def unpad (junk : List UInt8) : List UInt8 -> List UInt8
  | [] => junk
  | size :: rest => rest.take (rest.length + 1 - size.toNat)

theorem length_pad (data : List UInt8) :
    (pad data).length = (data.length / 16 + 1) * 16 := by
  rw [pad, List.length_cons, List.length_append, List.length_replicate]
  lia

theorem unpad_pad (junk data : List UInt8) : unpad junk (pad data) = data := by
  have hsize : (UInt8.ofNat (16 - data.length % 16)).toNat =
      16 - data.length % 16 := by
    rw [UInt8.toNat_ofNat']
    lia
  have hlength : data.length + (15 - data.length % 16) + 1 -
      (16 - data.length % 16) = data.length := by lia
  rw [pad, unpad, hsize, List.length_append, List.length_replicate, hlength,
    List.take_left]

/-- No cipher hides anything. -/
def padding (junk : List UInt8) : Ciphers where
  desEncrypt block := block
  desDecrypt block := block
  aesEncrypt _ data := pad data
  aesDecrypt _ data := unpad junk data
  RsaKey := Unit
  pemPublicKey _ := []
  publicEncrypt _ data := data.take 2048
  privateDecrypt _ data := data

theorem padding_lawful (junk : List UInt8) : (padding junk).Lawful where
  des _ _ := rfl
  desEncrypt_length _ h := h
  desDecrypt_length _ h := h
  aes _ data := unpad_pad junk data
  aes_length _ data := length_pad data
  rsa _ data h := List.take_of_length_le (by lia)
  pem_length _ := Nat.zero_le _
  rsa_length _ data := List.length_take_le _ data

theorem desCrypt_block (blocks : Nat) (buf : List UInt8) :
    desCrypt (fun block => block) blocks buf = buf := by
  induction blocks generalizing buf with
  | zero => rfl
  | succ blocks ih => rw [desCrypt, ih, List.take_append_drop]

/-!
## A login
-/

def loginRecord (name : Packet.CharString) (password : List UInt8) : Record :=
  let plain := Record.zero.setArray "password" (arrayOfBytes password)
  let encrypted := pad password
  let passwordAes := (((Record.zero.setInteger "password_size"
    encrypted.length).setArray "password"
      (arrayOfBytes encrypted)).setVector "password"
        (vectorOfBytes encrypted)).setVector "password_dyn"
          (vectorOfBytes encrypted)
  (((Record.zero.setString "account" name).setObject "passwordDes"
    plain).setObject "passwordPlain" plain).setObject "passwordAes" passwordAes

/-- Memory of a local packet, with these bytes in every password. -/
def memoryOf (bytes : List UInt8) : Record :=
  { Record.zero with
    object? := fun _ =>
      some (Record.zero.setArray "password" (arrayOfBytes bytes)) }

def surroundings (junk pkt accountPkt : List UInt8) :
    Surroundings (padding junk) where
  pkt := memoryOf pkt
  aesPkt := Record.zero
  rsaKeyPkt := Record.zero
  accountPkt := memoryOf accountPkt
  resultPkt := Record.zero
  randomKey := List.replicate 32 0
  generatedKey := ()
  authVersionString _ := []
  convertPacketId _ _ id _ := id

/-- A login that finds these bytes in the memory of the local packets. -/
def paddedLogin (kind : LoginKind) (name : Packet.CharString)
    (password junk pkt accountPkt : List UInt8) : Exchange (padding junk) where
  kind := kind
  converter :=
    { clientAesCipher := []
      serverAesCipher := []
      serverRsaCipher := none
      account :=
        { useImbc := false
          account := []
          password := []
          additionalInfos := []
          isBoraAccount := false } }
  clientKey := ()
  serverKey := List.replicate 32 0
  login _ := loginRecord name password
  atKey := surroundings junk pkt accountPkt
  atLogin := surroundings junk pkt accountPkt
  atServerKey := surroundings junk pkt accountPkt
  atSelect := surroundings junk pkt accountPkt
  memory := Record.zero
  garbage _ := 0
  selectServer := Record.zero
  oneTimeKey := 0

section Members

variable {name : Packet.CharString} {password : List UInt8} {version : Version}

theorem bytesOfArray_padded {bytes : List UInt8} {size : Nat}
    (h : bytes.length ≤ size) :
    bytesOfArray (arrayOfBytes bytes) size =
      bytes ++ List.replicate (size - bytes.length) 0 := by
  apply List.ext_getElem
  · rw [length_bytesOfArray, List.length_append, List.length_replicate]
    lia
  · intro i hi hi'
    by_cases hshort : i < bytes.length
    · simp [bytesOfArray, arrayOfBytes, hshort]
    · simp [bytesOfArray, arrayOfBytes, hshort,
        List.getElem_append_right (Nat.le_of_not_lt hshort)]

theorem length_pad_le (h : password.length ≤ 31) :
    (pad password).length ≤ 32 := by
  rw [length_pad]
  lia

theorem loginRecord_account :
    (loginRecord name password).string "account" = name := by
  simp [loginRecord, Record.setObject]

theorem loginRecord_des :
    (loginRecord name password).object "passwordDes" =
      Record.zero.setArray "password" (arrayOfBytes password) := by
  simp [loginRecord, Record.object_setObject]

theorem loginRecord_plain :
    (loginRecord name password).object "passwordPlain" =
      Record.zero.setArray "password" (arrayOfBytes password) := by
  simp [loginRecord, Record.object_setObject]

theorem loginRecord_aes :
    let passwordAes := (loginRecord name password).object "passwordAes"
    passwordAes.integer "password_size" = (pad password).length ∧
      passwordAes.array "password" = arrayOfBytes (pad password) ∧
      passwordAes.vector "password" = vectorOfBytes (pad password) ∧
      passwordAes.vector "password_dyn" = vectorOfBytes (pad password) := by
  have hobject : (loginRecord name password).object "passwordAes" = _ :=
    Record.object_setObject _ _ _ _
  simp only [hobject, if_true]
  refine ⟨?_, rfl, ?_, ?_⟩
  all_goals simp

theorem loginRecord_encodes (junk key : List UInt8) (kind : LoginKind)
    (hshort : password.length ≤ 31) :
    kind.Encodes (padding junk) version key (loginRecord name password)
      password := by
  rcases @loginRecord_aes name password with
    ⟨hsize, harray, hvector, hdyn⟩
  have hle := length_pad_le hshort
  have hpadded {size : Nat} (hroom : 32 ≤ size) :
      bytesOfArray (arrayOfBytes password) size =
        password ++ 0 :: List.replicate (size - password.length - 1) 0 := by
    rw [bytesOfArray_padded (Nat.le_trans hshort (by lia)),
      ← List.replicate_succ]
    congr 2
    lia
  have hplain {size : Nat} (hroom : 32 ≤ size) :
      (password ++ 0 :: List.replicate (size - password.length - 1)
        0).length = (bytesOfArray (arrayOfBytes password) size).length := by
    rw [hpadded hroom]
  unfold LoginKind.Encodes LoginKind.passwordField
  by_cases h811 : atLeast EPIC_8_1_1_RSA version = true
  · simp only [h811, if_true, hsize, harray, hvector, hdyn,
      bytesOfVector_vectorOfBytes]
    refine ⟨rfl, ?_⟩
    cases kind with
    | account =>
        change List.take (pad password).length (if _ then _ else _) = _
        split
        · exact List.take_length
        · rw [take_bytesOfArray _ (by split <;> lia),
            bytesOfArray_arrayOfBytes]
          rfl
    | imbc => exact List.take_length
  · simp only [h811, if_false, Bool.false_eq_true, loginRecord_des,
      loginRecord_plain, Record.array_setArray, if_true]
    cases kind with
    | account =>
        have hroom : 32 ≤
            if atLeast EPIC_5_2 version = true then 61 else 32 := by
          split <;> decide
        refine ⟨_, hplain hroom, ?_⟩
        rw [hpadded hroom]
        exact (desCrypt_block _ _).symm
    | imbc =>
        exact ⟨_, hplain (by decide), hpadded (by decide)⟩

theorem loginRecord_sendable (kind : LoginKind)
    (hname : kind.NameFits version name) (hshort : password.length ≤ 31) :
    kind.packet.Sendable version (loginRecord name password) ∧
      7 + (kind.packet.fields.widths version
        (loginRecord name password)).sum ≤ 65536 := by
  rcases @loginRecord_aes name password with
    ⟨hsize, harray, hvector, hdyn⟩
  have hle := length_pad_le hshort
  have hbytes : (forall val, val ∈ vectorOfBytes (pad password) ->
      Packet.Fits uint8 uint8 val) ∧
        (vectorOfBytes (pad password)).length ≤ 1024 := by
    rw [length_vectorOfBytes]
    exact ⟨fun val hval => fits_vectorOfBytes hval, by lia⟩
  have haccount : (loginRecord name password).string "account" = name :=
    loginRecord_account
  rw [← haccount] at hname
  cases kind with
  | account =>
      have hfits : AccountFits version (loginRecord name password) := {
        name := hname
        mac_stamp := fun _ i _ => fits_uint8 0
        passwordDes := fun _ i _ => by
          rw [loginRecord_des, Record.array_setArray, if_pos rfl]
          exact fits_uint8 _
        password_size := fun _ => by
          rw [hsize]
          exact fits_uint32_of_le (by lia)
        password := fun _ _ i _ => by
          rw [harray]
          exact fits_uint8 _
        password_dyn := fun _ => by
          rw [hdyn]
          exact hbytes
        infos := fun _ => infosFit_nil }
      have hsum := hfits.widths_sum
      refine ⟨hfits.sendable, ?_⟩
      change 7 + (TS_CA_ACCOUNT.fields.widths version _).sum ≤ 65536
      rw [account_widths, List.sum_append]
      split
      · rw [List.sum_nil]
        lia
      · change 7 + (_ + (List.flatMap _ []).sum) ≤ 65536
        rw [List.flatMap_nil, List.sum_nil]
        lia
  | imbc =>
      have hfits : ImbcFits version (loginRecord name password) := {
        name := hname
        passwordPlain := fun _ i _ => by
          rw [loginRecord_plain, Record.array_setArray, if_pos rfl]
          exact fits_uint8 _
        password_size := fun _ => by
          rw [hsize]
          exact fits_uint32_of_le (by lia)
        password := fun _ => by
          rw [hvector]
          exact hbytes }
      have hsum := hfits.widths_sum
      refine ⟨hfits.sendable, ?_⟩
      change 7 + (TS_CA_IMBC_ACCOUNT.fields.widths version _).sum ≤ 65536
      lia

end Members

theorem memoryOf_object (bytes : List UInt8) (name : String) :
    (memoryOf bytes).object name =
      Record.zero.setArray "password" (arrayOfBytes bytes) := rfl

theorem memoryOf_unassigned (bytes : List UInt8) (kind : LoginKind) :
    Struct.Unassigned kind.packet.fields (memoryOf bytes) := by
  have hbytes (i : Nat) : uint8.Fits
      (((memoryOf bytes).object "").array "password" i) := by
    rw [memoryOf_object, Record.array_setArray, if_pos rfl]
    exact fits_uint8 _
  cases kind with
  | account =>
      exact ⟨rfl, rfl, rfl, fun i _ => fits_uint8 0,
        ⟨fun i _ => hbytes i, fun i _ => hbytes i, trivial⟩,
        ⟨(by decide : uint32.Fits 0), fun i _ => hbytes i,
          fun i _ => hbytes i, rfl, trivial⟩, rfl, trivial⟩
  | imbc =>
      exact ⟨rfl, rfl, rfl, ⟨fun i _ => hbytes i, trivial⟩,
        ⟨(by decide : uint32.Fits 0), rfl, trivial⟩, trivial⟩

theorem paddedLogin_offers {kind : LoginKind} {name : Packet.CharString}
    {password : List UInt8} {version : Version}
    (hname : kind.NameFits version name) (hshort : password.length ≤ 31)
    (junk pkt accountPkt : List UInt8) :
    (paddedLogin kind name password junk pkt accountPkt).Offers version name
      password where
  name _ := loginRecord_account
  encodes key := loginRecord_encodes junk key kind hshort
  sendable _ := (loginRecord_sendable kind hname hshort).left
  size _ := (loginRecord_sendable kind hname hshort).right
  randomKey := List.length_replicate
  serverKey := List.length_replicate
  loginPkt := memoryOf_unassigned pkt kind
  accountPkt := memoryOf_unassigned accountPkt kind
  selectServer := (by decide : uint16.Fits 0 ∧ uint32.Fits 0)

end Converter
end Rzu
