import Rzu.Client.ClientAuthSession
import Rzu.Converter.Credentials

/-!
# Passwords in account packets

What the server reads in the account packet of a client: from a buffer that DES
has encrypted for any version, and from a text of AES.
-/

namespace Rzu
namespace Client

open Library Packet Auth Converter

/-!
## Names of any length
-/

/-- The bytes of a name that an account packet has room for. -/
def sentName (version : Version) (name : Packet.CharString) :
    Packet.CharString :=
  name.take
    ((if atLeast EPIC_9_6_6 version then 56
      else if atLeast EPIC_5_2 version then 61 else 19) - 1)

def sentAccount (version : Version) (r : Record) : Record :=
  r.setString "account" (sentName version (r.string "account"))

theorem account_layout (version : Version) (r : Record) :
    TS_CA_ACCOUNT.layout version r =
      TS_CA_ACCOUNT.layout version (sentAccount version r) := by
  have hmono : atLeast EPIC_9_6_6 version = true ->
      atLeast EPIC_5_2 version = true := atLeast_mono (by decide)
  by_cases h966 : atLeast EPIC_9_6_6 version = true
  all_goals by_cases h52 : atLeast EPIC_5_2 version = true
  all_goals simp_all [TS_CA_ACCOUNT, PacketType.layout, Struct.layout,
    Metatype.layout, since, upTo, within, sentAccount, sentName,
    Metatype.skip, Record.setString, Shape.elements, Record.object,
    List.take_take, Nat.min_comm]

theorem sentName_fits (version : Version) {name : Packet.CharString}
    (h : 0 ∉ name) :
    LoginKind.account.NameFits version (sentName version name) := by
  refine ⟨fun hmem => h (List.mem_of_mem_take hmem), ?_⟩
  rw [sentName, List.length_take]
  split
  · lia
  · split
    all_goals lia

theorem sendBytes_layout {packet : PacketType} {version : Version}
    {r r' : Record} (h : packet.Sendable version r')
    (hlayout : packet.layout version r = packet.layout version r')
    (garbage : Nat -> UInt8) :
    sendBytes packet version r garbage =
      sendBytes packet version r' garbage := by
  rcases h.sent garbage with ⟨chunks, hchunks, hsent, -⟩
  have hshort := h.short
  have htotal := h.total
  rw [PacketType.fieldSizes, hchunks, Option.getD_some] at hshort htotal
  rw [← List.length_flatten] at htotal
  have hsame := PacketType.sendPacket_layout (hlayout.trans hchunks)
    (fun chunk hchunk => hshort chunk.length (List.mem_map_of_mem hchunk))
    htotal garbage
  rw [sendBytes, sendBytes, hsent, hsame]

theorem account_reaches {version : Version} {r : Record}
    (h : AccountFits version (sentAccount version r))
    (garbage : Nat -> UInt8) :
    exists bytes, sendBytes TS_CA_ACCOUNT version r garbage = some bytes ∧
      forall memory, process TS_CA_ACCOUNT version bytes memory =
        some (some (TS_CA_ACCOUNT.fields.overwrite version
          (sentAccount version r) memory)) := by
  rcases sendBytes_carries h.sendable account_version garbage with
    ⟨bytes, hbytes, hcarries⟩
  refine ⟨bytes, ?_, hcarries.processed⟩
  rw [sendBytes_layout h.sendable (account_layout version r)]
  exact hbytes

/-!
## Passwords under DES
-/

variable {C : LoginCiphers} {version : Version}

/-- The passwords that a client can send. -/
def PasswordFits (version : Version) (password : Packet.CharString) : Prop :=
  0 ∉ password ∧
    password.length ≤
      if atLeast EPIC_8_1_1_RSA version then 63
      else if atLeast EPIC_5_2 version then 60 else 31

/--
A buffer with an encrypted password: all of its whole blocks, or those of the
first 32 bytes.  There is room for the NUL in what was encrypted.
-/
structure Encrypted (C : LoginCiphers) (buf : List UInt8)
    (password : Packet.CharString) (size : Nat) (rest : List UInt8) :
    Prop where
  sizes : size = 32 ∨ size = 61
  room : password.length < size
  nul : 0 ∉ password
  length : (password ++ 0 :: rest).length = 61
  encrypted : buf = C.desEncryptBuffer (password ++ 0 :: rest) size

theorem encrypted_copyOver {password : Packet.CharString}
    (hold : ¬atLeast EPIC_8_1_1_RSA version = true)
    (h : PasswordFits version password) {buf : List UInt8}
    (hlength : buf.length = 61) :
    Encrypted C
      (C.desEncryptBuffer (copyOver (cut password ++ [0]) buf)
        (if atLeast EPIC_5_2 version then 61 else 32))
      password (if atLeast EPIC_5_2 version then 61 else 32)
      (buf.drop (password.length + 1)) := by
  rcases h with ⟨hnul, hshort⟩
  rw [if_neg hold] at hshort
  have hroom : password.length <
      if atLeast EPIC_5_2 version then 61 else 32 := by
    split at hshort
    all_goals lia
  have hle : password.length + 1 ≤ 61 := by
    split at hroom
    all_goals lia
  have hplain : copyOver (cut password ++ [0]) buf =
      password ++ 0 :: buf.drop (password.length + 1) := by
    rw [cut_self hnul, copyOver_short (by
      rw [List.length_append, List.length_singleton, hlength]
      exact hle), List.append_assoc, List.length_append,
      List.length_singleton]
    rfl
  exact {
    sizes := by
      split
      · exact Or.inr rfl
      · exact Or.inl rfl
    room := hroom
    nul := hnul
    length := by
      rw [← hplain, length_copyOver, hlength]
    encrypted := by rw [hplain] }

namespace Encrypted

variable {buf rest : List UInt8} {password : Packet.CharString} {size : Nat}

theorem buf_length (h : Encrypted C buf password size rest)
    (hC : C.Lawful) : buf.length = 61 := by
  have hle : 8 * (size / 8) ≤ (password ++ 0 :: rest).length := by
    rw [h.length]
    rcases h.sizes with heq | heq
    all_goals lia
  rw [h.encrypted, Ciphers.desEncryptBuffer,
    length_desCrypt hC.desEncrypt_length hle, h.length]

/--
The server decrypts the seven whole blocks of its field, of which the version
of the packet has filled 61 bytes, or 32.
-/
theorem decrypts (h : Encrypted C buf password size rest) (hC : C.Lawful)
    (hold : ¬atLeast EPIC_8_1_1_RSA version = true)
    (hfits : PasswordFits version password) {field : List UInt8}
    (hlength : field.length = 61)
    (hfield : field.take (if atLeast EPIC_5_2 version then 61 else 32) =
      buf.take (if atLeast EPIC_5_2 version then 61 else 32)) :
    cut (C.desDecryptBuffer field 61) = password := by
  have hwidth : 32 ≤ if atLeast EPIC_5_2 version then 61 else 32 := by
    split
    all_goals lia
  have hsize : 4 ≤ size / 8 := by
    rcases h.sizes with heq | heq
    all_goals lia
  by_cases hshort : password.length ≤ 31
  · -- four blocks have the password with its NUL
    have hsame : field.take (8 * 4) =
        (desCrypt C.desEncrypt (size / 8) (password ++ 0 :: rest)).take
          (8 * 4) := by
      have hboth := congrArg (List.take 32) hfield
      rw [List.take_take, List.take_take, Nat.min_eq_left hwidth] at hboth
      rw [hboth, h.encrypted]
      rfl
    have hrecovered := hC.des_recovers 4 hsize (show 4 ≤ 61 / 8 by lia)
      (show 8 * 4 ≤ (password ++ 0 :: rest).length by
        rw [h.length]
        lia)
      (show 8 * 4 ≤ field.length by lia) hsame
    apply cut_of_take h.nul (n := 32)
    refine ⟨rest.take (31 - password.length), ?_⟩
    rw [← take_password hshort]
    exact hrecovered
  · have hlong := hfits.right
    rw [if_neg hold] at hlong
    have hroom := h.room
    have hsixty : size = 61 := by
      rcases h.sizes with heq | heq
      · lia
      · exact heq
    have h52 : atLeast EPIC_5_2 version = true := by
      by_contra hnot
      rw [if_neg hnot] at hlong
      exact hshort hlong
    rw [if_pos h52, List.take_of_length_le (Nat.le_of_eq hlength),
      List.take_of_length_le (Nat.le_of_eq (h.buf_length hC))] at hfield
    rw [hfield, h.encrypted, hsixty, Ciphers.desDecryptBuffer,
      Ciphers.desEncryptBuffer, desCrypt_cancel hC.desEncrypt_length hC.des]
    · exact cut_append h.nul rest
    · rw [h.length]
      lia

end Encrypted

/-!
## Local packets
-/

variable {memory : Record}

theorem desAccountMsg_fits
    (hmemory : Struct.Unassigned TS_CA_ACCOUNT.fields memory)
    (hold : ¬atLeast EPIC_8_1_1_RSA version = true)
    {username : Packet.CharString} (hname : 0 ∉ username)
    (cachedPassword : List UInt8) :
    AccountFits version (sentAccount version
      (desAccountMsg memory username cachedPassword)) := by
  rcases hmemory with ⟨-, -, -, hstamp, -, -, hinfos, -⟩
  have hstring : (desAccountMsg memory username cachedPassword).string
      "account" = username := by
    simp [desAccountMsg, Record.setObject]
  exact {
    name := by
      rw [sentAccount, hstring, Record.string_setString, if_pos rfl]
      exact sentName_fits version hname
    mac_stamp := fun _ i hi => hstamp i hi
    passwordDes := fun _ i _ => by
      change uint8.Fits (((desAccountMsg memory username
        cachedPassword).object "passwordDes").array "password" i)
      rw [desAccountMsg, Record.object_setObject, if_pos rfl,
        Record.array_setArray, if_pos rfl]
      exact (fits_arrayOfBytes cachedPassword i).left
    password_size := fun hnew => absurd hnew hold
    password := fun hnew => absurd hnew hold
    password_dyn := fun hnew =>
      absurd (atLeast_mono (by decide) hnew) hold
    infos := fun _ => by
      have hnil : (sentAccount version (desAccountMsg memory username
          cachedPassword)).objectVector "additionalInfos" = [] := hinfos
      rw [hnil]
      exact infosFit_nil }

theorem aesAccountMsg_aes (version : Version) (memory : Record)
    (username : Packet.CharString) (encrypted : List UInt8) :
    (aesAccountMsg version memory username encrypted).object "passwordAes" =
      if atLeast EPIC_9_6_7 version then
        ((memory.object "passwordAes").setInteger "password_size"
          encrypted.length).setVector "password_dyn"
            (vectorOfBytes encrypted)
      else
        ((memory.object "passwordAes").setInteger "password_size"
          encrypted.length).setArray "password" (arrayOfBytes
            (copyOver encrypted
              (bytesOfArray ((memory.object "passwordAes").array "password")
                516))) := by
  let passwordAes := (memory.object "passwordAes").setInteger "password_size"
    encrypted.length
  have hobject := Record.object_setObject memory "passwordAes" "passwordAes"
    (if atLeast EPIC_9_6_7 version then
      passwordAes.setVector "password_dyn" (vectorOfBytes encrypted)
    else
      passwordAes.setArray "password" (arrayOfBytes
        (copyOver encrypted
          (bytesOfArray (passwordAes.array "password") 516))))
  rw [if_pos rfl] at hobject
  exact hobject

theorem aesAccountMsg_fits
    (hmemory : Struct.Unassigned TS_CA_ACCOUNT.fields memory)
    (hnew : atLeast EPIC_8_1_1_RSA version = true)
    {username : Packet.CharString} (hname : 0 ∉ username)
    {encrypted : List UInt8} (hshort : encrypted.length ≤ 64) :
    AccountFits version (sentAccount version
      (aesAccountMsg version memory username encrypted)) := by
  rcases hmemory with ⟨-, -, -, hstamp, -, -, hinfos, -⟩
  have hstring : (aesAccountMsg version memory username encrypted).string
      "account" = username := by
    simp [aesAccountMsg]
  have haes : (sentAccount version (aesAccountMsg version memory username
      encrypted)).object "passwordAes" = _ :=
    aesAccountMsg_aes version memory username encrypted
  exact {
    name := by
      rw [sentAccount, hstring, Record.string_setString, if_pos rfl]
      exact sentName_fits version hname
    mac_stamp := fun _ i hi => hstamp i hi
    passwordDes := fun hold => absurd hnew hold
    password_size := fun _ => by
      rw [haes]
      split
      all_goals simp only [Record.setVector_integer,
        Record.setArray_integer, Record.integer_setInteger, if_true]
      all_goals exact fits_uint32_of_le hshort
    password := fun _ hold i _ => by
      rw [haes, if_neg hold, Record.array_setArray, if_pos rfl]
      exact (fits_arrayOfBytes _ i).left
    password_dyn := fun hdyn => by
      rw [haes, if_pos hdyn, Record.vector_setVector, if_pos rfl,
        length_vectorOfBytes]
      exact ⟨fun val hval => fits_vectorOfBytes hval, by lia⟩
    infos := fun _ => by
      have hnil : (sentAccount version (aesAccountMsg version memory username
          encrypted)).objectVector "additionalInfos" = [] := hinfos
      rw [hnil]
      exact infosFit_nil }

/-!
## What the server reads
-/

theorem serverPassword_des (hC : C.Lawful)
    (hmemory : Struct.Unassigned TS_CA_ACCOUNT.fields memory)
    (hold : ¬atLeast EPIC_8_1_1_RSA version = true)
    {username password : Packet.CharString} (hname : 0 ∉ username)
    (hfits : PasswordFits version password) {buf rest : List UInt8}
    {size : Nat} (hbuf : Encrypted C buf password size rest)
    (aesKey : List UInt8) (received : Record) (garbage : Nat -> UInt8) :
    (sendBytes TS_CA_ACCOUNT version
        (desAccountMsg memory username buf) garbage).bind
      (serverPassword C version aesKey received) = some password := by
  let accountMsg := desAccountMsg memory username buf
  rcases account_reaches
      (desAccountMsg_fits hmemory hold hname buf) garbage with
    ⟨bytes, hbytes, hprocessed⟩
  let packet := TS_CA_ACCOUNT.fields.overwrite version
    (sentAccount version accountMsg) received
  let field := bytesOfArray ((packet.object "passwordDes").array "password")
    61
  have hwidth : (if atLeast EPIC_5_2 version then 61 else 32) ≤ 61 := by
    split
    all_goals lia
  have hsent : LoginKind.account.passwordField version packet =
      buf.take (if atLeast EPIC_5_2 version then 61 else 32) := by
    have hcarried := passwordField_overwrite version
      (sentAccount version accountMsg) received LoginKind.account
    have harray : ((sentAccount version accountMsg).object
        "passwordDes").array "password" = arrayOfBytes buf := by
      change ((desAccountMsg memory username buf).object
        "passwordDes").array "password" = _
      rw [desAccountMsg, Record.object_setObject, if_pos rfl,
        Record.array_setArray, if_pos rfl]
    refine hcarried.trans ?_
    rw [LoginKind.passwordField, if_neg hold, harray]
    exact take_arrayOfBytes (by rw [hbuf.buf_length hC]; exact hwidth)
  have hfield : field.take (if atLeast EPIC_5_2 version then 61 else 32) =
      buf.take (if atLeast EPIC_5_2 version then 61 else 32) := by
    rw [← hsent, LoginKind.passwordField, if_neg hold]
    exact take_bytesOfArray _ hwidth
  have hlength : field.length = 61 := length_bytesOfArray _ _
  have h967 : ¬atLeast EPIC_9_6_7 version = true :=
    fun h => hold (atLeast_mono (by decide) h)
  have haccount : onAccount version aesKey false packet =
      some ⟨packet.string "account", field, EncryptMode.des, aesKey⟩ := by
    rw [onAccount]
    simp only [h967, hold, if_false, Bool.false_eq_true]
    rfl
  rw [hbytes, Option.bind_some, serverPassword, hprocessed]
  rw [Option.join_some, Option.bind_eq_bind, Option.bind_some,
    Option.bind_eq_bind, haccount, Option.bind_some, decryptPassword]
  simp only [hlength, ge_iff_le, Nat.reduceLeDiff, if_false]
  rw [hbuf.decrypts hC hold hfits hlength hfield]

theorem cast_int32_of_le {n : Nat} (h : n ≤ 64) :
    (int32.cast (n : Int)).toNat = n := by
  rw [IntType.cast_eq (fits_int32_of_le h),
    Int.toNat_natCast]

theorem serverPassword_aes (hC : C.Lawful)
    (hmemory : Struct.Unassigned TS_CA_ACCOUNT.fields memory)
    (hnew : atLeast EPIC_8_1_1_RSA version = true)
    {username password : Packet.CharString} (hname : 0 ∉ username)
    (hfits : PasswordFits version password) (aesKey : List UInt8)
    (received : Record) (garbage : Nat -> UInt8) :
    (sendBytes TS_CA_ACCOUNT version
        (aesAccountMsg version memory username
          (C.aesEncrypt aesKey password)) garbage).bind
      (serverPassword C version aesKey received) = some password := by
  let encrypted := C.aesEncrypt aesKey password
  have hpassword := hfits.right
  rw [if_pos hnew] at hpassword
  have hencrypted : encrypted.length = (password.length / 16 + 1) * 16 :=
    hC.aes_length aesKey password
  have hshort : encrypted.length ≤ 64 := by lia
  let accountMsg := aesAccountMsg version memory username encrypted
  rcases account_reaches
      (aesAccountMsg_fits hmemory hnew hname hshort) garbage with
    ⟨bytes, hbytes, hprocessed⟩
  let packet := TS_CA_ACCOUNT.fields.overwrite version
    (sentAccount version accountMsg) received
  have haes : (sentAccount version accountMsg).object "passwordAes" = _ :=
    aesAccountMsg_aes version memory username encrypted
  have hsize : (packet.object "passwordAes").integer "password_size" =
      (encrypted.length : Int) := by
    refine (password_size_overwrite version (sentAccount version accountMsg)
      received LoginKind.account hnew).trans ?_
    rw [haes]
    split
    all_goals simp only [Record.setVector_integer,
      Record.setArray_integer, Record.integer_setInteger, if_true]
  have hcarried : LoginKind.account.passwordField version packet =
      LoginKind.account.passwordField version
        (sentAccount version accountMsg) :=
    passwordField_overwrite version (sentAccount version accountMsg) received
      LoginKind.account
  have haccount : onAccount version aesKey false packet =
      some ⟨packet.string "account", encrypted, EncryptMode.aes, aesKey⟩ := by
    rw [LoginKind.passwordField, LoginKind.passwordField, if_pos hnew,
      if_pos hnew, haes] at hcarried
    rw [onAccount]
    by_cases h967 : atLeast EPIC_9_6_7 version = true
    · simp only [h967, if_true, Record.vector_setVector,
        bytesOfVector_vectorOfBytes] at hcarried
      simp only [h967, hnew, if_true, hcarried, hsize, Int.lt_irrefl,
        and_false, if_false, Bool.false_eq_true]
    · have hwidth : 77 ≤ if atLeast EPIC_9_6_6 version then 516 else 77 := by
        split
        all_goals lia
      have htake := congrArg (List.take encrypted.length) hcarried
      simp only [h967, if_false, Record.array_setArray, if_true,
        Bool.false_eq_true] at htake
      rw [take_bytesOfArray _ (by lia), take_bytesOfArray _ (by lia),
        take_arrayOfBytes (by
          rw [length_copyOver, length_bytesOfArray]
          lia), take_copyOver (by
          rw [length_bytesOfArray]
          lia)] at htake
      simp only [h967, hnew, if_true, if_false, hsize, Bool.false_eq_true,
        cast_int32_of_le hshort]
      rw [take_bytesOfArray _ (by lia), htake]
  have hwhole : encrypted.length / 16 * 16 = encrypted.length := by
    rw [hencrypted]
    lia
  rw [hbytes, Option.bind_some, serverPassword, hprocessed]
  rw [Option.join_some, Option.bind_eq_bind, Option.bind_some,
    Option.bind_eq_bind, haccount, Option.bind_some, decryptPassword]
  simp only [hwhole, List.take_length]
  rw [if_neg (by lia)]
  simp only [encrypted, hC.evp, Option.bind_eq_bind, Option.bind_some]
  rw [if_neg (by lia), cut_self hfits.left]

end Client
end Rzu
