import Mathlib.Algebra.Order.BigOperators.Group.List
import Mathlib.Algebra.Order.Group.Nat
import Rzu.Converter.Login
import Rzu.Packet.FieldSizes

/-!
# Packets of a login

How the packets of a login are dispatched, what they carry, and that they can
be sent.
-/

namespace Rzu
namespace Converter

open Library Packet Auth

variable {C : Ciphers} {client server version : Version}

theorem upTo_eq_true {epic : Version} {r : Record}
    (h : upTo epic version r = true) : ¬atLeast epic version = true := by
  simpa [upTo] using h

theorem within_eq_true {epic later : Version} {r : Record}
    (h : within epic later version r = true) :
    atLeast epic version = true ∧ ¬atLeast later version = true := by
  simpa [within] using h

/-!
## What the converter does with a packet
-/

namespace SpecificPacketConverter

variable {s : SpecificPacketConverter C} {around : Surroundings C}
variable {r : Record} {bytes : List UInt8}

theorem rsaPublicKey_id (version : Version) :
    (TS_CA_RSA_PUBLIC_KEY.getId version).toNat = 71 ∨
      (TS_CA_RSA_PUBLIC_KEY.getId version).toNat = 1071 := by
  by_cases h : atLeast EPIC_9_6_3 version = true
  · right
    simp [TS_CA_RSA_PUBLIC_KEY, h]
  · left
    simp [TS_CA_RSA_PUBLIC_KEY, h]

theorem aesKeyIv_id (version : Version) :
    (TS_AC_AES_KEY_IV.getId version).toNat = 72 ∨
      (TS_AC_AES_KEY_IV.getId version).toNat = 1072 := by
  by_cases h : atLeast EPIC_9_6_3 version = true
  · right
    simp [TS_AC_AES_KEY_IV, h]
  · left
    simp [TS_AC_AES_KEY_IV, h]

theorem version_id (version : Version) :
    (TS_CA_VERSION.getId version).toNat = 10001 := rfl

theorem account_id (version : Version) :
    (TS_CA_ACCOUNT.getId version).toNat = 10010 := rfl

theorem imbcAccount_id (version : Version) :
    (TS_CA_IMBC_ACCOUNT.getId version).toNat = 10012 := rfl

theorem accountName_id (version : Version) :
    (TS_AC_ACCOUNT_NAME.getId version).toNat = 10014 := rfl

theorem selectServer_id (version : Version) :
    (TS_AC_SELECT_SERVER.getId version).toNat = 10024 := rfl

theorem whenProcessed_carries {packet : PacketType}
    (h : Carries packet version r bytes)
    (handler : Record -> Conversion C) :
    s.whenProcessed around packet version bytes handler =
      some (handler (packet.fields.overwrite version r around.pkt)) := by
  rw [whenProcessed, h.processed]
  rfl

theorem convert_rsaPublicKey
    (h : Carries TS_CA_RSA_PUBLIC_KEY client r bytes) :
    s.convertAuthPacketAndSend client server around bytes =
      some (s.onRsaPublicKey around
        (TS_CA_RSA_PUBLIC_KEY.fields.overwrite client r around.pkt)) := by
  have hversion : ¬(TS_CA_RSA_PUBLIC_KEY.getId client).toNat = 10001 := by
    rcases rsaPublicKey_id client with hid | hid
    all_goals lia
  simp only [convertAuthPacketAndSend, h.id, version_id, hversion,
    decide_false, decide_true, if_true, if_false, Bool.false_eq_true]
  exact whenProcessed_carries h _

theorem convert_account (h : Carries TS_CA_ACCOUNT client r bytes) :
    s.convertAuthPacketAndSend client server around bytes =
      some (onAccount client server around
        { s with account := { s.account with isBoraAccount := false } }
        (TS_CA_ACCOUNT.fields.overwrite client r around.pkt)) := by
  have hrsa : ¬10010 = (TS_CA_RSA_PUBLIC_KEY.getId client).toNat := by
    rcases rsaPublicKey_id client with hid | hid
    all_goals lia
  simp only [convertAuthPacketAndSend, h.id, version_id, account_id, hrsa,
    decide_false, decide_true, if_true, if_false, Bool.false_eq_true]
  exact whenProcessed_carries h _

theorem convert_imbcAccount (h : Carries TS_CA_IMBC_ACCOUNT client r bytes) :
    s.convertAuthPacketAndSend client server around bytes =
      some (s.onImbcAccount client server around
        (TS_CA_IMBC_ACCOUNT.fields.overwrite client r around.pkt)) := by
  have hrsa : ¬10012 = (TS_CA_RSA_PUBLIC_KEY.getId client).toNat := by
    rcases rsaPublicKey_id client with hid | hid
    all_goals lia
  simp only [convertAuthPacketAndSend, h.id, version_id, account_id,
    imbcAccount_id, hrsa, decide_false, decide_true, if_true, if_false,
    Bool.false_eq_true, Nat.reduceEqDiff]
  exact whenProcessed_carries h _

theorem convert_aesKeyIv (h : Carries TS_AC_AES_KEY_IV server r bytes) :
    s.convertAuthPacketAndSend client server around bytes =
      some (s.onAesKeyIv server around
        (TS_AC_AES_KEY_IV.fields.overwrite server r around.pkt)) := by
  have hids : ¬(TS_AC_AES_KEY_IV.getId server).toNat = 10001 ∧
      ¬(TS_AC_AES_KEY_IV.getId server).toNat =
        (TS_CA_RSA_PUBLIC_KEY.getId client).toNat ∧
      ¬(TS_AC_AES_KEY_IV.getId server).toNat = 10010 ∧
      ¬(TS_AC_AES_KEY_IV.getId server).toNat = 10012 := by
    rcases rsaPublicKey_id client with hid | hid
    all_goals rcases aesKeyIv_id server with hid' | hid'
    all_goals lia
  simp only [convertAuthPacketAndSend, h.id, version_id, account_id,
    imbcAccount_id, hids, decide_false, decide_true, if_true, if_false,
    Bool.false_eq_true]
  exact whenProcessed_carries h _

theorem convert_selectServer (h : Carries TS_AC_SELECT_SERVER server r bytes) :
    s.convertAuthPacketAndSend client server around bytes =
      some (s.onSelectServer client server
        (TS_AC_SELECT_SERVER.fields.overwrite server r around.pkt)) := by
  have hids : ¬10024 = (TS_CA_RSA_PUBLIC_KEY.getId client).toNat ∧
      ¬10024 = (TS_AC_AES_KEY_IV.getId server).toNat := by
    rcases rsaPublicKey_id client with hid | hid
    all_goals rcases aesKeyIv_id server with hid' | hid'
    all_goals lia
  simp only [convertAuthPacketAndSend, h.id, version_id, account_id,
    imbcAccount_id, accountName_id, selectServer_id, hids, decide_false,
    decide_true, if_true, if_false, Bool.false_eq_true, Nat.reduceEqDiff]
  exact whenProcessed_carries h _

end SpecificPacketConverter

/-!
## Packets of bytes
-/

section BytePackets

variable {packet : PacketType} {name : String} {T : IntType} {r : Record}
variable {bytes : List UInt8}

def byteStruct (name : String) (T : IntType) : Struct :=
  Struct.field name always (Metatype.count T Container.vector none)
    (Struct.field name always (Metatype.dynarray uint8 uint8) Struct.nil)

theorem sendable_bytes (hfields : packet.fields = byteStruct name T)
    (hT : T.size ≤ 4) (hmax : 4096 ≤ T.max)
    (hr : r.vector name = vectorOfBytes bytes)
    (hlength : bytes.length ≤ 4096) (version : Version) :
    packet.Sendable version r := by
  have hsize : (r.vector name).length = bytes.length := by
    rw [hr, length_vectorOfBytes]
  have hle : (r.vector name).length ≤ T.max := by lia
  apply PacketType.Sendable.of_widths
  all_goals rw [hfields]
  · exact ⟨fun h => (nomatch h), fun h => (nomatch h),
      fun h => (nomatch h), fun h => (nomatch h), trivial⟩
  · exact ⟨fun _ h => (nomatch h), fun _ h => (nomatch h), trivial⟩
  · refine ⟨trivial, ?_, trivial⟩
    change Function.update _ name _ name = _
    rw [Function.update_self]
    exact getClampedCount_eq hle
  · exact ⟨trivial, trivial, trivial⟩
  · refine ⟨fun _ => ⟨hT, hle⟩, fun _ => ?_, trivial⟩
    intro val hval
    rw [hr] at hval
    exact fits_vectorOfBytes hval
  · intro width hwidth
    simp only [byteStruct, Struct.widths, always, if_true, Metatype.width,
      List.mem_cons, List.not_mem_nil, or_false, hsize] at hwidth
    have hone : uint8.size = 1 := rfl
    lia
  · simp only [byteStruct, Struct.widths, always, if_true, Metatype.width,
      List.sum_cons, List.sum_nil, hsize]
    have hone : uint8.size = 1 := rfl
    lia

theorem vector_overwrite_bytes (version : Version) (r g : Record) :
    ((byteStruct name T).overwrite version r g).vector name =
      r.vector name := by
  simp [byteStruct, Struct.overwrite, always, Metatype.restore]

theorem byteStruct_version : (byteStruct name T).VersionConditions :=
  ⟨fun _ _ _ => rfl, fun _ _ _ => rfl, trivial⟩

end BytePackets

/-!
## Members of an account packet
-/

section AccountMembers

variable (version : Version) (r g : Record)

/-- The members of an account packet after a deserialization. -/
structure AccountMembers (pkt : Record) : Prop where
  account : pkt.string "account" = r.string "account"
  passwordDes : pkt.object "passwordDes" =
    if atLeast EPIC_8_1_1_RSA version then g.object "passwordDes"
    else TS_ACCOUNT_PASSWORD_DES.overwrite version (r.object "passwordDes")
      (g.object "passwordDes")
  passwordAes : pkt.object "passwordAes" =
    if atLeast EPIC_8_1_1_RSA version then
      TS_ACCOUNT_PASSWORD_AES.overwrite version (r.object "passwordAes")
        (g.object "passwordAes")
    else g.object "passwordAes"
  additionalInfos : pkt.objectVector "additionalInfos" =
    g.objectVector "additionalInfos" ++
      if atLeast EPIC_9_6_6 version then []
      else overwriteEach
        (fun item old => TS_ACCOUNT_ADDITIONAL_INFO.overwrite version item
          old)
        (r.objectVector "additionalInfos")
        (List.replicate (r.objectVector "additionalInfos").length
          Record.zero)

theorem account_members :
    AccountMembers version r g
      (TS_CA_ACCOUNT.fields.overwrite version r g) := by
  have hmono : atLeast EPIC_9_6_6 version = true ->
      atLeast EPIC_8_1_1_RSA version = true := atLeast_mono (by decide)
  have hmono' : atLeast EPIC_8_1_1_RSA version = true ->
      atLeast EPIC_5_2 version = true := atLeast_mono (by decide)
  constructor
  all_goals by_cases h966 : atLeast EPIC_9_6_6 version = true
  all_goals by_cases h52 : atLeast EPIC_5_2 version = true
  all_goals by_cases h811 : atLeast EPIC_8_1_1_RSA version = true
  all_goals simp_all [TS_CA_ACCOUNT, Struct.overwrite, since, upTo, within,
    Metatype.restore, Metatype.copyDefaultValue, Shape.restore,
    Shape.copyDefaultValue, Record.setObject, Record.setObjectVector,
    Record.object, Record.setString, Record.setArray]

/-- The same for an account packet of the other kind. -/
structure ImbcMembers (pkt : Record) : Prop where
  account : pkt.string "account" = r.string "account"
  passwordPlain : pkt.object "passwordPlain" =
    if atLeast EPIC_8_1_1_RSA version then g.object "passwordPlain"
    else TS_IMBC_ACCOUNT_PASSWORD_PLAIN.overwrite version
      (r.object "passwordPlain") (g.object "passwordPlain")
  passwordAes : pkt.object "passwordAes" =
    if atLeast EPIC_8_1_1_RSA version then
      TS_IMBC_ACCOUNT_PASSWORD_AES.overwrite version
        (r.object "passwordAes") (g.object "passwordAes")
    else g.object "passwordAes"

theorem imbc_members :
    ImbcMembers version r g
      (TS_CA_IMBC_ACCOUNT.fields.overwrite version r g) := by
  have hmono : atLeast EPIC_9_6_6 version = true ->
      atLeast EPIC_7_4 version = true := atLeast_mono (by decide)
  constructor
  all_goals by_cases h966 : atLeast EPIC_9_6_6 version = true
  all_goals by_cases h74 : atLeast EPIC_7_4 version = true
  all_goals by_cases h811 : atLeast EPIC_8_1_1_RSA version = true
  all_goals simp_all [TS_CA_IMBC_ACCOUNT, Struct.overwrite, since, upTo,
    within, Metatype.restore, Metatype.copyDefaultValue, Shape.restore,
    Shape.copyDefaultValue, Record.setObject, Record.object,
    Record.setString]

theorem password_size_overwrite (kind : LoginKind)
    (h : atLeast EPIC_8_1_1_RSA version = true) :
    ((kind.packet.fields.overwrite version r g).object
        "passwordAes").integer "password_size" =
      (r.object "passwordAes").integer "password_size" := by
  cases kind with
  | account =>
      change ((TS_CA_ACCOUNT.fields.overwrite version r g).object
        "passwordAes").integer _ = _
      rw [(account_members _ _ _).passwordAes, if_pos h]
      by_cases h966 : atLeast EPIC_9_6_6 version = true
      all_goals by_cases h967 : atLeast EPIC_9_6_7 version = true
      all_goals simp_all [TS_ACCOUNT_PASSWORD_AES, Struct.overwrite, since,
        upTo, within, always, Metatype.restore, Metatype.copyDefaultValue]
  | imbc =>
      change ((TS_CA_IMBC_ACCOUNT.fields.overwrite version r g).object
        "passwordAes").integer _ = _
      rw [(imbc_members _ _ _).passwordAes, if_pos h]
      simp [TS_IMBC_ACCOUNT_PASSWORD_AES, Struct.overwrite, always,
        Metatype.restore]

theorem passwordField_overwrite (kind : LoginKind) :
    kind.passwordField version
        (kind.packet.fields.overwrite version r g) =
      kind.passwordField version r := by
  cases kind with
  | account =>
      change LoginKind.account.passwordField version
        (TS_CA_ACCOUNT.fields.overwrite version r g) = _
      by_cases h811 : atLeast EPIC_8_1_1_RSA version = true
      · rw [LoginKind.passwordField, LoginKind.passwordField, if_pos h811,
          if_pos h811, (account_members _ _ _).passwordAes, if_pos h811]
        have hmono : atLeast EPIC_9_6_7 version = true ->
            atLeast EPIC_9_6_6 version = true := atLeast_mono (by decide)
        by_cases h967 : atLeast EPIC_9_6_7 version = true
        · simp_all [TS_ACCOUNT_PASSWORD_AES, Struct.overwrite, since, upTo,
            within, always, Metatype.restore, Metatype.copyDefaultValue]
        · simp only [if_neg h967]
          apply bytesOfArray_congr
          intro i hi
          by_cases h966 : atLeast EPIC_9_6_6 version = true
          all_goals simp_all [TS_ACCOUNT_PASSWORD_AES, Struct.overwrite,
            since, upTo, within, always, Metatype.restore,
            Metatype.copyDefaultValue]
      · rw [LoginKind.passwordField, LoginKind.passwordField, if_neg h811,
          if_neg h811, (account_members _ _ _).passwordDes, if_neg h811]
        apply bytesOfArray_congr
        intro i hi
        by_cases h52 : atLeast EPIC_5_2 version = true
        all_goals simp_all [TS_ACCOUNT_PASSWORD_DES, Struct.overwrite, since,
          upTo, Metatype.restore, Metatype.copyDefaultValue]
  | imbc =>
      change LoginKind.imbc.passwordField version
        (TS_CA_IMBC_ACCOUNT.fields.overwrite version r g) = _
      by_cases h811 : atLeast EPIC_8_1_1_RSA version = true
      · rw [LoginKind.passwordField, LoginKind.passwordField, if_pos h811,
          if_pos h811, (imbc_members _ _ _).passwordAes, if_pos h811]
        simp [TS_IMBC_ACCOUNT_PASSWORD_AES, Struct.overwrite, always,
          Metatype.restore]
      · rw [LoginKind.passwordField, LoginKind.passwordField, if_neg h811,
          if_neg h811, (imbc_members _ _ _).passwordPlain, if_neg h811]
        apply bytesOfArray_congr
        intro i hi
        simp [TS_IMBC_ACCOUNT_PASSWORD_PLAIN, Struct.overwrite, always,
          Metatype.restore, hi]

theorem string_overwrite (kind : LoginKind) :
    (kind.packet.fields.overwrite version r g).string "account" =
      r.string "account" := by
  cases kind with
  | account => exact (account_members version r g).account
  | imbc => exact (imbc_members version r g).account

end AccountMembers

/-!
## Additional infos
-/

/-- What is sent of an additional info can be sent again. -/
structure InfoFits (item : Record) : Prop where
  type : int8.Fits (item.integer "type")
  count : (item.vector "data").length ≤ 65535
  data : forall val, val ∈ item.vector "data" -> Packet.Fits uint8 uint8 val

structure InfosFit (items : List Record) : Prop where
  fits : forall item, item ∈ items -> InfoFits item
  size : (items.map fun item => 3 + (item.vector "data").length).sum ≤ 65536

theorem infosFit_nil : InfosFit [] where
  fits _ hitem := nomatch hitem
  size := Nat.zero_le _

theorem info_inRange_iff (version : Version) (item : Record) :
    TS_ACCOUNT_ADDITIONAL_INFO.InRange version item ↔ InfoFits item := by
  constructor
  · intro h
    exact ⟨(h.left rfl).left, (h.right.left rfl).right,
      h.right.right.left rfl⟩
  · intro h
    exact ⟨fun _ => ⟨h.type, h.type⟩, fun _ => ⟨by decide, h.count⟩,
      fun _ => h.data, trivial⟩

theorem info_widths (version : Version) (item : Record) :
    TS_ACCOUNT_ADDITIONAL_INFO.widths version item =
      [1, 2, (item.vector "data").length] := by
  have hone : uint8.size = 1 := rfl
  simp [TS_ACCOUNT_ADDITIONAL_INFO, Struct.widths, always, Metatype.width,
    hone]
  exact ⟨rfl, rfl⟩

theorem info_nonempty (version : Version) {item : Record}
    {chunks : List (List UInt8)}
    (h : TS_ACCOUNT_ADDITIONAL_INFO.layout version item Locals.initial 0 =
      some chunks) : 0 < chunks.flatten.length := by
  rcases Struct.layout_active rfl h with ⟨l', bytes, later, hline, -, heq⟩
  subst heq
  cases hline
  rw [List.flatten_cons, List.length_append, IntType.encode_length]
  exact Nat.add_pos_left int8.positive _

theorem info_overwrite (version : Version) (item old : Record) :
    (TS_ACCOUNT_ADDITIONAL_INFO.overwrite version item old).integer "type" =
        item.integer "type" ∧
      (TS_ACCOUNT_ADDITIONAL_INFO.overwrite version item old).vector "data" =
        item.vector "data" := by
  simp [TS_ACCOUNT_ADDITIONAL_INFO, Struct.overwrite, always,
    Metatype.restore]

theorem sum_infos (version : Version) (items : List Record) :
    (items.flatMap fun item =>
        TS_ACCOUNT_ADDITIONAL_INFO.widths version item).sum =
      (items.map fun item => 3 + (item.vector "data").length).sum := by
  induction items with
  | nil => rfl
  | cons item items ih =>
      rw [List.flatMap_cons, List.sum_append, ih, info_widths, List.map_cons,
        List.sum_cons, List.sum_cons, List.sum_cons, List.sum_cons,
        List.sum_nil]
      lia

theorem overwriteEach_replicate (overwrite : Record -> Record -> Record)
    (items : List Record) (old : Record) :
    overwriteEach overwrite items (List.replicate items.length old) =
      items.map fun item => overwrite item old := by
  induction items with
  | nil => rfl
  | cons item items ih =>
      rw [List.length_cons, List.replicate_succ, overwriteEach, ih,
        List.map_cons]

theorem InfosFit.overwrite {items : List Record} (h : InfosFit items)
    (version : Version) :
    InfosFit (overwriteEach
      (fun item old => TS_ACCOUNT_ADDITIONAL_INFO.overwrite version item old)
      items (List.replicate items.length Record.zero)) := by
  rw [overwriteEach_replicate]
  constructor
  · intro item hmem
    rcases List.mem_map.mp hmem with ⟨sent, hsent, heq⟩
    subst heq
    rcases info_overwrite version sent Record.zero with ⟨htype, hdata⟩
    have hfits := h.fits sent hsent
    exact ⟨htype ▸ hfits.type, hdata ▸ hfits.count, hdata ▸ hfits.data⟩
  · rw [List.map_map]
    have hsame : ((fun item : Record => 3 + (item.vector "data").length) ∘
        fun item => TS_ACCOUNT_ADDITIONAL_INFO.overwrite version item
          Record.zero) = fun item => 3 + (item.vector "data").length := by
      funext item
      rw [Function.comp, (info_overwrite version item Record.zero).right]
    rw [hsame]
    exact h.size

/-!
## What can be sent
-/

/-- The members of an account packet that a version sends. -/
structure AccountFits (version : Version) (r : Record) : Prop where
  name : LoginKind.account.NameFits version (r.string "account")
  mac_stamp : atLeast EPIC_9_6_6 version = true ->
    forall i, i < 8 -> uint8.Fits (r.array "mac_stamp" i)
  passwordDes : ¬atLeast EPIC_8_1_1_RSA version = true ->
    forall i, i < 61 ->
      uint8.Fits ((r.object "passwordDes").array "password" i)
  password_size : atLeast EPIC_8_1_1_RSA version = true ->
    uint32.Fits ((r.object "passwordAes").integer "password_size")
  password : atLeast EPIC_8_1_1_RSA version = true ->
    ¬atLeast EPIC_9_6_7 version = true -> forall i, i < 516 ->
      uint8.Fits ((r.object "passwordAes").array "password" i)
  password_dyn : atLeast EPIC_9_6_7 version = true ->
    (forall val, val ∈ (r.object "passwordAes").vector "password_dyn" ->
      Packet.Fits uint8 uint8 val) ∧
    ((r.object "passwordAes").vector "password_dyn").length ≤ 1024
  infos : ¬atLeast EPIC_9_6_6 version = true ->
    InfosFit (r.objectVector "additionalInfos")

theorem account_version : TS_CA_ACCOUNT.fields.VersionConditions := by
  simp [TS_CA_ACCOUNT, TS_ACCOUNT_PASSWORD_DES, TS_ACCOUNT_PASSWORD_AES,
    TS_ACCOUNT_ADDITIONAL_INFO, Struct.VersionConditions, since, upTo,
    within, always]

theorem imbc_version : TS_CA_IMBC_ACCOUNT.fields.VersionConditions := by
  simp [TS_CA_IMBC_ACCOUNT, TS_IMBC_ACCOUNT_PASSWORD_PLAIN,
    TS_IMBC_ACCOUNT_PASSWORD_AES, Struct.VersionConditions, since, upTo,
    within, always]

theorem kind_version (kind : LoginKind) :
    kind.packet.fields.VersionConditions := by
  cases kind with
  | account => exact account_version
  | imbc => exact imbc_version

/-- The widths of the name, the stamp and the password. -/
def accountWidths (version : Version) (r : Record) : List Nat :=
  (if atLeast EPIC_9_6_6 version then [56, 8]
    else if atLeast EPIC_5_2 version then [61] else [19]) ++
  (if atLeast EPIC_9_6_7 version then
      [4, ((r.object "passwordAes").vector "password_dyn").length]
    else if atLeast EPIC_9_6_6 version then [4, 516]
    else if atLeast EPIC_8_1_1_RSA version then [4, 77]
    else if atLeast EPIC_5_2 version then [61] else [32])

theorem account_widths (version : Version) (r : Record) :
    TS_CA_ACCOUNT.fields.widths version r = accountWidths version r ++
      (if atLeast EPIC_9_6_6 version then []
      else (r.objectVector "additionalInfos").flatMap fun item =>
        TS_ACCOUNT_ADDITIONAL_INFO.widths version item) := by
  have h966 : atLeast EPIC_9_6_7 version = true ->
      atLeast EPIC_9_6_6 version = true := atLeast_mono (by decide)
  have h811 : atLeast EPIC_9_6_6 version = true ->
      atLeast EPIC_8_1_1_RSA version = true := atLeast_mono (by decide)
  have h52 : atLeast EPIC_8_1_1_RSA version = true ->
      atLeast EPIC_5_2 version = true := atLeast_mono (by decide)
  have hone : uint8.size = 1 := rfl
  have hfour : uint32.size = 4 := rfl
  by_cases hv967 : atLeast EPIC_9_6_7 version = true
  all_goals by_cases hv966 : atLeast EPIC_9_6_6 version = true
  all_goals by_cases hv811 : atLeast EPIC_8_1_1_RSA version = true
  all_goals by_cases hv52 : atLeast EPIC_5_2 version = true
  all_goals simp_all [TS_CA_ACCOUNT, TS_ACCOUNT_PASSWORD_AES,
    TS_ACCOUNT_PASSWORD_DES, Struct.widths, since, upTo, within, always,
    Metatype.width, Shape.items, accountWidths]

theorem AccountFits.widths_sum {version : Version} {r : Record}
    (h : AccountFits version r) : (accountWidths version r).sum ≤ 2048 := by
  have hdyn := fun h967 => (h.password_dyn h967).right
  unfold accountWidths
  by_cases h967 : atLeast EPIC_9_6_7 version = true
  all_goals by_cases h966 : atLeast EPIC_9_6_6 version = true
  all_goals by_cases h811 : atLeast EPIC_8_1_1_RSA version = true
  all_goals by_cases h52 : atLeast EPIC_5_2 version = true
  all_goals simp_all
  all_goals lia

theorem account_endsLast {version : Version} {r : Record}
    (h : AccountFits version r) :
    TS_CA_ACCOUNT.fields.EndsLast version r := by
  have h966 : atLeast EPIC_9_6_7 version = true ->
      atLeast EPIC_9_6_6 version = true := atLeast_mono (by decide)
  have hinfo (item : Record) :
      TS_ACCOUNT_ADDITIONAL_INFO.BoundedIn version item :=
    ⟨fun _ => rfl, fun _ => rfl, fun _ => rfl, trivial⟩
  refine ⟨fun _ hlast => (nomatch hlast), fun _ hlast => (nomatch hlast),
    fun _ hlast => (nomatch hlast), fun _ hlast => (nomatch hlast), ?_, ?_, ?_,
    trivial⟩
  · exact fun _ => Or.inl ⟨rfl, fun item _ =>
      ⟨fun _ => rfl, fun _ => rfl, trivial⟩⟩
  · intro _
    by_cases h967 : atLeast EPIC_9_6_7 version = true
    · refine Or.inr ⟨?_, ?_, trivial⟩
      · exact ⟨fun _ hlast => (nomatch hlast), fun _ hlast => (nomatch hlast),
          fun _ hlast => (nomatch hlast),
          fun _ _ => ⟨⟨rfl, (h.password_dyn h967).left⟩, trivial⟩, trivial⟩
      · simp [upTo, h966 h967]
    · exact Or.inl ⟨rfl, fun item _ =>
        ⟨fun _ => rfl, fun _ => rfl, fun _ => rfl,
          fun hactive => absurd hactive h967, trivial⟩⟩
  · exact fun _ => Or.inr
      ⟨fun item _ => ⟨hinfo item, fun chunks hlayout =>
        info_nonempty version hlayout⟩, trivial⟩

theorem account_inRange {version : Version} {r : Record}
    (h : AccountFits version r) :
    TS_CA_ACCOUNT.fields.InRange version r := by
  rcases h.name with ⟨hnul, hlength⟩
  have h966 : atLeast EPIC_9_6_7 version = true ->
      atLeast EPIC_9_6_6 version = true := atLeast_mono (by decide)
  have h811 : atLeast EPIC_9_6_6 version = true ->
      atLeast EPIC_8_1_1_RSA version = true := atLeast_mono (by decide)
  have h52 : atLeast EPIC_8_1_1_RSA version = true ->
      atLeast EPIC_5_2 version = true := atLeast_mono (by decide)
  refine ⟨?_, ?_, ?_, ?_, ?_, ?_, ?_, trivial⟩
  · intro hactive
    have hactive' : atLeast EPIC_9_6_6 version = true := hactive
    rw [if_pos hactive'] at hlength
    exact ⟨hlength, hnul⟩
  · intro hactive
    rcases within_eq_true hactive with ⟨hnew, hold⟩
    rw [if_neg hold, if_pos hnew] at hlength
    exact ⟨hlength, hnul⟩
  · intro hactive
    have hold := upTo_eq_true hactive
    rw [if_neg (fun hnew => hold (h52 (h811 hnew))), if_neg hold] at hlength
    exact ⟨hlength, hnul⟩
  · exact fun hactive i hi =>
      ⟨h.mac_stamp hactive i hi, h.mac_stamp hactive i hi⟩
  · intro hactive
    have hold := upTo_eq_true hactive
    refine ⟨?_, fun hdyn => (nomatch hdyn)⟩
    intro item hitem
    rw [Shape.items, List.mem_singleton] at hitem
    subst hitem
    refine ⟨?_, ?_, trivial⟩
    · exact fun _ i hi =>
        ⟨h.passwordDes hold i hi, h.passwordDes hold i hi⟩
    · intro _ i hi
      have hle : i < 61 := by lia
      exact ⟨h.passwordDes hold i hle, h.passwordDes hold i hle⟩
  · intro hactive
    have hnew : atLeast EPIC_8_1_1_RSA version = true := hactive
    refine ⟨?_, fun hdyn => (nomatch hdyn)⟩
    intro item hitem
    rw [Shape.items, List.mem_singleton] at hitem
    subst hitem
    refine ⟨?_, ?_, ?_, fun _ => trivial, trivial⟩
    · exact fun _ => ⟨h.password_size hnew, h.password_size hnew⟩
    · intro hwithin i hi
      have hold := (within_eq_true hwithin).right
      exact ⟨h.password hnew hold i hi, h.password hnew hold i hi⟩
    · intro hupTo i hi
      have hold := fun h967 => upTo_eq_true hupTo (h966 h967)
      have hle : i < 516 := by lia
      exact ⟨h.password hnew hold i hle, h.password hnew hold i hle⟩
  · intro hactive
    have hold := upTo_eq_true hactive
    exact ⟨fun item hitem => (info_inRange_iff version item).mpr
      ((h.infos hold).fits item hitem), fun hdyn => (nomatch hdyn)⟩

theorem account_counts : TS_CA_ACCOUNT.fields.CountsMatch [] := by
  simp [TS_CA_ACCOUNT, TS_ACCOUNT_PASSWORD_AES, TS_ACCOUNT_PASSWORD_DES,
    TS_ACCOUNT_ADDITIONAL_INFO, Struct.CountsMatch, Metatype.reliesOn,
    Metatype.counts, Shape.isDynarray]

theorem AccountFits.sendable {version : Version} {r : Record}
    (h : AccountFits version r) : TS_CA_ACCOUNT.Sendable version r := by
  have hrange := account_inRange h
  have hsum := sum_infos version (r.objectVector "additionalInfos")
  have hwidths := h.widths_sum
  apply PacketType.Sendable.of_widths _ (account_endsLast h)
    (Struct.counted_of_counts account_counts
      (fun _ hc => absurd hc List.not_mem_nil) hrange)
    _ hrange
  · intro width hmem
    rw [account_widths] at hmem
    rcases List.mem_append.mp hmem with hfront | hinfos
    · have hle := List.le_sum_of_mem hfront
      lia
    · split at hinfos
      · cases hinfos
      · rename_i hold
        rcases List.mem_flatMap.mp hinfos with ⟨item, hitem, hwidth⟩
        have hcount := ((h.infos hold).fits item hitem).count
        rw [info_widths] at hwidth
        simp only [List.mem_cons, List.not_mem_nil, or_false] at hwidth
        lia
  · rw [account_widths, List.sum_append]
    split
    · simp only [List.sum_nil]
      lia
    · rename_i hold
      have hsize := (h.infos hold).size
      lia
  · simp [TS_CA_ACCOUNT, TS_ACCOUNT_PASSWORD_AES, TS_ACCOUNT_PASSWORD_DES,
      TS_ACCOUNT_ADDITIONAL_INFO, Struct.MarkersDeclared, Metatype.isPad]
  · simp [TS_CA_ACCOUNT, TS_ACCOUNT_PASSWORD_AES, TS_ACCOUNT_PASSWORD_DES,
      TS_ACCOUNT_ADDITIONAL_INFO, Struct.PadsKnown, Metatype.PadKnown]

/-- The members of an IMBC account packet that a version sends. -/
structure ImbcFits (version : Version) (r : Record) : Prop where
  name : LoginKind.imbc.NameFits version (r.string "account")
  passwordPlain : ¬atLeast EPIC_8_1_1_RSA version = true ->
    forall i, i < 48 ->
      uint8.Fits ((r.object "passwordPlain").array "password" i)
  password_size : atLeast EPIC_8_1_1_RSA version = true ->
    uint32.Fits ((r.object "passwordAes").integer "password_size")
  password : atLeast EPIC_8_1_1_RSA version = true ->
    (forall val, val ∈ (r.object "passwordAes").vector "password" ->
      Packet.Fits uint8 uint8 val) ∧
    ((r.object "passwordAes").vector "password").length ≤ 1024

theorem imbc_inRange {version : Version} {r : Record}
    (h : ImbcFits version r) :
    TS_CA_IMBC_ACCOUNT.fields.InRange version r := by
  rcases h.name with ⟨hnul, hlength⟩
  have h74 : atLeast EPIC_9_6_6 version = true ->
      atLeast EPIC_7_4 version = true := atLeast_mono (by decide)
  refine ⟨?_, ?_, ?_, ?_, ?_, trivial⟩
  · intro hactive
    have hactive' : atLeast EPIC_9_6_6 version = true := hactive
    rw [if_pos hactive'] at hlength
    exact ⟨hlength, hnul⟩
  · intro hactive
    rcases within_eq_true hactive with ⟨hnew, hold⟩
    rw [if_neg hold, if_pos hnew] at hlength
    exact ⟨hlength, hnul⟩
  · intro hactive
    have hold := upTo_eq_true hactive
    rw [if_neg (fun hnew => hold (h74 hnew)), if_neg hold] at hlength
    exact ⟨hlength, hnul⟩
  · intro hactive
    have hold := upTo_eq_true hactive
    refine ⟨?_, fun hdyn => (nomatch hdyn)⟩
    intro item hitem
    rw [Shape.items, List.mem_singleton] at hitem
    subst hitem
    exact ⟨fun _ i hi =>
      ⟨h.passwordPlain hold i hi, h.passwordPlain hold i hi⟩, trivial⟩
  · intro hactive
    have hnew : atLeast EPIC_8_1_1_RSA version = true := hactive
    refine ⟨?_, fun hdyn => (nomatch hdyn)⟩
    intro item hitem
    rw [Shape.items, List.mem_singleton] at hitem
    subst hitem
    exact ⟨fun _ => ⟨h.password_size hnew, h.password_size hnew⟩,
      fun _ => trivial, trivial⟩

theorem imbc_endsLast {version : Version} {r : Record}
    (h : ImbcFits version r) :
    TS_CA_IMBC_ACCOUNT.fields.EndsLast version r := by
  refine ⟨fun _ hlast => (nomatch hlast), fun _ hlast => (nomatch hlast),
    fun _ hlast => (nomatch hlast), ?_, ?_, trivial⟩
  · exact fun _ => Or.inl ⟨rfl, fun item _ => ⟨fun _ => rfl, trivial⟩⟩
  · intro hactive
    have hnew : atLeast EPIC_8_1_1_RSA version = true := hactive
    exact Or.inr ⟨⟨fun _ hlast => (nomatch hlast),
      fun _ _ => ⟨⟨rfl, (h.password hnew).left⟩, trivial⟩, trivial⟩, trivial⟩

theorem imbc_counts : TS_CA_IMBC_ACCOUNT.fields.CountsMatch [] := by
  simp [TS_CA_IMBC_ACCOUNT, TS_IMBC_ACCOUNT_PASSWORD_PLAIN,
    TS_IMBC_ACCOUNT_PASSWORD_AES, Struct.CountsMatch, Metatype.reliesOn,
    Metatype.counts, Shape.isDynarray]

theorem ImbcFits.widths_sum {version : Version} {r : Record}
    (h : ImbcFits version r) :
    (TS_CA_IMBC_ACCOUNT.fields.widths version r).sum ≤ 2048 := by
  have hdyn := fun h811 => (h.password h811).right
  have h74 : atLeast EPIC_9_6_6 version = true ->
      atLeast EPIC_7_4 version = true := atLeast_mono (by decide)
  have hone : uint8.size = 1 := rfl
  have hfour : uint32.size = 4 := rfl
  by_cases h966 : atLeast EPIC_9_6_6 version = true
  all_goals by_cases h811 : atLeast EPIC_8_1_1_RSA version = true
  all_goals by_cases hv74 : atLeast EPIC_7_4 version = true
  all_goals simp_all [TS_CA_IMBC_ACCOUNT, TS_IMBC_ACCOUNT_PASSWORD_AES,
    TS_IMBC_ACCOUNT_PASSWORD_PLAIN, Struct.widths, since, upTo, within,
    always, Metatype.width, Shape.items]
  all_goals lia

theorem ImbcFits.sendable {version : Version} {r : Record}
    (h : ImbcFits version r) : TS_CA_IMBC_ACCOUNT.Sendable version r := by
  have hrange := imbc_inRange h
  have hwidths := h.widths_sum
  apply PacketType.Sendable.of_widths _ (imbc_endsLast h)
    (Struct.counted_of_counts imbc_counts
      (fun _ hc => absurd hc List.not_mem_nil) hrange)
    _ hrange
  · intro width hmem
    have hle := List.le_sum_of_mem hmem
    lia
  · lia
  · simp [TS_CA_IMBC_ACCOUNT, TS_IMBC_ACCOUNT_PASSWORD_AES,
      TS_IMBC_ACCOUNT_PASSWORD_PLAIN, Struct.MarkersDeclared,
      Metatype.isPad]
  · simp [TS_CA_IMBC_ACCOUNT, TS_IMBC_ACCOUNT_PASSWORD_AES,
      TS_IMBC_ACCOUNT_PASSWORD_PLAIN, Struct.PadsKnown, Metatype.PadKnown]

/-!
## The answer that selects a server
-/

/-- The members of a `TS_AC_SELECT_SERVER` that a version sends. -/
structure SelectFits (version : Version) (r : Record) : Prop where
  result : uint16.Fits (r.integer "result")
  pending_time : uint32.Fits (r.integer "pending_time")
  one_time_key : ¬atLeast EPIC_8_1_1_RSA version = true ->
    int64.Fits (r.integer "one_time_key")
  encrypted_data_size : atLeast EPIC_8_1_1_RSA version = true ->
    int32.Fits (r.integer "encrypted_data_size")
  encrypted_data : atLeast EPIC_8_1_1_RSA version = true ->
    forall i, i < 24 -> uint8.Fits (r.array "encrypted_data" i)

theorem select_version : TS_AC_SELECT_SERVER.fields.VersionConditions := by
  simp [TS_AC_SELECT_SERVER, Struct.VersionConditions, since, upTo, always]

theorem SelectFits.sendable {version : Version} {r : Record}
    (h : SelectFits version r) : TS_AC_SELECT_SERVER.Sendable version r := by
  have hrange : TS_AC_SELECT_SERVER.fields.InRange version r := by
    refine ⟨fun _ => ⟨h.result, h.result⟩, ?_, ?_, ?_,
      fun _ => ⟨h.pending_time, h.pending_time⟩, trivial⟩
    · intro hactive
      have hold := upTo_eq_true hactive
      exact ⟨h.one_time_key hold, h.one_time_key hold⟩
    · exact fun hactive =>
        ⟨h.encrypted_data_size hactive, h.encrypted_data_size hactive⟩
    · exact fun hactive i hi =>
        ⟨h.encrypted_data hactive i hi, h.encrypted_data hactive i hi⟩
  have hbounded : TS_AC_SELECT_SERVER.fields.Bounded :=
    ⟨rfl, rfl, rfl, rfl, rfl, trivial⟩
  have hwidths :
      (TS_AC_SELECT_SERVER.fields.widths version r).sum ≤ 64 := by
    by_cases h811 : atLeast EPIC_8_1_1_RSA version = true
    all_goals simp [TS_AC_SELECT_SERVER, Struct.widths, since, upTo, always,
      Metatype.width, h811]
    all_goals decide
  have hcounts : TS_AC_SELECT_SERVER.fields.CountsMatch [] := by
    simp [TS_AC_SELECT_SERVER, Struct.CountsMatch, Metatype.reliesOn,
      Metatype.counts]
  apply PacketType.Sendable.of_widths _
    (hbounded.boundedIn version r).endsLast
    (Struct.counted_of_counts hcounts
      (fun _ hc => absurd hc List.not_mem_nil) hrange)
    _ hrange
  · intro width hmem
    have hle := List.le_sum_of_mem hmem
    lia
  · lia
  · simp [TS_AC_SELECT_SERVER, Struct.MarkersDeclared, Metatype.isPad]
  · simp [TS_AC_SELECT_SERVER, Struct.PadsKnown, Metatype.PadKnown]

end Converter
end Rzu
