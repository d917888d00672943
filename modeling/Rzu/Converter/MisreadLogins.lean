import Rzu.Converter.PaddingCiphers
import Rzu.Packet.Appending

/-!
# Logins that are misread

Between versions that the converter compares in another way than the packets,
and from an IMBC login with keys to a server without, some login is lost.
-/

namespace Rzu
namespace Converter

open Library Packet Auth

variable {C : Ciphers} {client server version : Version}

/-!
## Versions with flags
-/

theorem toInt_toInt32 (version : Version) :
    version.toInt32.toInt = (version.toNat : Int).bmod (2 ^ 32) := by
  rw [← Int32.toInt_toBitVec, UInt32.toBitVec_toInt32,
    BitVec.toInt_eq_toNat_bmod]
  rfl

theorem intAtLeast_of_rsa (h : intAtLeast EPIC_8_1_1_RSA version = true)
    (hlater : atLeast EPIC_9_6_7 version = true) :
    intAtLeast EPIC_9_6_7 version = true := by
  have hlt := version.toNat_lt
  have hrsa : EPIC_8_1_1_RSA.toInt32.toInt = 0x080101 := by decide
  have hint : EPIC_9_6_7.toInt32.toInt = 0x090607 := by decide
  have hnat : EPIC_9_6_7.toNat = 0x090607 := by decide
  have hmasked : (version &&& 0x00FFFFFF).toNat ≤ version.toNat := by
    rw [UInt32.toNat_and]
    exact Nat.and_le_left
  rw [atLeast, decide_eq_true_eq, UInt32.le_iff_toNat_le, hnat] at hlater
  rw [intAtLeast, decide_eq_true_eq, Int32.le_iff_toInt_le,
    toInt_toInt32 version, hrsa, Int.bmod_def] at h
  rw [intAtLeast, decide_eq_true_eq, Int32.le_iff_toInt_le,
    toInt_toInt32 version, hint, Int.bmod_def]
  omega

theorem rsa_cases (h : intAtLeast EPIC_8_1_1_RSA version ≠
      atLeast EPIC_8_1_1_RSA version) :
    (intAtLeast EPIC_8_1_1_RSA version = true ∧
        ¬atLeast EPIC_8_1_1_RSA version = true) ∨
      (¬intAtLeast EPIC_8_1_1_RSA version = true ∧
        atLeast EPIC_8_1_1_RSA version = true) := by
  by_cases h811 : atLeast EPIC_8_1_1_RSA version = true
  · exact Or.inr ⟨fun hint => h (hint.trans h811.symm), h811⟩
  · refine Or.inl ⟨?_, h811⟩
    by_contra hint
    exact h ((Bool.eq_false_iff.mpr hint).trans
      (Bool.eq_false_iff.mpr h811).symm)

theorem dyn_cases
    (hrsa : intAtLeast EPIC_8_1_1_RSA version =
      atLeast EPIC_8_1_1_RSA version)
    (h : ¬LoginKind.account.Comparable version) :
    atLeast EPIC_8_1_1_RSA version = true ∧
      intAtLeast EPIC_9_6_7 version = true ∧
      ¬atLeast EPIC_9_6_7 version = true := by
  have hboth : ¬(atLeast EPIC_8_1_1_RSA version = true ->
      intAtLeast EPIC_9_6_7 version = atLeast EPIC_9_6_7 version) :=
    fun hsame => h ⟨hrsa, hsame⟩
  rw [Classical.not_imp] at hboth
  rcases hboth with ⟨h811, hne⟩
  have h967 : ¬atLeast EPIC_9_6_7 version = true := by
    intro hlater
    exact hne ((intAtLeast_of_rsa (hrsa.trans h811) hlater).trans
      hlater.symm)
  refine ⟨h811, ?_, h967⟩
  by_contra hint
  exact hne ((Bool.eq_false_iff.mpr hint).trans
    (Bool.eq_false_iff.mpr h967).symm)

/-!
## Packets that are not expected
-/

namespace Exchange

variable {x : Exchange C}

theorem sendBytes_id {packet : PacketType} {r : Record}
    {garbage : Nat -> UInt8} {bytes : List UInt8}
    (h : sendBytes packet version r garbage = some bytes) :
    SpecificPacketConverter.packetId bytes =
      (packet.getId version).toNat := by
  unfold sendBytes at h
  split at h
  · rename_i hsent
    cases h
    exact PacketType.sent_id hsent
  · cases h

theorem received_other {side side' : Side} {packet other : PacketType}
    {result : Conversion C} {r : Record} {rest : List Sent}
    (hsent : result.sent = ⟨side', other, r⟩ :: rest)
    (hid : (other.getId version).toNat ≠ (packet.getId version).toNat) :
    x.received side packet version result = none := by
  rw [received, hsent]
  dsimp only
  split
  · cases hbytes : sendBytes other version r x.garbage with
    | none => rfl
    | some bytes =>
        rw [Option.bind_eq_bind, Option.bind_some, sendBytes_id hbytes,
          if_neg hid]
  · rfl

end Exchange

theorem login_id (kind : LoginKind) (version : Version) :
    (kind.packet.getId version).toNat ≠
      (TS_CA_RSA_PUBLIC_KEY.getId version).toNat := by
  have hid : (kind.packet.getId version).toNat = 10010 ∨
      (kind.packet.getId version).toNat = 10012 := by
    cases kind with
    | account => exact Or.inl rfl
    | imbc => exact Or.inr rfl
  rcases SpecificPacketConverter.rsaPublicKey_id version with hrsa | hrsa
  all_goals lia

namespace SpecificPacketConverter

section Sent

variable (client server : Version) (s : SpecificPacketConverter C)
variable (around : Surroundings C) (pkt : Record)

theorem onAccount_sent :
    exists fields, (s.onAccount client server around pkt).sent =
      [⟨Side.server, if intAtLeast EPIC_8_1_1_RSA server then
        TS_CA_RSA_PUBLIC_KEY else TS_CA_ACCOUNT, fields⟩] := by
  unfold onAccount
  by_cases hint : intAtLeast EPIC_8_1_1_RSA server = true
  · simp only [hint, if_true]
    exact ⟨_, rfl⟩
  · simp only [hint, if_false, Bool.false_eq_true]
    exact ⟨_, rfl⟩

theorem onImbcAccount_sent :
    exists fields, (s.onImbcAccount client server around pkt).sent =
      [⟨Side.server, if intAtLeast EPIC_8_1_1_RSA server then
        TS_CA_RSA_PUBLIC_KEY else TS_CA_IMBC_ACCOUNT, fields⟩] := by
  unfold onImbcAccount
  by_cases hint : intAtLeast EPIC_8_1_1_RSA server = true
  · simp only [hint, if_true]
    exact ⟨_, rfl⟩
  · simp only [hint, if_false, Bool.false_eq_true]
    exact ⟨_, rfl⟩

end Sent

theorem convert_login (server : Version) (s : SpecificPacketConverter C)
    (around : Surroundings C) {kind : LoginKind} {r : Record}
    {bytes : List UInt8}
    (h : Carries kind.packet client r bytes) :
    exists converted fields,
      s.convertAuthPacketAndSend client server around bytes =
          some converted ∧
        converted.sent = [⟨Side.server,
          if intAtLeast EPIC_8_1_1_RSA server then TS_CA_RSA_PUBLIC_KEY
          else kind.packet, fields⟩] := by
  cases kind with
  | account =>
      let login : SpecificPacketConverter C :=
        { s with account := { s.account with isBoraAccount := false } }
      rcases onAccount_sent client server login around
          (TS_CA_ACCOUNT.fields.overwrite client r around.pkt) with
        ⟨fields, hsent⟩
      exact ⟨_, fields, convert_account h, hsent⟩
  | imbc =>
      rcases onImbcAccount_sent client server s around
          (TS_CA_IMBC_ACCOUNT.fields.overwrite client r around.pkt) with
        ⟨fields, hsent⟩
      exact ⟨_, fields, convert_imbcAccount h, hsent⟩

end SpecificPacketConverter

theorem not_survives_of_server {x : Exchange C} {kind : LoginKind}
    {name : Packet.CharString} {password : List UInt8} (hC : C.Lawful)
    (hkind : x.kind = kind) (hoffers : x.Offers client name password)
    (hserver : intAtLeast EPIC_8_1_1_RSA server ≠
      atLeast EPIC_8_1_1_RSA server) :
    ¬x.Survives client server name password := by
  intro hsurvives
  rcases hsurvives with ⟨after, recovered, pkt, hlogs, -⟩
  rcases x.logsIn_eq server hC hkind hoffers with
    ⟨s, key, bytes, -, hcarries, hequation⟩
  rcases SpecificPacketConverter.convert_login server s x.atLogin
      hcarries with
    ⟨converted, fields, hconverted, hsent⟩
  rw [hequation, hconverted, Option.bind_some] at hlogs
  rcases rsa_cases hserver with ⟨hint, h811⟩ | ⟨hint, h811⟩
  · rw [if_pos hint] at hsent
    rw [Exchange.answersWithKey, if_neg h811, Option.pure_def,
      Option.bind_some, Exchange.received_other hsent
        (login_id kind server).symm] at hlogs
    cases hlogs
  · rw [if_neg hint] at hsent
    rw [Exchange.answersWithKey, if_pos h811, Exchange.received_other hsent
      (login_id kind server)] at hlogs
    cases hlogs

/-!
## Passwords that are read elsewhere
-/

section Inactive

variable (version : Version) (r g : Record)

theorem password_dyn_inactive (h : ¬atLeast EPIC_9_6_7 version = true) :
    (TS_ACCOUNT_PASSWORD_AES.overwrite version r g).vector "password_dyn" =
      g.vector "password_dyn" := by
  by_cases h966 : atLeast EPIC_9_6_6 version = true
  all_goals simp [TS_ACCOUNT_PASSWORD_AES, Struct.overwrite, since, upTo,
    within, always, Metatype.restore, Metatype.copyDefaultValue,
    Record.setArray, h, h966]

end Inactive

namespace SpecificPacketConverter

/-- A password that is read from a member that was not received. -/
theorem decryptAccount_misread {wrong : List UInt8}
    (s : SpecificPacketConverter (padding wrong))
    (hcomp : ¬LoginKind.account.Comparable client) {r : Record}
    (hbora : r.string "account" ≠ bora) (hnul : 0 ∉ wrong)
    (hshort : wrong.length ≤ 31) :
    (decryptAccount client s (TS_CA_ACCOUNT.fields.overwrite client r
      (memoryOf wrong))).2 = wrong := by
  let pkt := TS_CA_ACCOUNT.fields.overwrite client r (memoryOf wrong)
  have hnot (pkt' : Record)
      (hname : pkt'.string "account" = pkt.string "account") :
      isBora pkt' = false := by
    have hother : pkt'.string "account" ≠ "bora".toUTF8.data.toList := by
      rw [hname, (account_members _ _ _).account]
      exact hbora
    rw [isBora, decide_eq_false hother, Bool.false_and]
  change (decryptAccount client s pkt).2 = wrong
  rw [decryptAccount]
  split
  · rename_i hint
    have hempty : (accountPassword client pkt).take
        ((pkt.object "passwordAes").integer "password_size").toNat = [] := by
      by_cases h811 : atLeast EPIC_8_1_1_RSA client = true
      · rcases dyn_cases (hint.trans h811.symm) hcomp with
          ⟨-, hdyn, h967⟩
        rw [accountPassword, if_pos hdyn,
          (account_members _ _ _).passwordAes, if_pos h811,
          password_dyn_inactive _ _ _ h967]
        exact List.take_nil
      · rw [(account_members _ _ _).passwordAes, if_neg h811]
        exact List.take_zero
    have hmember : isBora (if intAtLeast EPIC_9_6_7 client = true then
        pkt.setObject "passwordAes"
          ((pkt.object "passwordAes").setVector "password_dyn" [])
        else pkt) = false := by
      split
      all_goals exact hnot _ rfl
    simp only [hmember, Bool.false_eq_true, if_false]
    rw [hempty]
    rfl
  · rename_i hint
    have h811 : atLeast EPIC_8_1_1_RSA client = true := by
      by_contra hold
      exact hcomp ⟨(Bool.eq_false_iff.mpr hint).trans
        (Bool.eq_false_iff.mpr hold).symm, fun hnew => absurd hnew hold⟩
    let size := if intAtLeast EPIC_5_1 client then 61 else 32
    have hsize : 32 ≤ size := by
      simp only [size]
      split
      all_goals decide
    have hplain : bytesOfArray (arrayOfBytes wrong) 61 =
        wrong ++ 0 :: List.replicate (60 - wrong.length) 0 := by
      rw [bytesOfArray_padded (by lia), ← List.replicate_succ]
      congr 2
      lia
    apply cut_of_take hnul (n := 32)
    refine ⟨(List.replicate (60 - wrong.length) 0).take
      (31 - wrong.length), ?_⟩
    rw [(account_members _ _ _).passwordDes, if_pos h811, memoryOf_object,
      Record.array_setArray, if_pos rfl, Ciphers.desDecryptBuffer]
    change ((desCrypt (fun block => block) _ _).take _).take 32 = _
    rw [desCrypt_block, hplain, List.take_take, Nat.min_eq_left hsize]
    exact take_password hshort _

theorem accountPkt_misread {wrong : List UInt8}
    {s : SpecificPacketConverter (padding wrong)} (pkt : List UInt8)
    (hrsa : intAtLeast EPIC_8_1_1_RSA server =
      atLeast EPIC_8_1_1_RSA server)
    (hcomp : ¬LoginKind.account.Comparable server)
    (hname : LoginKind.account.NameFits server s.account.account)
    (hbora : s.account.isBoraAccount = false)
    (hplain : s.account.password.length ≤ 48)
    (hinfos : InfosFit s.account.additionalInfos) (hnul : 0 ∉ wrong)
    (hshort : wrong.length ≤ 14) :
    let fields := s.accountPkt server (surroundings wrong pkt (0 :: wrong))
    AccountFits server fields ∧
      LoginKind.account.decode (padding wrong) server s.serverAesCipher
        fields = wrong := by
  let around := surroundings wrong pkt (0 :: wrong)
  let fields := s.accountPkt server around
  let encrypted := pad s.account.password
  rcases dyn_cases hrsa hcomp with ⟨h811, hdyn, h967⟩
  have hlength : encrypted.length =
      (s.account.password.length / 16 + 1) * 16 := length_pad _
  have hAes : fields.object "passwordAes" =
      setAccountPassword server (around.accountPkt.object "passwordAes")
        encrypted.length encrypted := by
    simp only [fields, accountPkt, hbora, Record.object_setObject, if_true,
      Bool.false_eq_true, if_false]
    rfl
  have hsize : (fields.object "passwordAes").integer "password_size" =
      encrypted.length := by
    rw [hAes, setAccountPassword, if_pos hdyn, Record.setVector_integer,
      Record.integer_setInteger, if_pos rfl]
  have harray : (fields.object "passwordAes").array "password" =
      arrayOfBytes (0 :: wrong) := by
    rw [hAes, setAccountPassword, if_pos hdyn]
    rfl
  constructor
  · exact {
      name := hname
      mac_stamp := fun _ i _ => fits_uint8 0
      passwordDes := fun hold => absurd h811 hold
      password_size := fun _ => by
        rw [hsize]
        exact fits_uint32_of_le (by lia)
      password := fun _ _ i _ => by
        rw [harray]
        exact fits_uint8 _
      password_dyn := fun hnew => absurd hnew h967
      infos := fun _ => hinfos }
  · change LoginKind.account.decode (padding wrong) server _ fields = wrong
    unfold LoginKind.decode LoginKind.passwordField
    simp only [h811, if_true, if_neg h967, hsize, harray, Int.toNat_natCast]
    rw [take_bytesOfArray _ (by split <;> lia),
      bytesOfArray_padded (by rw [List.length_cons]; lia)]
    change cut (List.take (_ + 1 - 0) (wrong ++ _)) = wrong
    have hall (rest : List UInt8) :
        rest.take (rest.length + 1 - 0) = rest :=
      List.take_of_length_le (Nat.le_succ _)
    exact (congrArg cut (hall _)).trans (cut_replicate hnul _)

end SpecificPacketConverter

namespace Exchange

variable {x : Exchange C} {kind : LoginKind} {name : Packet.CharString}
variable {password wrong : List UInt8}

theorem not_survives_of_forwards (hC : C.Lawful) (hkind : x.kind = kind)
    (hoffers : x.Offers client name password) (hwrong : wrong ≠ password)
    (hforwards : forall (s : SpecificPacketConverter C) key bytes,
      (atLeast EPIC_8_1_1_RSA client = true -> s.clientAesCipher = key) ->
      Carries kind.packet client (x.login key) bytes ->
      exists converted result fields,
        s.convertAuthPacketAndSend client server x.atLogin bytes =
            some converted ∧
          x.answersWithKey client server converted = some result ∧
          Forwards server kind name wrong x.serverKey result fields) :
    ¬x.Survives client server name password := by
  intro hsurvives
  rcases hsurvives with ⟨after, recovered, pkt, hlogs, -, hdecode, -⟩
  rcases x.logsIn_eq server hC hkind hoffers with
    ⟨s, key, bytes, hkey, hcarries, hequation⟩
  rcases hforwards s key bytes hkey hcarries with
    ⟨converted, result, fields, hconverted, hanswered, hforwarded⟩
  rcases received_forwarded (x := x) hforwarded with
    ⟨got, hreceived, -, hgot⟩
  rw [hequation, hconverted, Option.bind_some, hanswered, Option.bind_some,
    hreceived, Option.map_some] at hlogs
  cases hlogs
  rw [hkind, hgot] at hdecode
  exact hwrong hdecode

end Exchange

/-!
## Lost logins
-/

def otherPassword (password : List UInt8) : List UInt8 :=
  if password = [] then [1] else []

section Lost

variable {kind : LoginKind} {name : Packet.CharString} {password : List UInt8}

theorem otherPassword_ne : otherPassword password ≠ password := by
  unfold otherPassword
  split
  · rename_i hempty
    rw [hempty]
    exact List.cons_ne_nil _ _
  · rename_i hne
    exact fun heq => hne heq.symm

theorem otherPassword_nul : 0 ∉ otherPassword password := by
  unfold otherPassword
  split
  all_goals decide

theorem otherPassword_short : (otherPassword password).length ≤ 1 := by
  unfold otherPassword
  split
  all_goals decide

theorem account_lost (hrsa : intAtLeast EPIC_8_1_1_RSA server =
      atLeast EPIC_8_1_1_RSA server)
    (h : ¬(LoginKind.account.Comparable client ∧
      LoginKind.account.Comparable server))
    (hclient : LoginKind.account.NameFits client name)
    (hserver : LoginKind.account.NameFits server name) (hbora : name ≠ bora)
    (hnul : 0 ∉ password) (hshort : password.length ≤ 31) :
    ¬Preserved client server LoginKind.account name password := by
  intro hpreserved
  let wrong := otherPassword password
  have hwrong : wrong.length ≤ 1 := otherPassword_short
  have hother : 0 ∉ wrong := otherPassword_nul
  let x := paddedLogin LoginKind.account name password wrong wrong
    (0 :: wrong)
  have hC := padding_lawful wrong
  have hoffers : x.Offers client name password :=
    paddedLogin_offers hclient hshort wrong wrong (0 :: wrong)
  apply Exchange.not_survives_of_forwards hC rfl hoffers otherPassword_ne _
    (hpreserved _ x hC rfl hoffers)
  intro s key bytes hkey hcarries
  let r := loginRecord name password
  let pkt := TS_CA_ACCOUNT.fields.overwrite client r (memoryOf wrong)
  have hstring : pkt.string "account" = name :=
    (account_members client r _).account.trans loginRecord_account
  have hname : LoginKind.account.NameFits server (pkt.string "account") := by
    rw [hstring]
    exact hserver
  have hnot : SpecificPacketConverter.isBora pkt = false := by
    have hne : pkt.string "account" ≠ "bora".toUTF8.data.toList := by
      rw [hstring]
      exact hbora
    rw [SpecificPacketConverter.isBora, decide_eq_false hne, Bool.false_and]
  have hneither : (intAtLeast EPIC_8_1_1_RSA client &&
      SpecificPacketConverter.isBora pkt) = false := by
    rw [hnot, Bool.and_false]
  have hinfos : InfosFit (pkt.objectVector "additionalInfos") :=
    Exchange.infos_fit (hoffers.sendable key) (hoffers.size key) rfl
  let login : SpecificPacketConverter (padding wrong) :=
    { s with account := { s.account with isBoraAccount := false } }
  have hplain : LoginKind.account.Comparable client ->
      (SpecificPacketConverter.decryptAccount client login pkt).2 =
        password := fun hcomp =>
    SpecificPacketConverter.decryptAccount_plain hC hcomp
      (hoffers.encodes key) hkey
      (passwordField_overwrite client r _ LoginKind.account)
      (password_size_overwrite client r _ LoginKind.account) hnot hnul
      hshort
  have hmisread : ¬LoginKind.account.Comparable client ->
      (SpecificPacketConverter.decryptAccount client login pkt).2 =
        wrong := fun hcomp =>
    SpecificPacketConverter.decryptAccount_misread login hcomp
      (by rw [loginRecord_account]; exact hbora) hother (by lia)
  have hconverted : s.convertAuthPacketAndSend client server x.atLogin bytes =
      some (login.onAccount client server x.atLogin pkt) :=
    SpecificPacketConverter.convert_account hcarries
  rw [← hstring]
  by_cases hcomp : LoginKind.account.Comparable server
  · have hread := hmisread (fun hboth => h ⟨hboth, hcomp⟩)
    rcases Exchange.forwards_account (x := x) (s := login) hC hcomp
        hoffers.serverKey hoffers.accountPkt hneither hread hname hinfos
        hother (by lia) with
      ⟨result, fields, hanswered, hforwards, -⟩
    exact ⟨_, result, fields, hconverted, hanswered, hforwards⟩
  · have hint : intAtLeast EPIC_8_1_1_RSA server = true :=
      hrsa.trans (dyn_cases hrsa hcomp).left
    let plain := (SpecificPacketConverter.decryptAccount client login pkt).2
    have hlength : plain.length ≤ 31 := by
      by_cases hboth : LoginKind.account.Comparable client
      · exact Nat.le_trans (Nat.le_of_eq (congrArg _ (hplain hboth))) hshort
      · exact Nat.le_trans (Nat.le_of_eq (congrArg _ (hmisread hboth)))
          (by lia)
    let account : PendingAccount :=
      { useImbc := false
        account := pkt.string "account"
        password := plain
        additionalInfos := pkt.objectVector "additionalInfos"
        isBoraAccount := false }
    have hwaits : SpecificPacketConverter.onAccount client server x.atLogin
        login pkt = login.askForKey x.atLogin account :=
      SpecificPacketConverter.onAccount_waits hint hneither
    have hsent := SpecificPacketConverter.accountPkt_misread
      (s := x.withKey login x.atLogin account) wrong hrsa hcomp hname rfl
      (Nat.le_trans hlength (by decide)) hinfos hother (by lia)
    have hanswered := Exchange.answersWithKey_waiting (x := x) client hC
      (dyn_cases hrsa hcomp).left hoffers.serverKey login x.atLogin account
      (fun _ => rfl)
    rw [← hwaits] at hanswered
    exact ⟨_, _, _, hconverted, hanswered, rfl, hsent.left.sendable, rfl,
      hsent.right⟩

theorem imbc_lost_of_forwarded (junk memory : List UInt8)
    {wrong : List UInt8}
    (hcomp : LoginKind.imbc.Comparable server)
    (hclient : LoginKind.imbc.NameFits client name)
    (hserver : LoginKind.imbc.NameFits server name)
    (hshort : password.length ≤ 31) (hwrong : wrong ≠ password)
    (hforwarded : forall s : SpecificPacketConverter (padding junk),
      let pkt := TS_CA_IMBC_ACCOUNT.fields.overwrite client
        (loginRecord name password) (memoryOf memory)
      let plain := s.decryptImbcAccount client pkt
      plain.length ≤ 48 ∧
        cut (Exchange.forwardedImbc server plain pkt) = wrong) :
    ¬Preserved client server LoginKind.imbc name password := by
  intro hpreserved
  let x := paddedLogin LoginKind.imbc name password junk memory []
  have hC := padding_lawful junk
  have hoffers : x.Offers client name password :=
    paddedLogin_offers hclient hshort junk memory []
  apply Exchange.not_survives_of_forwards hC rfl hoffers hwrong _
    (hpreserved _ x hC rfl hoffers)
  intro s key bytes hkey hcarries
  let pkt := TS_CA_IMBC_ACCOUNT.fields.overwrite client
    (loginRecord name password) (memoryOf memory)
  have hstring : pkt.string "account" = name :=
    (imbc_members client _ _).account.trans loginRecord_account
  have hname : LoginKind.imbc.NameFits server (pkt.string "account") := by
    rw [hstring]
    exact hserver
  rcases hforwarded s with ⟨hlength, hcut⟩
  rcases Exchange.forwards_imbc (x := x) hC hcomp hoffers.serverKey hlength
      hname with
    ⟨result, fields, hanswered, hforwards, -⟩
  rw [hcut, hstring] at hforwards
  exact ⟨_, result, fields,
    SpecificPacketConverter.convert_imbcAccount hcarries, hanswered,
    hforwards⟩

theorem imbc_lost (hserverRsa : LoginKind.imbc.Comparable server)
    (h : LoginKind.imbc.Comparable client ->
      atLeast EPIC_8_1_1_RSA client = true ∧
        ¬atLeast EPIC_8_1_1_RSA server = true)
    (hclient : LoginKind.imbc.NameFits client name)
    (hserver : LoginKind.imbc.NameFits server name)
    (hnul : 0 ∉ password) (hshort : password.length ≤ 31) :
    ¬Preserved client server LoginKind.imbc name password := by
  by_cases hcomp : LoginKind.imbc.Comparable client
  · rcases h hcomp with ⟨h811, hold⟩
    have hC := padding_lawful []
    let rest := List.replicate (48 - password.length) (1 : UInt8)
    have hlonger : password ++ rest ≠ password := by
      intro heq
      have hlength := congrArg List.length heq
      rw [List.length_append, List.length_replicate] at hlength
      lia
    have hnever : 0 ∉ password ++ rest := by
      rw [List.mem_append, List.mem_replicate]
      rintro (hin | hin)
      · exact hnul hin
      · exact absurd hin.right (by decide)
    apply imbc_lost_of_forwarded [] (List.replicate 48 1) hserverRsa hclient
      hserver hshort hlonger
    intro s pkt plain
    have hplain : plain = password :=
      (Exchange.decryptImbcAccount_plain (s := s) hC hcomp
        (loginRecord_encodes [] s.clientAesCipher LoginKind.imbc hshort)
        (fun _ => rfl)
        (passwordField_overwrite client _ _ LoginKind.imbc)
        (password_size_overwrite client _ _ LoginKind.imbc) hnul
        hshort).right.right.left h811
    have hmemory : bytesOfArray ((pkt.object "passwordPlain").array
        "password") 48 = List.replicate 48 1 := by
      rw [show pkt.object "passwordPlain" = _ from
        (imbc_members client _ _).passwordPlain, if_pos h811, memoryOf_object,
        Record.array_setArray, if_pos rfl]
      exact bytesOfArray_arrayOfBytes (List.replicate 48 1)
    rw [hplain, Exchange.forwardedImbc, if_neg hold, hmemory,
      copyOver_short (by rw [List.length_replicate]; lia),
      List.drop_replicate]
    exact ⟨Nat.le_trans hshort (by decide), cut_self hnever⟩
  · let wrong := otherPassword password
    have hwrong : wrong.length ≤ 1 := otherPassword_short
    let junk := wrong ++ List.replicate (48 - wrong.length) 0
    have hlength : junk.length = 48 := by
      rw [List.length_append, List.length_replicate]
      lia
    apply imbc_lost_of_forwarded junk wrong hserverRsa hclient hserver hshort
      otherPassword_ne
    intro s pkt plain
    have hplain : plain = junk := by
      rcases rsa_cases hcomp with ⟨hint, h811⟩ | ⟨hint, h811⟩
      · change s.decryptImbcAccount client pkt = junk
        rw [SpecificPacketConverter.decryptImbcAccount, if_pos hint,
          show pkt.object "passwordAes" = _ from
            (imbc_members client _ _).passwordAes, if_neg h811]
        rfl
      · change s.decryptImbcAccount client pkt = junk
        rw [SpecificPacketConverter.decryptImbcAccount, if_neg hint,
          show pkt.object "passwordPlain" = _ from
            (imbc_members client _ _).passwordPlain, if_pos h811, memoryOf_object,
          Record.array_setArray, if_pos rfl]
        exact bytesOfArray_padded (by lia)
    have hforwarded : Exchange.forwardedImbc server plain pkt = junk := by
      rw [hplain, Exchange.forwardedImbc]
      split
      · rfl
      · exact copyOver_full (by rw [length_bytesOfArray]; exact hlength)
    rw [hforwarded, hplain]
    exact ⟨Nat.le_of_eq hlength, cut_replicate otherPassword_nul _⟩

/--
A login survives exactly between versions that are compared alike, unless it
goes to a server that takes an IMBC password in plain from a client that does
not.
-/
theorem preserved_iff (hclient : kind.NameFits client name)
    (hserver : kind.NameFits server name) (hbora : name ≠ bora)
    (hnul : 0 ∉ password) (hshort : password.length ≤ 31) :
    Preserved client server kind name password ↔
      kind.Convertible client server := by
  constructor
  · intro hpreserved
    by_contra hnot
    have hrsa : intAtLeast EPIC_8_1_1_RSA server =
        atLeast EPIC_8_1_1_RSA server := by
      by_contra hne
      have hoffers : (paddedLogin kind name password [] [] []).Offers client
          name password := paddedLogin_offers hclient hshort [] [] []
      exact not_survives_of_server (padding_lawful []) rfl hoffers hne
        (hpreserved _ _ (padding_lawful []) rfl hoffers)
    cases kind with
    | account =>
        refine account_lost hrsa (fun hboth => hnot ?_) hclient hserver hbora
          hnul hshort hpreserved
        exact ⟨hboth.left, hboth.right, fun himbc => (nomatch himbc)⟩
    | imbc =>
        refine imbc_lost hrsa (fun hcomp => ?_) hclient hserver hnul hshort
          hpreserved
        by_contra hkeys
        refine hnot ⟨hcomp, hrsa, fun _ h811 => ?_⟩
        by_contra hold
        exact hkeys ⟨h811, hold⟩
  · exact fun h => preserved_of_convertible h hserver hbora hnul hshort

/-- The login of an account, from an old client to a new server. -/
theorem preserved_iff_account :
    Preserved 0x070400 0x090607 LoginKind.account [97] [98] ↔
      LoginKind.account.Convertible 0x070400 0x090607 :=
  preserved_iff ⟨by decide, by decide⟩ ⟨by decide, by decide⟩ (by decide)
    (by decide) (by decide)

/-- An IMBC login from a client with keys to a server without. -/
theorem not_preserved_imbc :
    ¬forall (client server : Version) (kind : LoginKind) (name : Packet.CharString)
      (password : List UInt8), kind.NameFits client name ->
        kind.NameFits server name -> name ≠ bora -> 0 ∉ password ->
        password.length ≤ 31 -> Preserved client server kind name password := by
  intro hall
  have hfits : LoginKind.imbc.NameFits 0x090100 [97] :=
    ⟨by decide, by decide⟩
  have hfits' : LoginKind.imbc.NameFits 0x070400 [97] :=
    ⟨by decide, by decide⟩
  have hplain : LoginKind.imbc.Comparable 0x070400 := by
    unfold LoginKind.Comparable
    decide
  have hlost : ¬Preserved 0x090100 0x070400 LoginKind.imbc [97] [98] :=
    imbc_lost hplain (fun _ => ⟨by decide, by decide⟩) hfits hfits'
      (by decide) (by decide)
  exact hlost (hall 0x090100 0x070400 LoginKind.imbc [97] [98] hfits hfits'
    (by decide) (by decide) (by decide))

end Lost

end Converter
end Rzu
