import Mathlib.Data.List.Infix
import Rzu.Auth.Frames
import Rzu.Auth.Ownership

/-!
# Isolation of frames

What a frame makes a session do depends on that frame alone exactly if it covers
what its handler reads of the input buffer.
-/

namespace Rzu
namespace Auth

open Library Packet

/-!
## Memory that agrees on a frame
-/

def AgreeUpTo (n : Nat) (memory memory' : List UInt8) : Prop :=
  forall i, i < n -> memory.getD i 0 = memory'.getD i 0

namespace Frame

variable (frame : Frame) (previous : List UInt8)

theorem getD_over {i : Nat} (h : i < frame.bytes.length) :
    (frame.over previous).getD i 0 = frame.bytes.getD i 0 := by
  rw [Frame.over, List.getD_eq_getElem?_getD, List.getElem?_append_left h,
    List.getD_eq_getElem?_getD]

theorem getD_over_stale {i : Nat} (h : frame.bytes.length ≤ i) :
    (frame.over previous).getD i 0 = previous.getD i 0 := by
  rw [Frame.over, List.getD_eq_getElem?_getD, List.getElem?_append_right h,
    List.getElem?_drop, Nat.add_sub_cancel' h, List.getD_eq_getElem?_getD]

theorem length_over :
    (frame.over previous).length =
      max frame.bytes.length previous.length := by
  rw [Frame.over, List.length_append, List.length_drop]
  lia

theorem agree_over (previous' : List UInt8) :
    AgreeUpTo frame.bytes.length (frame.over previous)
      (frame.over previous') := by
  intro i hi
  rw [frame.getD_over previous hi, frame.getD_over previous' hi]

end Frame

namespace AgreeUpTo

variable {n offset width : Nat} {memory memory' : List UInt8}

theorem arrayAt (h : AgreeUpTo n memory memory') (hn : offset + width ≤ n) :
    arrayAt memory offset width = Auth.arrayAt memory' offset width := by
  unfold Auth.arrayAt
  congr 1
  funext i
  exact h _ (by lia)

theorem numberAt (h : AgreeUpTo n memory memory') (hn : offset + width ≤ n) :
    numberAt memory offset width = Auth.numberAt memory' offset width := by
  rw [Auth.numberAt, h.arrayAt hn, Auth.numberAt]

theorem int32At (h : AgreeUpTo n memory memory') (hn : offset + 4 ≤ n) :
    int32At memory offset = Auth.int32At memory' offset := by
  rw [Auth.int32At, h.numberAt hn, Auth.int32At]

theorem messageSize (h : AgreeUpTo n memory memory') (hn : 4 ≤ n) :
    messageSize memory = Auth.messageSize memory' :=
  h.numberAt hn

theorem messageId (h : AgreeUpTo n memory memory') (hn : 6 ≤ n) :
    messageId memory = Auth.messageId memory' :=
  h.numberAt hn

theorem serverLoginAt (h : AgreeUpTo n memory memory') (hn : 307 ≤ n) :
    serverLoginAt memory = Auth.serverLoginAt memory' := by
  unfold Auth.serverLoginAt
  rw [h.numberAt (by lia), h.arrayAt (by lia), h.arrayAt (by lia),
    boolAt, h 286 (by lia), h.arrayAt (by lia), h.int32At (by lia)]
  rfl

theorem clientLoginAt (h : AgreeUpTo n memory memory') (hn : 76 ≤ n) :
    clientLoginAt memory = Auth.clientLoginAt memory' := by
  unfold Auth.clientLoginAt
  rw [h.arrayAt (by lia), h.numberAt (by lia)]

end AgreeUpTo

theorem takeWhile_range_congr {f g : Nat -> UInt8} {n k : Nat}
    (h : forall i, i < n -> f i = g i)
    (hend : k ≤ n ∨ exists i, i < n ∧ f i = 0) :
    ((List.range k).map f).takeWhile (· ≠ 0) =
      ((List.range k).map g).takeWhile (· ≠ 0) := by
  induction k generalizing f g n with
  | zero => rfl
  | succ k ih =>
      have hn : 0 < n := by
        rcases hend with hend | ⟨i, hi, _⟩
        · lia
        · lia
      rw [List.range_succ_eq_map, List.map_cons, List.map_cons,
        List.takeWhile_cons, List.takeWhile_cons, ← h 0 hn]
      by_cases hzero : f 0 = 0
      · rw [hzero]
        rfl
      · rw [if_pos (by simpa using hzero), if_pos (by simpa using hzero),
          List.map_map, List.map_map]
        congr 1
        apply ih (n := n - 1)
        · intro i hi
          exact h (i + 1) (by lia)
        · rcases hend with hend | ⟨i, hi, hfi⟩
          · exact Or.inl (by lia)
          · cases i with
            | zero => exact absurd hfi hzero
            | succ i => exact Or.inr ⟨i, by lia, hfi⟩

theorem getElem_arrayAt {memory : List UInt8} {offset n i : Nat}
    (hi : i < (arrayAt memory offset n).toList.length) :
    (arrayAt memory offset n).toList[i] = memory.getD (offset + i) 0 := by
  simp [arrayAt]

theorem convertToString_arrayAt (memory : List UInt8) (offset n : Nat)
    {k : Nat} (hk : k ≤ n) :
    convertToString (arrayAt memory offset n).toList k =
      ((List.range k).map fun i =>
        memory.getD (offset + i) 0).takeWhile (· ≠ 0) := by
  rw [convertToString]
  congr 1
  apply List.ext_getElem
  · rw [List.length_take, Vector.length_toList, List.length_map,
      List.length_range]
    exact Nat.min_eq_left hk
  · intro i hi hi'
    rw [List.getElem_take, List.getElem_map, List.getElem_range,
      getElem_arrayAt]

theorem AgreeUpTo.string {n offset width k : Nat}
    {memory memory' : List UInt8} (h : AgreeUpTo n memory memory')
    (hk : k ≤ width)
    (hend : offset + k ≤ n ∨
      exists i, offset ≤ i ∧ i < n ∧ memory.getD i 0 = 0) :
    convertToString (Auth.arrayAt memory offset width).toList k =
      convertToString (Auth.arrayAt memory' offset width).toList k := by
  rw [convertToString_arrayAt memory offset width hk,
    convertToString_arrayAt memory' offset width hk]
  apply takeWhile_range_congr (n := n - offset)
  · intro i hi
    exact h _ (by lia)
  · rcases hend with hend | ⟨i, hoffset, hi, hzero⟩
    · exact Or.inl (by lia)
    · refine Or.inr ⟨i - offset, by lia, ?_⟩
      rw [Nat.add_sub_cancel' hoffset]
      exact hzero

/-!
## Game server sessions
-/

def GamePacketType.packetID : GamePacketType -> Nat
  | loginWithLogout => 60001
  | loginWithLogoutExt => 60004
  | login => 20001
  | accountList => 60003
  | logout => 60002
  | clientLogin => 20010
  | clientLogout => 20012
  | clientKickFailed => 20014
  | securityNoCheck => 40001

theorem gamePacketType_packetID (type : GamePacketType) :
    gamePacketType type.packetID = some type := by
  cases type <;> decide

theorem packetID_of_gamePacketType {id : Nat} {type : GamePacketType}
    (h : gamePacketType id = some type) : id = type.packetID := by
  unfold gamePacketType at h
  repeat' split at h
  all_goals cases h
  all_goals assumption

/-- The low bytes of the identifiers that make a session do something. -/
def gameIdBytes : List UInt8 :=
  [0x61, 0x64, 0x21, 0x62, 0x2A, 0x2C, 0x2E, 0x41]

/-- A frame covers what the handler reads, or ends the strings it reads. -/
def GamePacketType.CoveredBy (bytes : List UInt8) : GamePacketType -> Prop
  | loginWithLogout => 307 ≤ bytes.length
  | loginWithLogoutExt => 323 ≤ bytes.length
  | login => 307 ≤ bytes.length
  | accountList => True
  | logout => True
  | clientLogin => 76 ≤ bytes.length
  | clientLogout => 67 ≤ bytes.length ∨ 0 ∈ bytes.drop 7
  | clientKickFailed => 67 ≤ bytes.length ∨ 0 ∈ bytes.drop 7
  | securityNoCheck => 86 ≤ bytes.length ∨ 0 ∈ bytes.drop 68

/-- A frame is complete: a frame of five bytes lacks half the identifier. -/
structure Frame.CompleteForGame (frame : Frame) : Prop where
  id : frame.bytes.length = 5 -> frame.bytes.getD 4 0 ∉ gameIdBytes
  covered : 6 ≤ frame.bytes.length ->
    forall type, gamePacketType (messageId frame.bytes) = some type ->
      type.CoveredBy frame.bytes

/--
Two sessions in one state, which the server can reach, handle the frame alike,
whatever the input buffers held before.
-/
def Frame.IsolatedForGame (frame : Frame) : Prop :=
  forall strictKick history s x securityNoSendMode chance previous previous',
    AuthRun strictKick history s -> (s.gameSessions x).isSome ->
    initialBufferSize ≤ previous.length ->
    initialBufferSize ≤ previous'.length ->
      s.onGamePacketReceived chance x securityNoSendMode
          (frame.over previous) =
        s.onGamePacketReceived chance x securityNoSendMode
          (frame.over previous')

theorem exists_zero_of_mem_drop {bytes : List UInt8} {offset : Nat}
    (h : 0 ∈ bytes.drop offset) :
    exists i, offset ≤ i ∧ i < bytes.length ∧ bytes.getD i 0 = 0 := by
  rcases List.getElem_of_mem h with ⟨i, hi, hzero⟩
  rw [List.length_drop] at hi
  refine ⟨offset + i, Nat.le_add_right _ _, by lia, ?_⟩
  rw [List.getElem_drop] at hzero
  rw [List.getD_eq_getElem?_getD, List.getElem?_eq_getElem (by lia), hzero]
  rfl

namespace AuthState

variable {s : AuthState} {x : Addr}

theorem onAccountList_refused {packet : AccountList} {newClients : List Addr}
    (hlive : (s.gameSessions x).isSome)
    (hsize : packet.expectedSize ≠ packet.size) :
    s.onAccountList x packet newClients = some (s, []) := by
  rcases Option.isSome_iff_exists.mp hlive with ⟨session, hsession⟩
  rw [onAccountList, hsession, Option.bind_eq_bind, Option.bind_some]
  cases session.gameData with
  | none => rfl
  | some g =>
      simp only [if_pos hsize]
      rfl

theorem removeNamedClient_congr {account account' : Vector UInt8 61}
    (h : packetAccount account = packetAccount account') :
    s.removeNamedClient x account = s.removeNamedClient x account' := by
  rw [removeNamedClient, h, removeNamedClient]

end AuthState

theorem expectedSize_ne_size {memory : List UInt8} {n : Nat}
    (hsize : messageSize memory = n)
    (hfits : 9 + 124 * (memory.getD 8 0).toNat ≠ n) :
    (accountListAt memory).expectedSize ≠ (accountListAt memory).size := by
  intro heq
  apply hfits
  rw [← hsize, Nat.add_comm, Nat.mul_comm]
  exact heq

namespace AgreeUpTo

variable {n : Nat} {memory memory' : List UInt8}

theorem accountInfoAt {offset : Nat} (h : AgreeUpTo n memory memory')
    (hn : offset + 124 ≤ n) :
    accountInfoAt memory offset = Auth.accountInfoAt memory' offset := by
  unfold Auth.accountInfoAt
  rw [h.arrayAt (by lia), h.int32At (by lia), h (offset + 65) (by lia),
    h.int32At (by lia), h.int32At (by lia), h.arrayAt (by lia),
    h.numberAt (by lia)]

theorem accountListAt (h : AgreeUpTo n memory memory')
    (hfits : 9 + 124 * (memory.getD 8 0).toNat = n)
    (hsize : Auth.messageSize memory = n)
    (hsize' : Auth.messageSize memory' = n) :
    accountListAt memory = Auth.accountListAt memory' := by
  have hcount : memory.getD 8 0 = memory'.getD 8 0 := h 8 (by lia)
  have hinfo : (List.range (memory.getD 8 0).toNat).map (fun i =>
        Auth.accountInfoAt memory (accountListSize + i * accountInfoSize)) =
      (List.range (memory'.getD 8 0).toNat).map fun i =>
        Auth.accountInfoAt memory'
          (accountListSize + i * accountInfoSize) := by
    rw [← hcount]
    apply List.map_congr_left
    intro i hi
    have hlt := List.mem_range.mp hi
    exact h.accountInfoAt (by rw [accountListSize, accountInfoSize]; lia)
  unfold Auth.accountListAt
  congr 1
  · rw [hsize, hsize']
  · rw [boolAt, h 7 (by lia), boolAt]

theorem packetAccount (h : AgreeUpTo n memory memory')
    (hend : 67 ≤ n ∨ exists i, 7 ≤ i ∧ i < n ∧ memory.getD i 0 = 0) :
    packetAccount (Auth.arrayAt memory 7 61) =
      Auth.packetAccount (Auth.arrayAt memory' 7 61) :=
  h.string (by lia) hend

theorem onAccountList {s : AuthState} {x : Addr} {newClients : List Addr}
    (h : AgreeUpTo n memory memory') (hn : 6 ≤ n)
    (hsize : Auth.messageSize memory = n)
    (hlive : (s.gameSessions x).isSome) :
    s.onAccountList x (Auth.accountListAt memory) newClients =
      s.onAccountList x (Auth.accountListAt memory') newClients := by
  have hsize' : Auth.messageSize memory' = n := by
    rw [← h.messageSize (by lia), hsize]
  by_cases hfits : 9 + 124 * (memory.getD 8 0).toNat = n
  · rw [h.accountListAt hfits hsize hsize']
  · have hfits' : 9 + 124 * (memory'.getD 8 0).toNat ≠ n := by
      intro heq
      apply hfits
      rw [h 8 (by lia)]
      exact heq
    rw [AuthState.onAccountList_refused hlive
        (expectedSize_ne_size hsize hfits),
      AuthState.onAccountList_refused hlive
        (expectedSize_ne_size hsize' hfits')]

/-- The handler of a packet that is covered reads the frame only. -/
theorem handleGamePacket {bytes : List UInt8} {type : GamePacketType}
    {s : AuthState} {x : Addr} {securityNoSendMode : Bool} {chance : Chance}
    (h : AgreeUpTo bytes.length memory memory')
    (hframe : AgreeUpTo bytes.length memory bytes) (hn : 6 ≤ bytes.length)
    (hsize : Auth.messageSize memory = bytes.length)
    (hlive : (s.gameSessions x).isSome) (hcovered : type.CoveredBy bytes) :
    s.handleGamePacket chance x securityNoSendMode memory type =
      s.handleGamePacket chance x securityNoSendMode memory' type := by
  have hzero : forall offset, 0 ∈ bytes.drop offset ->
      exists i, offset ≤ i ∧ i < bytes.length ∧ memory.getD i 0 = 0 := by
    intro offset hmem
    rcases exists_zero_of_mem_drop hmem with ⟨i, hoffset, hi, hzero⟩
    exact ⟨i, hoffset, hi, by rw [hframe i hi, hzero]⟩
  have haccount : 67 ≤ bytes.length ∨ 0 ∈ bytes.drop 7 ->
      Auth.packetAccount (Auth.arrayAt memory 7 61) =
        Auth.packetAccount (Auth.arrayAt memory' 7 61) :=
    fun hend => h.packetAccount (hend.imp_right (hzero 7))
  cases type with
  | loginWithLogout =>
      rw [AuthState.handleGamePacket, h.serverLoginAt hcovered]
      rfl
  | loginWithLogoutExt =>
      have hlogin : 307 ≤ bytes.length := Nat.le_trans (by lia) hcovered
      rw [AuthState.handleGamePacket, h.serverLoginAt hlogin,
        h.arrayAt hcovered]
      rfl
  | login =>
      rw [AuthState.handleGamePacket, h.serverLoginAt hcovered]
      rfl
  | accountList =>
      rw [AuthState.handleGamePacket, h.onAccountList hn hsize hlive,
        AuthState.handleGamePacket]
  | logout => rfl
  | clientLogin =>
      rw [AuthState.handleGamePacket, h.clientLoginAt hcovered]
      rfl
  | clientLogout =>
      rw [AuthState.handleGamePacket, AuthState.onClientLogout,
        AuthState.removeNamedClient_congr (haccount hcovered)]
      rfl
  | clientKickFailed =>
      rw [AuthState.handleGamePacket, AuthState.onClientKickFailed,
        AuthState.removeNamedClient_congr (haccount hcovered)]
      rfl
  | securityNoCheck =>
      have hsecurity : convertToString (Auth.arrayAt memory 68 19).toList 18 =
          convertToString (Auth.arrayAt memory' 68 19).toList 18 :=
        h.string (by lia) (hcovered.imp_right (hzero 68))
      have hname : 67 ≤ bytes.length ∨ 0 ∈ bytes.drop 7 := by
        rcases hcovered with hcovered | hcovered
        · exact Or.inl (by lia)
        · rcases exists_zero_of_mem_drop hcovered with ⟨i, hoffset, hi, _⟩
          exact Or.inl (by lia)
      rw [AuthState.handleGamePacket, AuthState.handleGamePacket,
        AuthState.onSecurityNoCheck, AuthState.onSecurityNoCheck, hsecurity,
        haccount hname, ← h.messageSize (by lia), hsize]
      by_cases hmode : securityNoCheckSize ≤ bytes.length
      · rw [h.int32At hmode]
      · simp only [if_neg hmode]

end AgreeUpTo

namespace Frame

variable {frame : Frame}

theorem announced_over (frame : Frame) (previous : List UInt8) :
    messageSize (frame.over previous) = frame.bytes.length := by
  have harray : (arrayAt (frame.over previous) 0 4).toList =
      frame.bytes.take 4 := by
    have hlarge := frame.large
    apply List.ext_getElem
    · rw [Vector.length_toList, List.length_take]
      lia
    · intro i hi hi'
      rw [List.length_take] at hi'
      rw [getElem_arrayAt, Nat.zero_add, frame.getD_over previous (by lia),
        List.getElem_take, List.getElem_eq_getD 0]
  rw [messageSize, numberAt, harray, frame.announced]

theorem agree_bytes (frame : Frame) (previous : List UInt8) :
    AgreeUpTo frame.bytes.length (frame.over previous) frame.bytes :=
  fun _ hi => frame.getD_over previous hi

theorem messageId_over (hlength : 6 ≤ frame.bytes.length)
    (previous : List UInt8) :
    messageId (frame.over previous) = messageId frame.bytes :=
  (frame.agree_bytes previous).messageId hlength

theorem messageId_mod (hlength : frame.bytes.length = 5)
    (previous : List UInt8) :
    messageId (frame.over previous) % 256 =
      (frame.bytes.getD 4 0).toNat := by
  have hlt := (frame.bytes.getD 4 0).toNat_lt
  have hid : messageId (frame.over previous) =
      ((frame.over previous).getD 4 0).toNat +
        256 * (((frame.over previous).getD 5 0).toNat + 256 * 0) := rfl
  rw [hid, frame.getD_over previous (by lia)]
  lia

end Frame

namespace AuthState

variable {s : AuthState} {x : Addr}

/-- Nothing but a list of accounts hides behind other low bytes. -/
theorem onGamePacketReceived_half {frame : Frame} {chance : Chance}
    {securityNoSendMode : Bool} {previous : List UInt8}
    (hlive : (s.gameSessions x).isSome)
    (hlength : frame.bytes.length = 5)
    (hid : frame.bytes.getD 4 0 ∉ gameIdBytes)
    (hprevious : initialBufferSize ≤ previous.length) :
    s.onGamePacketReceived chance x securityNoSendMode (frame.over previous) =
      some ⟨s, securityNoSendMode, []⟩ := by
  have hmod := frame.messageId_mod hlength previous
  have hbyte : forall b, b ∈ gameIdBytes ->
      messageId (frame.over previous) % 256 ≠ b.toNat := by
    intro b hb heq
    rw [hmod] at heq
    exact hid (UInt8.toNat_inj.mp heq ▸ hb)
  rw [onGamePacketReceived]
  cases htype : gamePacketType (messageId (frame.over previous)) with
  | none => rfl
  | some type =>
      have hlist : type = GamePacketType.accountList := by
        have hpacketID := packetID_of_gamePacketType htype
        rw [hpacketID] at hbyte
        cases type with
        | accountList => rfl
        | _ => exact absurd hbyte (by decide)
      subst hlist
      have hextent : GamePacketType.accountList.extent ≤
          (frame.over previous).length := by
        rw [frame.length_over]
        exact Nat.le_trans (by decide)
          (Nat.le_trans hprevious (Nat.le_max_right _ _))
      have hwrong := expectedSize_ne_size (frame.announced_over previous)
        (by lia)
      simp only [if_pos hextent]
      rw [handleGamePacket, onAccountList_refused hlive hwrong]
      rfl

end AuthState

theorem Frame.isolatedForGame_of_complete {frame : Frame}
    (h : frame.CompleteForGame) : frame.IsolatedForGame := by
  intro strictKick history s x securityNoSendMode chance previous previous'
    _ hlive hprevious hprevious'
  have hlarge := frame.large
  by_cases hlength : frame.bytes.length = 5
  · rw [AuthState.onGamePacketReceived_half hlive hlength (h.id hlength)
        hprevious,
      AuthState.onGamePacketReceived_half hlive hlength (h.id hlength)
        hprevious']
  · have hsix : 6 ≤ frame.bytes.length := by lia
    rw [AuthState.onGamePacketReceived, AuthState.onGamePacketReceived,
      frame.messageId_over hsix previous, frame.messageId_over hsix previous']
    cases htype : gamePacketType (messageId frame.bytes) with
    | none => rfl
    | some type =>
        have hcovered := h.covered hsix type htype
        have hextent : forall previous : List UInt8,
            initialBufferSize ≤ previous.length ->
              type.extent ≤ (frame.over previous).length := by
          intro previous hprevious
          rw [initialBufferSize] at hprevious
          rw [frame.length_over]
          cases type with
          | loginWithLogout => exact Nat.le_trans hcovered (Nat.le_max_left _ _)
          | loginWithLogoutExt =>
              exact Nat.le_trans hcovered (Nat.le_max_left _ _)
          | login => exact Nat.le_trans hcovered (Nat.le_max_left _ _)
          | _ =>
              exact Nat.le_trans (by decide)
                (Nat.le_trans hprevious (Nat.le_max_right _ _))
        simp only [if_pos (hextent previous hprevious),
          if_pos (hextent previous' hprevious')]
        exact (frame.agree_over previous previous').handleGamePacket
          (frame.agree_bytes previous) hsix (frame.announced_over previous)
          hlive hcovered

/-!
## Client sessions
-/

/-- The low bytes of the identifiers that make a session do something. -/
def clientIdBytes : List UInt8 := [0x47, 0x2F, 0x11, 0x1A, 0x1C, 0x25, 0x27]

/--
The text that starts a frame decides the version: it starts with a word, or it
holds a whole number and is not the start of a word that gets an answer.
-/
def VersionKnown (text : List UInt8) : Prop :=
  textTEST <+: text ∨ textINFO <+: text ∨ text200609280 <+: text ∨
    ((strtol text).isSome ∧ ¬text <+: textTEST ∧ ¬text <+: textINFO)

structure Frame.CompleteForClient (frame : Frame) : Prop where
  id : frame.bytes.length = 5 -> frame.bytes.getD 4 0 ∉ clientIdBytes
  version : 6 ≤ frame.bytes.length -> messageId frame.bytes = 10001 ->
    VersionKnown (frame.bytes.drop 7)
  server : 6 ≤ frame.bytes.length -> messageId frame.bytes = 10023 ->
    9 ≤ frame.bytes.length

/-- As for game servers, with the version that the session has guessed. -/
def Frame.IsolatedForClient (frame : Frame) : Prop :=
  forall strictKick history s c packetVersion buildDate chance previous
      previous', AuthRun strictKick history s ->
    (s.clientSessions c).isSome ->
    initialBufferSize ≤ previous.length ->
    initialBufferSize ≤ previous'.length ->
      s.onClientPacketReceived buildDate chance c packetVersion
          (frame.over previous) =
        s.onClientPacketReceived buildDate chance c packetVersion
          (frame.over previous')

theorem signOf_append {chars : List UInt8} (h : chars ≠ [])
    (more : List UInt8) :
    signOf (chars ++ more) =
      ((signOf chars).1, (signOf chars).2 ++ more) := by
  cases chars with
  | nil => exact absurd rfl h
  | cons c rest =>
      rw [List.cons_append]
      unfold signOf
      split
      · rename_i heq
        cases heq
        rfl
      · rename_i heq
        cases heq
        rfl
      · rename_i hminus hplus
        split
        · rename_i heq
          cases heq
          exact absurd rfl (hminus _)
        · rename_i heq
          cases heq
          exact absurd rfl (hplus _)
        · rfl

theorem strtol_append {chars : List UInt8} {number : Int}
    (h : strtol chars = some number) (more : List UInt8) :
    strtol (chars ++ more) = some number := by
  unfold strtol at h
  by_cases hlength :
    ((signOf (chars.dropWhile isSpace)).2.takeWhile isDigit).length <
      (signOf (chars.dropWhile isSpace)).2.length
  · have hnonempty : chars.dropWhile isSpace ≠ [] := by
      intro hnil
      rw [hnil] at hlength
      exact absurd hlength (by decide)
    have hspace : (chars ++ more).dropWhile isSpace =
        chars.dropWhile isSpace ++ more := by
      rw [List.dropWhile_append, if_neg]
      rw [List.isEmpty_iff]
      exact hnonempty
    have hdigits : ((signOf (chars.dropWhile isSpace)).2 ++
        more).takeWhile isDigit =
        (signOf (chars.dropWhile isSpace)).2.takeWhile isDigit := by
      rw [List.takeWhile_append, if_neg (by lia)]
    unfold strtol
    rw [hspace, signOf_append hnonempty]
    simp only [hdigits]
    rw [if_pos hlength] at h
    rw [if_pos (by rw [List.length_append]; lia)]
    exact h
  · rw [if_neg hlength] at h
    cases h

theorem isPrefixOf_append_of_isPrefixOf {word text : List UInt8}
    (h : word <+: text) (more : List UInt8) :
    word.isPrefixOf (text ++ more) = true :=
  List.isPrefixOf_iff_prefix.mpr (h.trans (List.prefix_append _ _))

theorem isPrefixOf_append_of_apart {word text : List UInt8}
    (h : ¬word <+: text) (h' : ¬text <+: word) (more : List UInt8) :
    word.isPrefixOf (text ++ more) = false := by
  rw [Bool.eq_false_iff]
  intro hword
  have hprefix := List.isPrefixOf_iff_prefix.mp hword
  rcases List.prefix_or_prefix_of_prefix hprefix
    (List.prefix_append text more) with hpre | hpre
  · exact h hpre
  · exact h' hpre

theorem strtol_prefix_number {text : List UInt8}
    (h : text <+: text200609280) : strtol text = none := by
  have hinits : forall start, start ∈ text200609280.inits ->
      strtol start = none := by
    decide
  exact hinits text (List.mem_inits text text200609280 |>.mpr h)

theorem strtol_letter (rest : List UInt8) : strtol (67 :: rest) = some 0 := by
  have hdigits : (67 :: rest).takeWhile isDigit = [] := rfl
  have hsigned : signOf ((67 :: rest).dropWhile isSpace) =
      (1, 67 :: rest) := rfl
  unfold strtol
  rw [hsigned]
  simp only [hdigits]
  exact (if_pos (Nat.zero_lt_succ rest.length)).trans (by decide)

theorem isPrefixOf_append_of_other (word : List UInt8)
    {other text : List UInt8} (h : other <+: text) (hword : ¬word <+: other) (hother : ¬other <+: word)
    (more : List UInt8) : word.isPrefixOf (text ++ more) = false := by
  rw [Bool.eq_false_iff]
  intro hstart
  rcases List.prefix_or_prefix_of_prefix
    (List.isPrefixOf_iff_prefix.mp hstart)
    (h.trans (List.prefix_append text more)) with hpre | hpre
  · exact hword hpre
  · exact hother hpre

theorem onVersion_known (s : AuthState) (buildDate : UInt32) (c : Addr)
    {text : List UInt8} (h : VersionKnown text) :
    exists handled, forall memory more, memory.drop 7 = text ++ more ->
      s.onVersion buildDate c memory = some handled := by
  by_cases htest : textTEST <+: text
  · refine ⟨⟨s, EPIC_2, [Reply.versionResult c
      (UInt32.ofNat s.connectedClients.entries.length ^^^ 0xADADADAD)]⟩,
      fun memory more hmemory => ?_⟩
    rw [AuthState.onVersion, hmemory]
    simp only [isPrefixOf_append_of_isPrefixOf htest more, if_true]
  by_cases hinfo : textINFO <+: text
  · refine ⟨⟨s, EPIC_2, [Reply.versionResult c (buildDate ^^^ 0xADADADAD)]⟩,
      fun memory more hmemory => ?_⟩
    rw [AuthState.onVersion, hmemory]
    simp only [isPrefixOf_append_of_isPrefixOf hinfo more, if_true,
      isPrefixOf_append_of_other textTEST hinfo (by decide)
        (by decide) more, Bool.false_eq_true, if_false]
  by_cases hnumber : text200609280 <+: text
  · refine ⟨⟨s, setMinimumPacketVersion EPIC_2 EPIC_2, []⟩, fun memory more hmemory => ?_⟩
    rw [AuthState.onVersion, hmemory]
    simp only [isPrefixOf_append_of_isPrefixOf hnumber more, if_true,
      isPrefixOf_append_of_other textTEST hnumber (by decide)
        (by decide) more, isPrefixOf_append_of_other textINFO hnumber
        (by decide) (by decide) more, Bool.false_eq_true, if_false,
      Bool.true_or]
  rcases h with h | h | h | ⟨hends, htest', hinfo'⟩
  · exact absurd h htest
  · exact absurd h hinfo
  · exact absurd h hnumber
  have hnumber' : ¬text <+: text200609280 := by
    intro hpre
    rw [strtol_prefix_number hpre] at hends
    cases hends
  rcases Option.isSome_iff_exists.mp hends with ⟨number, hnumeral⟩
  by_cases hcreer : textCreer <+: text
  · refine ⟨⟨s, setMinimumPacketVersion EPIC_2 EPIC_2, []⟩, fun memory more hmemory => ?_⟩
    rw [AuthState.onVersion, hmemory]
    simp only [isPrefixOf_append_of_apart htest htest',
      isPrefixOf_append_of_apart hinfo hinfo',
      isPrefixOf_append_of_apart hnumber hnumber',
      isPrefixOf_append_of_isPrefixOf hcreer more, Bool.false_eq_true, if_false,
      Bool.false_or, if_true]
  refine ⟨⟨s, setMinimumPacketVersion EPIC_2 (epicOfNumber number), []⟩,
    fun memory more hmemory => ?_⟩
  rw [AuthState.onVersion, hmemory]
  simp only [isPrefixOf_append_of_apart htest htest',
    isPrefixOf_append_of_apart hinfo hinfo',
    isPrefixOf_append_of_apart hnumber hnumber', Bool.false_eq_true, if_false,
    Bool.false_or, strtol_append hnumeral more]
  split
  · -- the word starts with the text, whose number is zero
    rename_i hword
    have hstart : text <+: textCreer := by
      rcases List.prefix_or_prefix_of_prefix
        (List.isPrefixOf_iff_prefix.mp hword)
        (List.prefix_append text more) with hpre | hpre
      · exact absurd hpre hcreer
      · exact hpre
    cases text with
    | nil => exact absurd (List.nil_prefix) htest'
    | cons letter rest =>
        have hletter : letter = 67 := (List.cons_prefix_cons.mp hstart).left
        rw [hletter, strtol_letter] at hnumeral
        cases hnumeral
        rfl
  · rfl

theorem toNat_serverIdx (memory : List UInt8) :
    (UInt32.ofNat (numberAt memory 7 4)).toUInt16.toNat =
      (memory.getD 7 0).toNat + 256 * (memory.getD 8 0).toNat := by
  have hnumber : numberAt memory 7 4 = (memory.getD 7 0).toNat +
      256 * ((memory.getD 8 0).toNat + 256 * ((memory.getD 9 0).toNat +
        256 * ((memory.getD 10 0).toNat + 256 * 0))) := rfl
  have hlow := (memory.getD 7 0).toNat_lt
  have hhigh := (memory.getD 8 0).toNat_lt
  rw [UInt32.toNat_toUInt16, UInt32.toNat_ofNat', hnumber]
  lia

theorem AgreeUpTo.serverIdx {n : Nat} {memory memory' : List UInt8}
    (h : AgreeUpTo n memory memory') (hn : 9 ≤ n) :
    (UInt32.ofNat (Auth.numberAt memory 7 4)).toUInt16 =
      (UInt32.ofNat (Auth.numberAt memory' 7 4)).toUInt16 := by
  apply UInt16.toNat_inj.mp
  rw [toNat_serverIdx, toNat_serverIdx, h 7 (by lia), h 8 (by lia)]

namespace Frame

variable {frame : Frame}

theorem take_over (frame : Frame) (previous : List UInt8) :
    (frame.over previous).take (messageSize (frame.over previous)) =
      frame.bytes := by
  rw [frame.announced_over, Frame.over, List.take_left]

theorem process_over (frame : Frame) (previous previous' : List UInt8)
    (s : AuthState) (c : Addr) (packetVersion : Version)
    (type : ClientPacketType) (packet : PacketType) :
    s.process c packetVersion (frame.over previous) type packet =
      s.process c packetVersion (frame.over previous') type packet := by
  rw [AuthState.process, frame.take_over, AuthState.process, frame.take_over]

theorem drop_over (hlength : 7 ≤ frame.bytes.length)
    (previous : List UInt8) :
    (frame.over previous).drop 7 =
      frame.bytes.drop 7 ++ previous.drop frame.bytes.length := by
  rw [Frame.over, List.drop_append_of_le_length hlength]

end Frame

theorem clientPacketType_version {packetVersion : Version} {id : Nat}
    (h : clientPacketType packetVersion id = some ClientPacketType.version) :
    id = 10001 := by
  unfold clientPacketType at h
  repeat' split at h
  all_goals cases h
  assumption

theorem clientPacketType_selectServer {packetVersion : Version} {id : Nat}
    (h : clientPacketType packetVersion id =
      some ClientPacketType.selectServer) : id = 10023 := by
  unfold clientPacketType at h
  repeat' split at h
  all_goals cases h
  assumption

theorem clientPacketType_half (packetVersion : Version) {id : Nat}
    (size : Nat) (h : forall b, b ∈ clientIdBytes -> id % 256 ≠ b.toNat) :
    preProcessPacketReceived packetVersion id size = packetVersion ∧
      clientPacketType packetVersion id = none := by
  have hne : forall (n : Nat) (b : UInt8), b ∈ clientIdBytes ->
      n % 256 = b.toNat -> id ≠ n := by
    intro n b hb hn heq
    rw [heq] at h
    exact h b hb hn
  have hrsa : forall version,
      id ≠ (TS_CA_RSA_PUBLIC_KEY.getId version).toNat := by
    intro version
    change id ≠ (if atLeast EPIC_9_6_3 version then (1071 : UInt16)
      else 71).toNat
    split
    · exact hne _ 0x2F (by decide) (by decide)
    · exact hne _ 0x47 (by decide) (by decide)
  have hversion := hne 10001 0x11 (by decide) (by decide)
  have haccount := hne 10010 0x1A (by decide) (by decide)
  have himbc := hne 10012 0x1C (by decide) (by decide)
  have hlist := hne 10021 0x25 (by decide) (by decide)
  have hselect := hne 10023 0x27 (by decide) (by decide)
  constructor
  · unfold preProcessPacketReceived
    simp only [if_neg (hrsa _), haccount, himbc, false_and, if_false]
  · unfold clientPacketType
    rw [if_neg hversion, if_neg (hrsa _), if_neg haccount, if_neg himbc,
      if_neg hlist, if_neg hselect]

theorem Frame.isolatedForClient_of_complete {frame : Frame}
    (h : frame.CompleteForClient) : frame.IsolatedForClient := by
  intro strictKick history s c packetVersion buildDate chance previous
    previous' _ hlive hprevious hprevious'
  have hlarge := frame.large
  by_cases hlength : frame.bytes.length = 5
  · have hhalf : forall previous, forall b, b ∈ clientIdBytes ->
        messageId (frame.over previous) % 256 ≠ b.toNat := by
      intro previous b hb heq
      rw [frame.messageId_mod hlength previous] at heq
      exact h.id hlength (UInt8.toNat_inj.mp heq ▸ hb)
    have hnothing : forall previous,
        s.onClientPacketReceived buildDate chance c packetVersion
          (frame.over previous) = some ⟨s, packetVersion, []⟩ := by
      intro previous
      rcases clientPacketType_half packetVersion
        (messageSize (frame.over previous)) (hhalf previous) with
        ⟨hversion, htype⟩
      rw [AuthState.onClientPacketReceived]
      simp only [hversion, htype]
    rw [hnothing previous, hnothing previous']
  · have hsix : 6 ≤ frame.bytes.length := by lia
    rw [AuthState.onClientPacketReceived, AuthState.onClientPacketReceived]
    simp only [frame.messageId_over hsix previous,
      frame.messageId_over hsix previous', frame.announced_over]
    generalize preProcessPacketReceived packetVersion (messageId frame.bytes)
      frame.bytes.length = version
    cases htype : clientPacketType version (messageId frame.bytes) with
    | none => rfl
    | some type =>
        cases type with
        | version =>
            have hknown := h.version hsix (clientPacketType_version htype)
            have hseven : 7 ≤ frame.bytes.length := by
              by_cases hshort : frame.bytes.length = 6
              · rw [List.drop_eq_nil_of_le (by lia)] at hknown
                exact absurd hknown (by
                  rintro (hword | hword | hword | ⟨hnumber, -⟩)
                  · exact absurd hword (by decide)
                  · exact absurd hword (by decide)
                  · exact absurd hword (by decide)
                  · exact absurd hnumber (by decide))
              · lia
            rcases onVersion_known s buildDate c hknown with
              ⟨handled, hhandled⟩
            change s.onVersion buildDate c (frame.over previous) =
              s.onVersion buildDate c (frame.over previous')
            rw [hhandled _ _ (frame.drop_over hseven previous),
              hhandled _ _ (frame.drop_over hseven previous')]
        | selectServer =>
            have hnine := h.server hsix (clientPacketType_selectServer htype)
            simp only [AuthState.handleClientPacket]
            rw [(frame.agree_over previous previous').serverIdx hnine]
        | _ => exact frame.process_over previous previous' _ _ _ _ _

end Auth
end Rzu
