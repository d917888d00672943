import Rzu.Auth.FrameIsolation
import Rzu.Library.Terminated

/-!
# Frames that leak

For a frame that is not complete there are two buffers, and a state that the
server reaches, in which the handler does different things.
-/

namespace Rzu
namespace Auth

open Library Packet

/-!
## Stale bytes
-/

/-- A buffer of zeros but for one byte. -/
def staleByte (i : Nat) (b : UInt8) : List UInt8 :=
  (List.replicate 400 0).set i b

theorem staleByte_length (i : Nat) (b : UInt8) :
    initialBufferSize ≤ (staleByte i b).length := by
  rw [staleByte, List.length_set, List.length_replicate]
  decide

theorem getD_staleByte_self {i : Nat} (b : UInt8) (h : i < 400) :
    (staleByte i b).getD i 0 = b := by
  rw [staleByte, List.getD_eq_getElem?_getD, List.getElem?_set_self]
  · rfl
  · rw [List.length_replicate]
    exact h

theorem getD_staleByte_of_ne {i j : Nat} (b : UInt8) (h : i ≠ j) :
    (staleByte i b).getD j 0 = 0 := by
  rw [staleByte, List.getD_eq_getElem?_getD, List.getElem?_set_ne h,
    List.getElem?_replicate]
  split
  · rfl
  · rfl

namespace Frame

variable {frame : Frame} {i j : Nat}

theorem getD_over_self (b : UInt8) (hi : frame.bytes.length ≤ i)
    (hbound : i < 400) : (frame.over (staleByte i b)).getD i 0 = b := by
  rw [frame.getD_over_stale _ hi, getD_staleByte_self b hbound]

theorem getD_over_behind (b : UInt8) (hj : frame.bytes.length ≤ j)
    (hne : i ≠ j) : (frame.over (staleByte i b)).getD j 0 = 0 := by
  rw [frame.getD_over_stale _ hj, getD_staleByte_of_ne b hne]

theorem getD_over_of_ne (b b' : UInt8) (hne : i ≠ j) :
    (frame.over (staleByte i b)).getD j 0 =
      (frame.over (staleByte i b')).getD j 0 := by
  by_cases hj : j < frame.bytes.length
  · rw [frame.getD_over _ hj, frame.getD_over _ hj]
  · rw [getD_over_behind b (by lia) hne, getD_over_behind b' (by lia) hne]

theorem agree_staleByte (frame : Frame) (i : Nat) (b b' : UInt8) :
    AgreeUpTo i (frame.over (staleByte i b)) (frame.over (staleByte i b')) :=
  fun _ hj => getD_over_of_ne b b' (Nat.ne_of_gt hj)

end Frame

theorem string_length (memory : List UInt8) {offset n k i : Nat}
    (hk : k ≤ n) (hi : offset ≤ i) (hend : i < offset + k)
    (h : forall j, offset ≤ j -> j < i -> memory.getD j 0 ≠ 0)
    (hzero : memory.getD i 0 = 0) :
    (convertToString (arrayAt memory offset n).toList k).length =
      i - offset := by
  rw [convertToString_arrayAt memory offset n hk]
  apply takeWhile_range_length (by lia)
  · intro j hj
    exact h (offset + j) (Nat.le_add_right _ _) (by lia)
  · rw [Nat.add_sub_cancel' hi]
    exact hzero

theorem lt_string_length (memory : List UInt8) {offset n k i : Nat}
    (hk : k ≤ n) (hi : offset ≤ i) (hend : i < offset + k)
    (h : forall j, offset ≤ j -> j ≤ i -> memory.getD j 0 ≠ 0) :
    i - offset <
      (convertToString (arrayAt memory offset n).toList k).length := by
  rw [convertToString_arrayAt memory offset n hk]
  apply le_takeWhile_range_length (by lia)
  intro j hj
  exact h (offset + j) (Nat.le_add_right _ _) (by lia)

theorem string_length_ne {frame : Frame} {offset n k : Nat} (hk : k ≤ n)
    (hpositive : 0 < k) (hlength : frame.bytes.length < offset + k)
    (hoffset : offset + k ≤ 400) (hzero : 0 ∉ frame.bytes.drop offset) :
    (convertToString (arrayAt (frame.over
        (staleByte (max offset frame.bytes.length) 97)) offset n).toList
          k).length ≠
      (convertToString (arrayAt (frame.over
        (staleByte (max offset frame.bytes.length) 0)) offset n).toList
          k).length := by
  generalize hi : max offset frame.bytes.length = i
  have hstale : frame.bytes.length ≤ i := by lia
  have hfirst : offset ≤ i := by lia
  have hlast : i < offset + k := by lia
  have hchars : forall (b : UInt8) j, offset ≤ j -> j < i ->
      (frame.over (staleByte i b)).getD j 0 ≠ 0 := by
    intro b j hj hji hbyte
    rw [frame.getD_over _ (by lia)] at hbyte
    apply hzero
    rw [List.mem_iff_getElem]
    refine ⟨j - offset, by rw [List.length_drop]; lia, ?_⟩
    rw [List.getElem_drop, ← hbyte, List.getElem_eq_getD 0]
    congr 1
    lia
  have hlong := lt_string_length (frame.over (staleByte i 97)) hk hfirst hlast
    (by
      intro j hj hji
      by_cases hend : j = i
      · rw [hend, frame.getD_over_self 97 hstale (by lia)]
        decide
      · exact hchars 97 j hj (by lia))
  have hshort := string_length (frame.over (staleByte i 0)) hk hfirst hlast
    (hchars 0) (frame.getD_over_self 0 hstale (by lia))
  rw [hshort]
  exact Nat.ne_of_gt hlong

/-!
## States that the server reaches
-/

def namedQuery (name : CharString) : AccountQuery :=
  { acceptedQuery 0 7 with account := name }

/-- A game server logs in, and a client of some name stays in the lobby. -/
def namedLobbyEvents (name : CharString) (serverIdx : UInt16) : List Event :=
  [Event.gameConnected 1,
    Event.serverLogin 1 LoginKind.login (namelessServer serverIdx) 2,
    Event.clientConnected 3,
    Event.accountAuthResult 3 (namedQuery name) 4]

theorem connected_game :
    exists history s, AuthRun false history s ∧
      (s.gameSessions 1).isSome ∧
      forall packet kind,
        (s.onServerLogin 1 kind packet 2).map (fun handled =>
            (handled.1.gameDatas 2).map fun gameData =>
              (gameData.info, gameData.guid)) =
          some (some (packet.info,
            kind.guid.getD (Vector.replicate 16 0))) := by
  have hreplay : exists history s,
      replay (nextStep false) AuthState.initial [Event.gameConnected 1] =
        some (history, s) ∧ (s.gameSessions 1).isSome ∧
      forall packet kind,
        (s.onServerLogin 1 kind packet 2).map (fun handled =>
            (handled.1.gameDatas 2).map fun gameData =>
              (gameData.info, gameData.guid)) =
          some (some (packet.info,
            kind.guid.getD (Vector.replicate 16 0))) := by
    refine ⟨_, _, rfl, rfl, ?_⟩
    intro packet kind
    cases kind with
    | login => rfl
    | loginWithLogout => rfl
    | loginWithLogoutExt guid => rfl
  rcases hreplay with ⟨history, s, heq, hfacts⟩
  exact ⟨history, s, replay_run (nextStep_step false) Run.nil heq, hfacts⟩

theorem connected_client :
    exists history s, AuthRun false history s ∧
      (s.clientSessions 3).map ClientSession.clientData = some none := by
  have hreplay : exists history s,
      replay (nextStep false) AuthState.initial [Event.clientConnected 3] =
        some (history, s) ∧
      (s.clientSessions 3).map ClientSession.clientData = some none :=
    ⟨_, _, rfl, rfl⟩
  rcases hreplay with ⟨history, s, heq, hfacts⟩
  exact ⟨history, s, replay_run (nextStep_step false) Run.nil heq, hfacts⟩

/-- What is known of the lobby with a client. -/
structure NamedLobby (name : CharString) (serverIdx : UInt16) (s : AuthState) :
    Prop where
  reached : exists history, AuthRun false history s
  gameSession : (s.gameSessions 1).map GameServerSession.gameData =
    some (some 2)
  clientSession : (s.clientSessions 3).map ClientSession.clientData =
    some (some 4)
  names : s.connectedClientsByName = AList.insert (toLower name) 4 ∅
  servers : s.servers = AList.insert serverIdx 2 ∅
  client : (s.clientDatas 4).isSome
  removed : (s.removeClient 4).map (fun s' => s'.clientDatas 4) = some none
  loggedOut : (s.onServerLogout 1).map (fun handled =>
    (handled.1.gameSessions 1).map GameServerSession.gameData) =
      some (some none)

theorem exists_namedLobby (name : CharString) (serverIdx : UInt16) :
    exists s, NamedLobby name serverIdx s := by
  have hreplay : exists history s,
      replay (nextStep false) AuthState.initial
          (namedLobbyEvents name serverIdx) = some (history, s) ∧
        ((exists history, AuthRun false history s) ->
          NamedLobby name serverIdx s) :=
    ⟨_, _, rfl, fun hreached =>
      ⟨hreached, rfl, rfl, rfl, rfl, rfl, rfl, rfl⟩⟩
  rcases hreplay with ⟨history, s, heq, hlobby⟩
  exact ⟨s, hlobby ⟨history,
    replay_run (nextStep_step false) Run.nil heq⟩⟩

/-- What is known of the client once it has selected the server. -/
structure Selected (name : CharString) (key : UInt64) (s : AuthState) :
    Prop where
  reached : exists history, AuthRun false history s
  gameSession : exists session, s.gameSessions 1 = some session ∧
    session.gameData = some 2
  names : s.connectedClientsByName = AList.insert (toLower name) 4 ∅
  client : exists clientData, s.clientDatas 4 = some clientData ∧
    clientData.server = some 2 ∧ clientData.oneTimePassword = some key ∧
    clientData.inGame = false
  server : exists gameData, s.gameDatas 2 = some gameData ∧
    gameData.isReady = true
  entered : forall now, exists s', s.connectedToGame 4 now = some s' ∧
    (s'.clientDatas 4).isSome

theorem exists_selected (name : CharString) (key : UInt64) :
    exists s, Selected name key s := by
  have hreplay : exists history s,
      replay (nextStep false) AuthState.initial
          (namedLobbyEvents name 1 ++ [Event.selectServer 3 1 key]) =
        some (history, s) ∧
        ((exists history, AuthRun false history s) -> Selected name key s) :=
    ⟨_, _, rfl, fun hreached =>
      ⟨hreached, ⟨_, rfl, rfl⟩, rfl, ⟨_, rfl, rfl, rfl, rfl⟩,
        ⟨_, rfl, rfl⟩, fun _ => ⟨_, rfl, rfl⟩⟩⟩
  rcases hreplay with ⟨history, s, heq, hselected⟩
  exact ⟨s, hselected ⟨history,
    replay_run (nextStep_step false) Run.nil heq⟩⟩

theorem packetAccount_length (account : Vector UInt8 61) :
    (packetAccount account).length ≤ 60 := by
  have hle := (List.takeWhile_sublist (l := account.toList.take 60)
    (p := (· ≠ 0))).length_le
  rw [List.length_take] at hle
  exact Nat.le_trans hle (Nat.min_le_left _ _)

/-- The result that the login of the selected client is answered with. -/
theorem Selected.onClientLogin {name : CharString} {key : UInt64}
    {s : AuthState} (h : Selected name key s) (packet : ClientLogin)
    (hname : packetAccount packet.account = name) (now : Int64) :
    exists s' message, s.onClientLogin 1 packet now =
        some (s', [Output.clientLogin 1 message]) ∧
      message.result = if packet.oneTimeKey = key then ResultCode.success
        else ResultCode.accessDenied := by
  rcases h.gameSession with ⟨session, hsession, hgameData⟩
  rcases h.client with ⟨clientData, hclient, hserver, hkey, houtside⟩
  rcases h.server with ⟨gameData, hgame, hready⟩
  have hlookup : s.getClient (packetAccount packet.account) = some 4 := by
    rw [AuthState.getClient, h.names, hname, AList.lookup_insert]
  have hshort : ¬61 ≤ (packetAccount packet.account).length := by
    have hle := packetAccount_length packet.account
    lia
  have hcheck : s.clientLoginCheck 2 4 packet =
      some (if packet.oneTimeKey = key then ResultCode.success
        else ResultCode.accessDenied) := by
    rw [AuthState.clientLoginCheck, hclient, hgame]
    simp only [Option.bind_eq_bind, Option.bind_some, if_neg hshort, hserver,
      hready, hkey, houtside]
    by_cases hsame : packet.oneTimeKey = key
    · simp [hsame]
    · simp [hsame, Ne.symm hsame]
  rw [AuthState.onClientLogin, hsession, Option.bind_eq_bind,
    Option.bind_some]
  simp only [hgameData, hlookup]
  rw [AuthState.loginClient, hcheck, Option.bind_eq_bind, Option.bind_some]
  by_cases hsame : packet.oneTimeKey = key
  · rcases h.entered now with ⟨s', hentered, hlive⟩
    rcases Option.isSome_iff_exists.mp hlive with ⟨entered, hclient'⟩
    simp only [if_pos hsame, AuthState.enterIfSuccess, hentered, hclient',
      Option.bind_eq_bind, Option.bind_some]
    exact ⟨_, _, rfl, rfl⟩
  · simp only [if_neg hsame, AuthState.enterIfSuccess, hclient,
      Option.bind_eq_bind, Option.bind_some]
    exact ⟨_, _, rfl, rfl⟩

namespace NamedLobby

variable {name : CharString} {serverIdx : UInt16} {s : AuthState}

theorem live (h : NamedLobby name serverIdx s) :
    (s.gameSessions 1).isSome := by
  rcases Option.map_eq_some_iff.mp h.gameSession with ⟨session, heq, _⟩
  rw [heq]
  rfl

theorem clientLive (h : NamedLobby name serverIdx s) :
    (s.clientSessions 3).isSome := by
  rcases Option.map_eq_some_iff.mp h.clientSession with ⟨session, heq, _⟩
  rw [heq]
  rfl

theorem onSelectServer (h : NamedLobby name serverIdx s) (key : UInt64) :
    exists s', s.onSelectServer 3 serverIdx key =
      some (s', [Output.selectServer 3 key]) := by
  rcases Option.map_eq_some_iff.mp h.clientSession with
    ⟨session, hsession, hclientData⟩
  rcases Option.isSome_iff_exists.mp h.client with ⟨clientData, hclient⟩
  rw [AuthState.onSelectServer, hsession, h.servers, AList.lookup_insert,
    Option.bind_eq_bind, Option.bind_some]
  simp only [hclientData, AuthState.switchClientToServer, hclient,
    Option.bind_eq_bind, Option.bind_some]
  exact ⟨_, rfl⟩

theorem onSelectServer_other (h : NamedLobby name serverIdx s)
    {other : UInt16} (hother : other ≠ serverIdx) (key : UInt64) :
    s.onSelectServer 3 other key = some (s, [Output.abortSession 3]) := by
  rcases Option.map_eq_some_iff.mp h.clientSession with
    ⟨session, hsession, hclientData⟩
  rw [AuthState.onSelectServer, hsession, h.servers,
    AList.lookup_insert_ne hother, Option.bind_eq_bind, Option.bind_some]
  simp only [hclientData]
  rfl

theorem removeNamedClient (h : NamedLobby name serverIdx s)
    {account : Vector UInt8 61}
    (hname : toLower (packetAccount account) = toLower name) :
    (s.removeNamedClient 1 account).map (fun handled =>
      handled.1.clientDatas 4) = some none := by
  rcases Option.map_eq_some_iff.mp h.gameSession with
    ⟨session, hsession, hgameData⟩
  rcases Option.map_eq_some_iff.mp h.removed with ⟨s', hremoved, hgone⟩
  have hlookup : s.getClient (packetAccount account) = some 4 := by
    rw [AuthState.getClient, h.names, hname, AList.lookup_insert]
  rw [AuthState.removeNamedClient, hsession, Option.bind_eq_bind,
    Option.bind_some]
  simp only [hgameData, hlookup, hremoved, Option.map_some, hgone]

theorem removeNamedClient_other (h : NamedLobby name serverIdx s)
    {account : Vector UInt8 61}
    (hname : toLower (packetAccount account) ≠ toLower name) :
    s.removeNamedClient 1 account = some (s, []) := by
  rcases Option.map_eq_some_iff.mp h.gameSession with
    ⟨session, hsession, hgameData⟩
  have hlookup : s.getClient (packetAccount account) = none := by
    rw [AuthState.getClient, h.names, AList.lookup_insert_ne hname]
    rfl
  rw [AuthState.removeNamedClient, hsession, Option.bind_eq_bind,
    Option.bind_some]
  simp only [hgameData, hlookup]
  rfl

end NamedLobby

/-!
## Numbers that differ in one byte
-/

section

variable {memory memory' : List UInt8} {offset width i : Nat}

theorem getD_of_arrayAt
    (h : arrayAt memory offset width = arrayAt memory' offset width)
    (hi : i < width) :
    memory.getD (offset + i) 0 = memory'.getD (offset + i) 0 := by
  have hlength : forall m, i < (arrayAt m offset width).toList.length := by
    intro m
    rw [Vector.length_toList]
    exact hi
  rw [← getElem_arrayAt (hlength memory), ← getElem_arrayAt (hlength memory')]
  simp only [h]

theorem getD_of_numberAt
    (h : numberAt memory offset width = numberAt memory' offset width)
    (hi : i < width) :
    memory.getD (offset + i) 0 = memory'.getD (offset + i) 0 := by
  apply getD_of_arrayAt _ hi
  apply Vector.toList_inj.mp
  exact leNat_inj (by rw [Vector.length_toList, Vector.length_toList]) h

theorem numberAt_lt (memory : List UInt8) (offset width : Nat) :
    numberAt memory offset width < 256 ^ width := by
  have hlt := leNat_lt (arrayAt memory offset width).toList
  rw [Vector.length_toList] at hlt
  exact hlt

theorem getD_of_int32At (h : int32At memory offset = int32At memory' offset)
    (hi : i < 4) :
    memory.getD (offset + i) 0 = memory'.getD (offset + i) 0 := by
  suffices hsame : numberAt memory offset 4 = numberAt memory' offset 4 from
    getD_of_numberAt hsame hi
  have hnumber : (UInt32.ofNat (numberAt memory offset 4)).toNat =
      (UInt32.ofNat (numberAt memory' offset 4)).toNat :=
    congrArg (fun val : Int32 => val.toUInt32.toNat) h
  have hlt : numberAt memory offset 4 < 2 ^ 32 := numberAt_lt memory offset 4
  have hlt' : numberAt memory' offset 4 < 2 ^ 32 :=
    numberAt_lt memory' offset 4
  rw [UInt32.toNat_ofNat', UInt32.toNat_ofNat', Nat.mod_eq_of_lt hlt,
    Nat.mod_eq_of_lt hlt'] at hnumber
  exact hnumber

theorem getD_of_key
    (h : UInt64.ofNat (numberAt memory offset 8) =
      UInt64.ofNat (numberAt memory' offset 8)) (hi : i < 8) :
    memory.getD (offset + i) 0 = memory'.getD (offset + i) 0 := by
  suffices hsame : numberAt memory offset 8 = numberAt memory' offset 8 from
    getD_of_numberAt hsame hi
  have hnumber := UInt64.toNat_inj.mpr h
  have hlt : numberAt memory offset 8 < 2 ^ 64 := numberAt_lt memory offset 8
  have hlt' : numberAt memory' offset 8 < 2 ^ 64 :=
    numberAt_lt memory' offset 8
  rw [UInt64.toNat_ofNat', UInt64.toNat_ofNat', Nat.mod_eq_of_lt hlt,
    Nat.mod_eq_of_lt hlt'] at hnumber
  exact hnumber

end

/-!
## Game server sessions
-/

def someChance : Chance := ⟨2, [], 0, 99⟩

theorem extent_le_staleByte (frame : Frame) (type : GamePacketType) (i : Nat)
    (b : UInt8) : type.extent ≤ (frame.over (staleByte i b)).length := by
  have hlength : (staleByte i b).length = 400 := by
    rw [staleByte, List.length_set, List.length_replicate]
  rw [frame.length_over, hlength]
  refine Nat.le_trans ?_ (Nat.le_max_right _ _)
  cases type <;> decide

namespace Frame.IsolatedForGame

variable {frame : Frame} {type : GamePacketType} {s : AuthState}

theorem staleByte (h : frame.IsolatedForGame)
    (hlength : 6 ≤ frame.bytes.length)
    (htype : gamePacketType (messageId frame.bytes) = some type)
    (hreached : exists history, AuthRun false history s)
    (hlive : (s.gameSessions 1).isSome) (i : Nat) (b b' : UInt8) :
    s.handleGamePacket someChance 1 true (frame.over (staleByte i b)) type =
      s.handleGamePacket someChance 1 true (frame.over (staleByte i b'))
        type := by
  rcases hreached with ⟨history, hrun⟩
  have hsame := h false history s 1 true someChance (Auth.staleByte i b)
    (Auth.staleByte i b') hrun hlive (staleByte_length i b)
    (staleByte_length i b')
  rw [AuthState.onGamePacketReceived, AuthState.onGamePacketReceived,
    frame.messageId_over hlength, frame.messageId_over hlength, htype] at hsame
  simp only [if_pos (extent_le_staleByte frame type i _)] at hsame
  exact hsame

theorem serverLogin (h : frame.IsolatedForGame) (kind : List UInt8 -> LoginKind)
    (hlength : 6 ≤ frame.bytes.length)
    (htype : gamePacketType (messageId frame.bytes) = some type)
    (hkind : forall (s : AuthState) memory,
      s.handleGamePacket someChance 1 true memory type =
        (s.onServerLogin 1 (kind memory) (serverLoginAt memory) 2).map
          (Handled.ofOutputs true)) (i : Nat) (b b' : UInt8) :
    (serverLoginAt (frame.over (Auth.staleByte i b))).info =
        (serverLoginAt (frame.over (Auth.staleByte i b'))).info ∧
      (kind (frame.over (Auth.staleByte i b))).guid.getD
          (Vector.replicate 16 0) =
        (kind (frame.over (Auth.staleByte i b'))).guid.getD
          (Vector.replicate 16 0) := by
  rcases connected_game with ⟨history, s, hrun, hlive, hstored⟩
  have hsame := h.staleByte hlength htype ⟨history, hrun⟩ hlive i b b'
  rw [hkind, hkind] at hsame
  have hdata := congrArg (Option.map fun handled : Handled Bool =>
    (handled.state.gameDatas 2).map fun gameData =>
      (gameData.info, gameData.guid)) hsame
  rw [Option.map_map, Option.map_map] at hdata
  have hpair := (hstored _ _).symm.trans (hdata.trans (hstored _ _))
  exact Prod.ext_iff.mp (Option.some_inj.mp (Option.some_inj.mp hpair))

theorem loginLength (h : frame.IsolatedForGame) (kind : List UInt8 -> LoginKind)
    (hlength : 6 ≤ frame.bytes.length)
    (htype : gamePacketType (messageId frame.bytes) = some type)
    (hkind : forall (s : AuthState) memory,
      s.handleGamePacket someChance 1 true memory type =
        (s.onServerLogin 1 (kind memory) (serverLoginAt memory) 2).map
          (Handled.ofOutputs true)) : 307 ≤ frame.bytes.length := by
  by_cases hshort : frame.bytes.length ≤ 306
  · have hinfo := (h.serverLogin kind hlength htype hkind 306 0 1).left
    have hport := getD_of_int32At (i := 3) (congrArg ServerInfo.serverPort hinfo)
      (by decide)
    rw [frame.getD_over_self 0 hshort (by decide),
      frame.getD_over_self 1 hshort (by decide)] at hport
    exact absurd hport (by decide)
  · lia

theorem loginExtLength (h : frame.IsolatedForGame)
    (hlength : 6 ≤ frame.bytes.length)
    (htype : gamePacketType (messageId frame.bytes) =
      some GamePacketType.loginWithLogoutExt) : 323 ≤ frame.bytes.length := by
  by_cases hshort : frame.bytes.length ≤ 322
  · have hguid := (h.serverLogin
      (fun memory => LoginKind.loginWithLogoutExt (arrayAt memory 307 16))
      hlength htype (fun _ _ => rfl) 322 0 1).right
    have hbyte := getD_of_arrayAt (i := 15) hguid (by decide)
    rw [frame.getD_over_self 0 hshort (by decide),
      frame.getD_over_self 1 hshort (by decide)] at hbyte
    exact absurd hbyte (by decide)
  · lia

theorem clientLoginLength (h : frame.IsolatedForGame)
    (hlength : 6 ≤ frame.bytes.length)
    (htype : gamePacketType (messageId frame.bytes) =
      some GamePacketType.clientLogin) : 76 ≤ frame.bytes.length := by
  by_cases hshort : frame.bytes.length ≤ 75
  · let packet := fun b => clientLoginAt (frame.over (Auth.staleByte 75 b))
    have hname : packetAccount (packet 1).account =
        packetAccount (packet 0).account :=
      (frame.agree_staleByte 75 1 0).packetAccount (Or.inl (by decide))
    have hkey : (packet 1).oneTimeKey ≠ (packet 0).oneTimeKey := by
      intro hsame
      have hbyte := getD_of_key (i := 7) hsame (by decide)
      rw [frame.getD_over_self 1 hshort (by decide),
        frame.getD_over_self 0 hshort (by decide)] at hbyte
      exact absurd hbyte (by decide)
    rcases exists_selected (packetAccount (packet 0).account)
      (packet 0).oneTimeKey with ⟨s, hselected⟩
    have hlive : (s.gameSessions 1).isSome := by
      rcases hselected.gameSession with ⟨session, hsession, _⟩
      rw [hsession]
      rfl
    have hsame := h.staleByte hlength htype hselected.reached hlive 75 0 1
    rw [AuthState.handleGamePacket, AuthState.handleGamePacket] at hsame
    rcases hselected.onClientLogin (packet 0) rfl 0 with
      ⟨s0, message0, hlogin0, hresult0⟩
    rcases hselected.onClientLogin (packet 1) hname 0 with
      ⟨s1, message1, hlogin1, hresult1⟩
    rw [if_pos rfl] at hresult0
    rw [if_neg hkey] at hresult1
    have hreplies : some (Handled.ofOutputs true
          (s0, [Output.clientLogin 1 message0])) =
        some (Handled.ofOutputs true
          (s1, [Output.clientLogin 1 message1])) := by
      have hleft := congrArg (Option.map (Handled.ofOutputs true)) hlogin0
      have hright := congrArg (Option.map (Handled.ofOutputs true)) hlogin1
      exact hleft.symm.trans (hsame.trans hright)
    have hmessage := congrArg Handled.replies (Option.some_inj.mp hreplies)
    cases hmessage
    rw [hresult0] at hresult1
    cases hresult1
  · lia

theorem nameEnds (h : frame.IsolatedForGame)
    (hlength : 6 ≤ frame.bytes.length)
    (htype : gamePacketType (messageId frame.bytes) = some type)
    (hnotice : forall (s : AuthState) memory,
      s.handleGamePacket someChance 1 true memory type =
        (s.removeNamedClient 1 (arrayAt memory 7 61)).map
          (Handled.ofOutputs true)) :
    67 ≤ frame.bytes.length ∨ 0 ∈ frame.bytes.drop 7 := by
  by_cases hshort : frame.bytes.length ≤ 66
  · by_cases hzero : 0 ∈ frame.bytes.drop 7
    · exact Or.inr hzero
    let account := fun b => arrayAt (frame.over
      (Auth.staleByte (max 7 frame.bytes.length) b)) 7 61
    have hlengths : (packetAccount (account 97)).length ≠
        (packetAccount (account 0)).length :=
      string_length_ne (by decide) (by decide) (by lia) (by decide) hzero
    rcases exists_namedLobby (packetAccount (account 0)) 1 with ⟨s, hlobby⟩
    have hsame := h.staleByte hlength htype hlobby.reached hlobby.live
      (max 7 frame.bytes.length) 0 97
    rw [hnotice, hnotice] at hsame
    have hother : toLower (packetAccount (account 97)) ≠
        toLower (packetAccount (account 0)) := by
      intro heq
      apply hlengths
      have hmap := congrArg List.length heq
      rw [toLower, toLower, List.length_map, List.length_map] at hmap
      exact hmap
    have hgone := congrArg (Option.map fun handled : Handled Bool =>
      handled.state.clientDatas 4) hsame
    rw [Option.map_map, Option.map_map,
      hlobby.removeNamedClient_other hother] at hgone
    have hremoved : toLower (packetAccount (account 0)) =
        toLower (packetAccount (account 0)) := rfl
    have hnone : some none = some (s.clientDatas 4) :=
      (hlobby.removeNamedClient hremoved).symm.trans hgone
    have hclient := hlobby.client
    rw [← Option.some_inj.mp hnone] at hclient
    cases hclient
  · exact Or.inl (by lia)

theorem securityNoEnds (h : frame.IsolatedForGame)
    (hlength : 6 ≤ frame.bytes.length)
    (htype : gamePacketType (messageId frame.bytes) =
      some GamePacketType.securityNoCheck) :
    86 ≤ frame.bytes.length ∨ 0 ∈ frame.bytes.drop 68 := by
  by_cases hshort : frame.bytes.length ≤ 85
  · by_cases hzero : 0 ∈ frame.bytes.drop 68
    · exact Or.inr hzero
    rcases connected_game with ⟨history, s, hrun, hlive, _⟩
    have hsame := h.staleByte hlength htype ⟨history, hrun⟩ hlive
      (max 68 frame.bytes.length) 97 0
    have hsize : forall previous : List UInt8, ¬securityNoCheckSize ≤
        messageSize (frame.over previous) := by
      intro previous
      rw [frame.announced_over, securityNoCheckSize]
      lia
    rw [AuthState.handleGamePacket, AuthState.handleGamePacket,
      AuthState.onSecurityNoCheck, AuthState.onSecurityNoCheck,
      if_neg (hsize _), if_neg (hsize _)] at hsame
    have hreply := congrArg Handled.replies (Option.some_inj.mp hsame)
    injection (List.cons.inj hreply).left with _ _ hsecurity _
    exact absurd (congrArg List.length hsecurity)
      (string_length_ne (by decide) (by decide) (by lia) (by decide) hzero)
  · exact Or.inl (by lia)

theorem covered (h : frame.IsolatedForGame) (hlength : 6 ≤ frame.bytes.length)
    (htype : gamePacketType (messageId frame.bytes) = some type) :
    type.CoveredBy frame.bytes := by
  cases type with
  | loginWithLogout =>
      exact h.loginLength (fun _ => LoginKind.loginWithLogout) hlength htype
        (fun _ _ => rfl)
  | loginWithLogoutExt => exact h.loginExtLength hlength htype
  | login =>
      exact h.loginLength (fun _ => LoginKind.login) hlength htype
        (fun _ _ => rfl)
  | accountList => trivial
  | logout => trivial
  | clientLogin => exact h.clientLoginLength hlength htype
  | clientLogout => exact h.nameEnds hlength htype (fun _ _ => rfl)
  | clientKickFailed => exact h.nameEnds hlength htype (fun _ _ => rfl)
  | securityNoCheck => exact h.securityNoEnds hlength htype

end Frame.IsolatedForGame

namespace NamedLobby

variable {name : CharString} {serverIdx : UInt16} {s : AuthState}

theorem onServerLogin (h : NamedLobby name serverIdx s) (kind : LoginKind)
    (packet : ServerLogin) (newGameData : Addr) :
    exists s', s.onServerLogin 1 kind packet newGameData =
      some (s', [Output.loginResult 1 ResultCode.invalidArgument]) := by
  rcases Option.map_eq_some_iff.mp h.gameSession with
    ⟨session, hsession, hgameData⟩
  rw [AuthState.onServerLogin, hsession, Option.bind_eq_bind,
    Option.bind_some]
  simp only [hgameData]
  exact ⟨_, rfl⟩

end NamedLobby

theorem Handled.replies_of_some {own : Type} {session session' : own}
    {handled : AuthState × List Output} {s : AuthState}
    (h : (some handled).map (Handled.ofOutputs session) =
      some ⟨s, session', []⟩) : handled.2 = [] :=
  List.map_eq_nil_iff.mp
    (congrArg Handled.replies (Option.some_inj.mp h))

/-- Every packet but a list of accounts does something somewhere. -/
theorem game_acts {type : GamePacketType} {memory : List UInt8}
    (htype : type ≠ GamePacketType.accountList)
    (hname : packetAccount (arrayAt memory 7 61) = []) :
    exists s, (exists history, AuthRun false history s) ∧
      (s.gameSessions 1).isSome ∧
      s.handleGamePacket someChance 1 true memory type ≠
        some ⟨s, true, []⟩ := by
  rcases exists_namedLobby [] 1 with ⟨s, hlobby⟩
  have hlogin : forall kind, (s.onServerLogin 1 kind (serverLoginAt memory)
      2).map (Handled.ofOutputs true) ≠ some ⟨s, true, []⟩ := by
    intro kind heq
    rcases hlobby.onServerLogin kind (serverLoginAt memory) 2 with
      ⟨s', hrefused⟩
    rw [hrefused] at heq
    cases Handled.replies_of_some heq
  have hnotice : (s.removeNamedClient 1 (arrayAt memory 7 61)).map
      (Handled.ofOutputs true) ≠ some ⟨s, true, []⟩ := by
    intro heq
    have hgone := congrArg (Option.map fun handled : Handled Bool =>
      handled.state.clientDatas 4) heq
    rw [Option.map_map] at hgone
    have hsame : toLower (packetAccount (arrayAt memory 7 61)) =
        toLower [] := by
      rw [hname]
    have hnone : some none = some (s.clientDatas 4) :=
      (hlobby.removeNamedClient hsame).symm.trans hgone
    have hclient := hlobby.client
    rw [← Option.some_inj.mp hnone] at hclient
    cases hclient
  cases type with
  | loginWithLogout => exact ⟨s, hlobby.reached, hlobby.live, hlogin _⟩
  | loginWithLogoutExt => exact ⟨s, hlobby.reached, hlobby.live, hlogin _⟩
  | login => exact ⟨s, hlobby.reached, hlobby.live, hlogin _⟩
  | accountList => exact absurd rfl htype
  | logout =>
      refine ⟨s, hlobby.reached, hlobby.live, ?_⟩
      intro heq
      have hleft := congrArg (Option.map fun handled : Handled Bool =>
        (handled.state.gameSessions 1).map GameServerSession.gameData) heq
      rw [AuthState.handleGamePacket, Option.map_map] at hleft
      have hnone : some (some none) = some
          ((s.gameSessions 1).map GameServerSession.gameData) :=
        hlobby.loggedOut.symm.trans hleft
      rw [hlobby.gameSession] at hnone
      cases hnone
  | clientLogin =>
      rcases exists_selected [] 0 with ⟨s, hselected⟩
      refine ⟨s, hselected.reached, ?_, ?_⟩
      · rcases hselected.gameSession with ⟨session, hsession, _⟩
        rw [hsession]
        rfl
      · intro heq
        rcases hselected.onClientLogin (clientLoginAt memory) hname 0 with
          ⟨s', message, hlogin, _⟩
        change (s.onClientLogin 1 (clientLoginAt memory) 0).map
          (Handled.ofOutputs true) = _ at heq
        rw [hlogin] at heq
        cases Handled.replies_of_some heq
  | clientLogout => exact ⟨s, hlobby.reached, hlobby.live, hnotice⟩
  | clientKickFailed => exact ⟨s, hlobby.reached, hlobby.live, hnotice⟩
  | securityNoCheck =>
      refine ⟨s, hlobby.reached, hlobby.live, ?_⟩
      intro heq
      rw [AuthState.handleGamePacket, AuthState.onSecurityNoCheck] at heq
      split at heq
      · cases congrArg Handled.replies (Option.some_inj.mp heq)
      · cases congrArg Handled.replies (Option.some_inj.mp heq)

namespace Frame

variable {frame : Frame}

theorem messageId_half (hlength : frame.bytes.length = 5) (b : UInt8) :
    messageId (frame.over (staleByte 5 b)) =
      (frame.bytes.getD 4 0).toNat + 256 * b.toNat := by
  have hid : messageId (frame.over (staleByte 5 b)) =
      ((frame.over (staleByte 5 b)).getD 4 0).toNat +
        256 * (((frame.over (staleByte 5 b)).getD 5 0).toNat + 256 * 0) := rfl
  rw [hid, frame.getD_over _ (by lia),
    frame.getD_over_self b (by lia) (by decide)]
  lia

theorem IsolatedForGame.id (h : frame.IsolatedForGame)
    (hlength : frame.bytes.length = 5) :
    frame.bytes.getD 4 0 ∉ gameIdBytes := by
  intro hbyte
  have hhidden : forall b, b ∈ gameIdBytes -> exists type hi,
      type ≠ GamePacketType.accountList ∧
        type.packetID = b.toNat + 256 * UInt8.toNat hi := by
    intro b hb
    rw [gameIdBytes] at hb
    simp only [List.mem_cons, List.not_mem_nil, or_false] at hb
    rcases hb with rfl | rfl | rfl | rfl | rfl | rfl | rfl | rfl
    · exact ⟨GamePacketType.loginWithLogout, 0xEA, by decide, by decide⟩
    · exact ⟨GamePacketType.loginWithLogoutExt, 0xEA, by decide, by decide⟩
    · exact ⟨GamePacketType.login, 0x4E, by decide, by decide⟩
    · exact ⟨GamePacketType.logout, 0xEA, by decide, by decide⟩
    · exact ⟨GamePacketType.clientLogin, 0x4E, by decide, by decide⟩
    · exact ⟨GamePacketType.clientLogout, 0x4E, by decide, by decide⟩
    · exact ⟨GamePacketType.clientKickFailed, 0x4E, by decide, by decide⟩
    · exact ⟨GamePacketType.securityNoCheck, 0x9C, by decide, by decide⟩
  rcases hhidden _ hbyte with ⟨type, hi, htype, hpacketID⟩
  have hname : packetAccount
      (arrayAt (frame.over (Auth.staleByte 5 hi)) 7 61) = [] := by
    have hnil : (packetAccount
        (arrayAt (frame.over (Auth.staleByte 5 hi)) 7 61)).length = 7 - 7 :=
      string_length _ (by decide) (Nat.le_refl 7) (by decide)
        (fun j hj hji => absurd hji (Nat.not_lt_of_le hj))
        (frame.getD_over_behind hi (by lia) (by decide))
    exact List.length_eq_zero_iff.mp hnil
  rcases game_acts htype hname with ⟨s, ⟨history, hrun⟩, hlive, hacts⟩
  have hsame := h false history s 1 true someChance (Auth.staleByte 5 hi)
    (Auth.staleByte 5 0xFF) hrun hlive (staleByte_length _ _)
    (staleByte_length _ _)
  have hid : gamePacketType (messageId (frame.over (Auth.staleByte 5 hi))) =
      some type := by
    rw [frame.messageId_half hlength, ← hpacketID, gamePacketType_packetID]
  have hother : gamePacketType (messageId
      (frame.over (Auth.staleByte 5 0xFF))) = none := by
    rw [frame.messageId_half hlength]
    cases hcase : gamePacketType ((frame.bytes.getD 4 0).toNat +
        256 * UInt8.toNat 0xFF) with
    | none => rfl
    | some other =>
        have hbound : other.packetID ≤ 60004 := by cases other <;> decide
        have heq := packetID_of_gamePacketType hcase
        rw [show UInt8.toNat 0xFF = 255 from rfl] at heq
        lia
  rw [AuthState.onGamePacketReceived, AuthState.onGamePacketReceived, hid,
    hother] at hsame
  simp only [if_pos (extent_le_staleByte frame type 5 hi)] at hsame
  exact hacts hsame

theorem IsolatedForGame.complete (h : frame.IsolatedForGame) :
    frame.CompleteForGame where
  id := h.id
  covered hlength _ htype := h.covered hlength htype

end Frame

/-!
## Client sessions
-/

theorem clientPacketType_rsa {packetVersion : Version} {id : Nat}
    (h : 2000 ≤ id) :
    id ≠ (TS_CA_RSA_PUBLIC_KEY.getId packetVersion).toNat := by
  change id ≠ (if atLeast EPIC_9_6_3 packetVersion then (1071 : UInt16)
    else 71).toNat
  split
  · intro heq
    exact absurd h (heq ▸ by decide)
  · intro heq
    exact absurd h (heq ▸ by decide)

theorem clientPacketType_large {packetVersion : Version} {id : Nat}
    (h : 20000 ≤ id) : clientPacketType packetVersion id = none := by
  unfold clientPacketType
  rw [if_neg (by lia), if_neg (clientPacketType_rsa (by lia)),
    if_neg (by lia), if_neg (by lia), if_neg (by lia), if_neg (by lia)]

theorem process_acts (s : AuthState) (c : Addr) (packetVersion : Version)
    (memory : List UInt8) (type : ClientPacketType) (packet : PacketType)
    (version : Version) :
    s.process c packetVersion memory type packet ≠ some ⟨s, version, []⟩ := by
  intro heq
  rcases Option.bind_eq_some_iff.mp heq with ⟨result, _, hreply⟩
  split at hreply
  · cases congrArg Handled.replies (Option.some_inj.mp hreply)
  · cases congrArg Handled.replies (Option.some_inj.mp hreply)

theorem client_acts {s : AuthState} {packetVersion version : Version}
    {memory : List UInt8} (type : ClientPacketType)
    (hsession : (s.clientSessions 3).map ClientSession.clientData = some none)
    (htext : textTEST <+: memory.drop 7) :
    s.handleClientPacket 0 someChance 3 packetVersion memory type ≠
      some ⟨s, version, []⟩ := by
  cases type with
  | version =>
      intro heq
      rw [AuthState.handleClientPacket, AuthState.onVersion] at heq
      simp only [List.isPrefixOf_iff_prefix.mpr htext, if_true] at heq
      cases congrArg Handled.replies (Option.some_inj.mp heq)
  | selectServer =>
      intro heq
      rcases Option.map_eq_some_iff.mp hsession with
        ⟨session, hclient, hnone⟩
      rw [AuthState.handleClientPacket, AuthState.onSelectServer, hclient,
        Option.bind_eq_bind, Option.bind_some] at heq
      simp only [hnone] at heq
      cases Handled.replies_of_some heq
  | rsaPublicKey => exact process_acts _ _ _ _ _ _ _
  | account => exact process_acts _ _ _ _ _ _ _
  | imbcAccount => exact process_acts _ _ _ _ _ _ _
  | serverList => exact process_acts _ _ _ _ _ _ _

/-- A buffer that completes half an identifier, with a word behind it. -/
def staleTest (hi : UInt8) : List UInt8 :=
  [0, 0, 0, 0, 0, hi, 0] ++ textTEST ++ List.replicate 400 0

theorem staleTest_length (hi : UInt8) :
    initialBufferSize ≤ (staleTest hi).length := by
  rw [staleTest, List.length_append, List.length_replicate]
  exact Nat.le_trans (by decide) (Nat.le_add_left _ _)

theorem Frame.IsolatedForClient.id {frame : Frame}
    (h : frame.IsolatedForClient) (hlength : frame.bytes.length = 5) :
    frame.bytes.getD 4 0 ∉ clientIdBytes := by
  intro hbyte
  have hhidden : forall b, b ∈ clientIdBytes ->
      exists hi version type,
        preProcessPacketReceived EPIC_2 (b.toNat + 256 * UInt8.toNat hi) 5 =
            version ∧
          clientPacketType version (b.toNat + 256 * UInt8.toNat hi) =
            some type := by
    intro b hb
    rw [clientIdBytes] at hb
    simp only [List.mem_cons, List.not_mem_nil, or_false] at hb
    rcases hb with rfl | rfl | rfl | rfl | rfl | rfl | rfl
    · exact ⟨0, _, ClientPacketType.rsaPublicKey, rfl, by decide⟩
    · exact ⟨4, _, ClientPacketType.rsaPublicKey, rfl, by decide⟩
    · exact ⟨0x27, _, ClientPacketType.version, rfl, by decide⟩
    · exact ⟨0x27, _, ClientPacketType.account, rfl, by decide⟩
    · exact ⟨0x27, _, ClientPacketType.imbcAccount, rfl, by decide⟩
    · exact ⟨0x27, _, ClientPacketType.serverList, rfl, by decide⟩
    · exact ⟨0x27, _, ClientPacketType.selectServer, rfl, by decide⟩
  rcases hhidden _ hbyte with ⟨hi, version, type, hversion, htype⟩
  have hid : messageId (frame.over (staleTest hi)) =
      (frame.bytes.getD 4 0).toNat + 256 * hi.toNat := by
    have hsum : messageId (frame.over (staleTest hi)) =
        ((frame.over (staleTest hi)).getD 4 0).toNat +
          256 * (((frame.over (staleTest hi)).getD 5 0).toNat + 256 * 0) := rfl
    rw [hsum, frame.getD_over _ (by lia), frame.getD_over_stale _ (by lia)]
    rfl
  have hlarge : 20000 ≤ messageId (frame.over (Auth.staleByte 5 0xFF)) := by
    rw [frame.messageId_half hlength, show UInt8.toNat 0xFF = 255 from rfl]
    lia
  have htext : textTEST <+: (frame.over (staleTest hi)).drop 7 := by
    rw [Frame.over, List.drop_append, hlength, List.drop_eq_nil_of_le
      (by lia), List.nil_append, List.drop_drop]
    exact ⟨List.replicate 400 0, rfl⟩
  rcases connected_client with ⟨history, s, hrun, hsession⟩
  have hlive : (s.clientSessions 3).isSome := by
    rcases Option.map_eq_some_iff.mp hsession with ⟨session, heq, _⟩
    rw [heq]
    rfl
  have hsame := h false history s 3 EPIC_2 0 someChance (staleTest hi)
    (Auth.staleByte 5 0xFF) hrun hlive (staleTest_length hi)
    (staleByte_length _ _)
  rw [AuthState.onClientPacketReceived, AuthState.onClientPacketReceived]
    at hsame
  simp only [hid, frame.announced_over, hlength, hversion, htype,
    clientPacketType_large hlarge] at hsame
  exact client_acts type hsession htext hsame

theorem not_prefix_of_stale {word text more : List UInt8} {b : UInt8}
    (hbyte : b ∉ word) (h : ¬word <+: text) : ¬word <+: text ++ b :: more := by
  intro hword
  rcases List.prefix_or_prefix_of_prefix hword
    (List.prefix_append text (b :: more)) with hpre | hpre
  · exact h hpre
  · rcases hpre with ⟨rest, hrest⟩
    rw [← hrest] at hword
    rcases List.prefix_append_right_inj text |>.mp hword with ⟨tail, htail⟩
    cases rest with
    | nil =>
        rw [List.append_nil] at hrest
        rw [hrest] at h
        exact h (List.prefix_refl _)
    | cons letter rest =>
        have hletter : letter = b := (List.cons.inj htail).left
        apply hbyte
        rw [← hrest, hletter]
        exact List.mem_append_right _ List.mem_cons_self

theorem mem_signOf {chars : List UInt8} (h : 0 ∈ chars) :
    0 ∈ (signOf chars).2 := by
  unfold signOf
  split
  · rcases List.mem_cons.mp h with h | h
    · cases h
    · exact h
  · rcases List.mem_cons.mp h with h | h
    · cases h
    · exact h
  · exact h

theorem strtol_isSome_of_zero {chars : List UInt8} (h : 0 ∈ chars) :
    (strtol chars).isSome := by
  have hspace : 0 ∈ chars.dropWhile isSpace := by
    rw [← List.takeWhile_append_dropWhile (p := isSpace) (l := chars)] at h
    rcases List.mem_append.mp h with h | h
    · exact absurd (List.mem_takeWhile_imp h) (by decide)
    · exact h
  have hsign := mem_signOf hspace
  unfold strtol
  by_cases hlength :
    ((signOf (chars.dropWhile isSpace)).2.takeWhile isDigit).length <
      (signOf (chars.dropWhile isSpace)).2.length
  · simp only [if_pos hlength, Option.isSome_some]
  · have hall : (signOf (chars.dropWhile isSpace)).2.takeWhile isDigit =
        (signOf (chars.dropWhile isSpace)).2 :=
      (List.takeWhile_prefix isDigit).eq_of_length_le (Nat.le_of_not_lt hlength)
    rw [← hall] at hsign
    exact absurd (List.mem_takeWhile_imp hsign) (by decide)

theorem strtol_cut {chars : List UInt8} (h : strtol chars = none) (n : Nat) :
    strtol (chars ++ List.replicate n 49) = none := by
  have hones : (List.replicate n (49 : UInt8)).takeWhile isDigit =
      List.replicate n 49 := by
    rw [List.takeWhile_replicate]
    rfl
  by_cases hnil : chars.dropWhile isSpace = []
  · have hspace : (chars ++ List.replicate n 49).dropWhile isSpace =
        List.replicate n 49 := by
      rw [List.dropWhile_append, hnil, List.isEmpty_nil, if_pos rfl,
        List.dropWhile_replicate]
      rfl
    have hsign : signOf (List.replicate n 49) =
        (1, List.replicate n 49) := by
      cases n with
      | zero => rfl
      | succ n => rfl
    unfold strtol
    rw [hspace, hsign]
    simp only [hones, Nat.lt_irrefl, if_false]
  · have hspace : (chars ++ List.replicate n 49).dropWhile isSpace =
        chars.dropWhile isSpace ++ List.replicate n 49 := by
      rw [List.dropWhile_append, if_neg]
      rw [List.isEmpty_iff]
      exact hnil
    have hall : (signOf (chars.dropWhile isSpace)).2.takeWhile isDigit =
        (signOf (chars.dropWhile isSpace)).2 := by
      unfold strtol at h
      refine (List.takeWhile_prefix isDigit).eq_of_length_le ?_
      by_cases hlength :
        ((signOf (chars.dropWhile isSpace)).2.takeWhile isDigit).length <
          (signOf (chars.dropWhile isSpace)).2.length
      · simp only [if_pos hlength] at h
        cases h
      · exact Nat.le_of_not_lt hlength
    have hdigits : ((signOf (chars.dropWhile isSpace)).2 ++
        List.replicate n 49).takeWhile isDigit =
        (signOf (chars.dropWhile isSpace)).2 ++ List.replicate n 49 := by
      rw [List.takeWhile_append, hall, if_pos rfl, hones]
    unfold strtol
    rw [hspace, signOf_append hnil]
    simp only [hdigits, Nat.lt_irrefl, if_false]

theorem isPrefixOf_eq_false {word text : List UInt8} (h : ¬word <+: text) :
    word.isPrefixOf text = false := by
  rw [Bool.eq_false_iff]
  exact fun hword => h (List.isPrefixOf_iff_prefix.mp hword)

theorem onVersion_quiet {s : AuthState} {c : Addr} {memory : List UInt8}
    {handled : Handled Version} (htest : ¬textTEST <+: memory.drop 7)
    (hinfo : ¬textINFO <+: memory.drop 7)
    (h : s.onVersion 0 c memory = some handled) : handled.replies = [] := by
  rw [AuthState.onVersion] at h
  simp only [isPrefixOf_eq_false htest, isPrefixOf_eq_false hinfo,
    Bool.false_eq_true, if_false] at h
  split at h
  · cases h
    rfl
  · rcases Option.bind_eq_some_iff.mp h with ⟨number, _, heq⟩
    cases heq
    rfl

/-- A buffer that holds certain bytes behind the text of a frame. -/
def Frame.staleText (frame : Frame) (more : List UInt8) : List UInt8 :=
  List.replicate (max 7 frame.bytes.length) 0 ++ more

theorem Frame.text_over {frame : Frame} (hlength : 6 ≤ frame.bytes.length)
    (more : List UInt8) :
    (frame.over (frame.staleText more)).drop 7 =
      frame.bytes.drop 7 ++ more := by
  rw [Frame.over, staleText, List.drop_append, List.drop_append, List.drop_replicate,
    List.length_replicate]
  by_cases hshort : frame.bytes.length = 6
  · rw [hshort]
    rfl
  · rw [Nat.max_eq_right (by lia), Nat.sub_self, Nat.sub_eq_zero_of_le
      (by lia)]
    rfl

theorem onVersion_answers {s : AuthState} {c : Addr} {memory : List UInt8}
    (h : textTEST <+: memory.drop 7 ∨ textINFO <+: memory.drop 7) :
    exists handled, s.onVersion 0 c memory = some handled ∧
      handled.replies ≠ [] := by
  rw [AuthState.onVersion]
  by_cases htest : textTEST <+: memory.drop 7
  · simp only [List.isPrefixOf_iff_prefix.mpr htest, if_true]
    exact ⟨_, rfl, List.cons_ne_nil _ _⟩
  · have hinfo := h.resolve_left htest
    simp only [isPrefixOf_eq_false htest,
      List.isPrefixOf_iff_prefix.mpr hinfo, Bool.false_eq_true, if_false,
      if_true]
    exact ⟨_, rfl, List.cons_ne_nil _ _⟩

theorem onVersion_cut {s : AuthState} {c : Addr} {memory : List UInt8}
    (htest : ¬textTEST <+: memory.drop 7)
    (hinfo : ¬textINFO <+: memory.drop 7)
    (hnumber : ¬text200609280 <+: memory.drop 7)
    (hcreer : ¬textCreer <+: memory.drop 7)
    (h : strtol (memory.drop 7) = none) : s.onVersion 0 c memory = none := by
  rw [AuthState.onVersion]
  simp only [isPrefixOf_eq_false htest, isPrefixOf_eq_false hinfo,
    isPrefixOf_eq_false hnumber, isPrefixOf_eq_false hcreer, h,
    Bool.false_eq_true, if_false, Bool.or_self, Option.bind_eq_bind,
    Option.bind_none]

theorem onVersion_isSome {s : AuthState} {c : Addr} {memory : List UInt8}
    (h : 0 ∈ memory.drop 7) : (s.onVersion 0 c memory).isSome := by
  rcases Option.isSome_iff_exists.mp (strtol_isSome_of_zero h) with
    ⟨number, hnumber⟩
  rw [AuthState.onVersion]
  simp only [hnumber, Option.bind_eq_bind, Option.bind_some]
  repeat' split
  all_goals rfl

namespace Frame.IsolatedForClient

variable {frame : Frame}

theorem handled (h : frame.IsolatedForClient)
    (hlength : 6 ≤ frame.bytes.length) {type : ClientPacketType}
    (htype : forall version,
      clientPacketType version (messageId frame.bytes) = some type)
    {s : AuthState} (hreached : exists history, AuthRun false history s)
    (hlive : (s.clientSessions 3).isSome) {previous previous' : List UInt8}
    (hprevious : initialBufferSize ≤ previous.length)
    (hprevious' : initialBufferSize ≤ previous'.length) :
    exists version,
      s.handleClientPacket 0 someChance 3 version (frame.over previous) type =
        s.handleClientPacket 0 someChance 3 version (frame.over previous')
          type := by
  rcases hreached with ⟨history, hrun⟩
  have hsame := h false history s 3 EPIC_2 0 someChance previous previous' hrun
    hlive hprevious hprevious'
  rw [AuthState.onClientPacketReceived, AuthState.onClientPacketReceived]
    at hsame
  simp only [frame.messageId_over hlength, frame.announced_over, htype]
    at hsame
  exact ⟨_, hsame⟩

theorem sameVersion (h : frame.IsolatedForClient)
    (hlength : 6 ≤ frame.bytes.length)
    (hid : messageId frame.bytes = 10001) :
    exists s : AuthState, forall more more', 400 ≤ more.length ->
      400 ≤ more'.length ->
        s.onVersion 0 3 (frame.over (frame.staleText more)) =
          s.onVersion 0 3 (frame.over (frame.staleText more')) := by
  rcases connected_client with ⟨history, s, hrun, hsession⟩
  have hlive : (s.clientSessions 3).isSome := by
    rcases Option.map_eq_some_iff.mp hsession with ⟨session, heq, _⟩
    rw [heq]
    rfl
  have hroom : forall more, 400 ≤ more.length ->
      initialBufferSize ≤ (frame.staleText more).length := by
    intro more hmore
    rw [staleText, List.length_append, initialBufferSize]
    lia
  have htype : forall version, clientPacketType version
      (messageId frame.bytes) = some ClientPacketType.version :=
    fun _ => if_pos hid
  refine ⟨s, fun more more' hmore hmore' => ?_⟩
  rcases h.handled hlength htype ⟨history, hrun⟩ hlive (hroom more hmore)
    (hroom more' hmore') with ⟨version, heq⟩
  exact heq

theorem length_stale (b : UInt8) : 400 ≤ (List.replicate 400 b).length := by
  rw [List.length_replicate]

theorem completes_no_word (h : frame.IsolatedForClient)
    (hlength : 6 ≤ frame.bytes.length)
    (hid : messageId frame.bytes = 10001)
    (htest : ¬textTEST <+: frame.bytes.drop 7)
    (hinfo : ¬textINFO <+: frame.bytes.drop 7) {word : List UInt8}
    (hword : word = textTEST ∨ word = textINFO) :
    ¬frame.bytes.drop 7 <+: word := by
  rintro ⟨rest, hrest⟩
  rcases h.sameVersion hlength hid with ⟨s, hsame⟩
  have hmore : 400 ≤ (rest ++ List.replicate 400 (0 : UInt8)).length := by
    rw [List.length_append, List.length_replicate]
    exact Nat.le_add_left _ _
  have hstart : word <+: (frame.over (frame.staleText
      (rest ++ List.replicate 400 0))).drop 7 := by
    rw [frame.text_over hlength, ← List.append_assoc, hrest]
    exact List.prefix_append _ _
  have hasks : textTEST <+: (frame.over (frame.staleText
        (rest ++ List.replicate 400 0))).drop 7 ∨
      textINFO <+: (frame.over (frame.staleText
        (rest ++ List.replicate 400 0))).drop 7 := by
    rcases hword with hword | hword
    · exact Or.inl (hword ▸ hstart)
    · exact Or.inr (hword ▸ hstart)
  rcases onVersion_answers (s := s) (c := 3) hasks with
    ⟨handled, hhandled, hanswer⟩
  rw [hsame _ _ hmore (length_stale 0)] at hhandled
  refine hanswer (onVersion_quiet ?_ ?_ hhandled)
  · rw [frame.text_over hlength, List.replicate_succ]
    exact not_prefix_of_stale (by decide) htest
  · rw [frame.text_over hlength, List.replicate_succ]
    exact not_prefix_of_stale (by decide) hinfo

theorem numberEnds (h : frame.IsolatedForClient)
    (hlength : 6 ≤ frame.bytes.length)
    (hid : messageId frame.bytes = 10001)
    (htest : ¬textTEST <+: frame.bytes.drop 7)
    (hinfo : ¬textINFO <+: frame.bytes.drop 7)
    (hnumber : ¬text200609280 <+: frame.bytes.drop 7) :
    (strtol (frame.bytes.drop 7)).isSome := by
  rcases h.sameVersion hlength hid with ⟨s, hsame⟩
  cases hstrtol : strtol (frame.bytes.drop 7) with
  | some number => rfl
  | none =>
      have hcreer : ¬textCreer <+: frame.bytes.drop 7 := by
        rintro ⟨rest, hrest⟩
        rw [← hrest, show textCreer ++ rest =
          67 :: ([114, 101, 101, 114] ++ rest) from rfl, strtol_letter]
          at hstrtol
        cases hstrtol
      have happ : forall {word : List UInt8}, 49 ∉ word ->
          ¬word <+: frame.bytes.drop 7 ->
          ¬word <+: (frame.over (frame.staleText
            (List.replicate 400 49))).drop 7 := by
        intro word hdigit hword
        rw [frame.text_over hlength, List.replicate_succ]
        exact not_prefix_of_stale hdigit hword
      have hnone : s.onVersion 0 3
          (frame.over (frame.staleText (List.replicate 400 49))) = none := by
        apply onVersion_cut (happ (by decide) htest) (happ (by decide) hinfo)
          (happ (by decide) hnumber) (happ (by decide) hcreer)
        rw [frame.text_over hlength]
        exact strtol_cut hstrtol 400
      have hsome : (s.onVersion 0 3
          (frame.over (frame.staleText (List.replicate 400 0)))).isSome := by
        apply onVersion_isSome
        rw [frame.text_over hlength, List.replicate_succ]
        exact List.mem_append_right _ List.mem_cons_self
      rw [hsame _ _ (length_stale 0) (length_stale 49), hnone] at hsome
      cases hsome

theorem version (h : frame.IsolatedForClient)
    (hlength : 6 ≤ frame.bytes.length)
    (hid : messageId frame.bytes = 10001) :
    VersionKnown (frame.bytes.drop 7) := by
  by_cases htest : textTEST <+: frame.bytes.drop 7
  · exact Or.inl htest
  by_cases hinfo : textINFO <+: frame.bytes.drop 7
  · exact Or.inr (Or.inl hinfo)
  by_cases hnumber : text200609280 <+: frame.bytes.drop 7
  · exact Or.inr (Or.inr (Or.inl hnumber))
  exact Or.inr (Or.inr (Or.inr
    ⟨h.numberEnds hlength hid htest hinfo hnumber,
      h.completes_no_word hlength hid htest hinfo (Or.inl rfl),
      h.completes_no_word hlength hid htest hinfo (Or.inr rfl)⟩))

theorem server (h : frame.IsolatedForClient)
    (hlength : 6 ≤ frame.bytes.length)
    (hid : messageId frame.bytes = 10023) : 9 ≤ frame.bytes.length := by
  by_cases hshort : frame.bytes.length ≤ 8
  · let serverIdx := fun b : UInt8 => (UInt32.ofNat
      (numberAt (frame.over (Auth.staleByte 8 b)) 7 4)).toUInt16
    rcases exists_namedLobby [] (serverIdx 0) with ⟨s, hlobby⟩
    have htype : forall version, clientPacketType version
        (messageId frame.bytes) = some ClientPacketType.selectServer := by
      intro version
      rw [hid]
      unfold clientPacketType
      rw [if_neg (by decide), if_neg (clientPacketType_rsa (by decide))]
      rfl
    have hother : serverIdx 1 ≠ serverIdx 0 := by
      intro heq
      have hbytes := congrArg UInt16.toNat heq
      rw [toNat_serverIdx, toNat_serverIdx,
        frame.getD_over_of_ne 1 0 (by decide),
        frame.getD_over_self 1 hshort (by decide),
        frame.getD_over_self 0 hshort (by decide)] at hbytes
      exact absurd (Nat.add_left_cancel hbytes) (by decide)
    rcases h.handled hlength htype hlobby.reached hlobby.clientLive
      (staleByte_length 8 0) (staleByte_length 8 1) with ⟨version, heq⟩
    change (s.onSelectServer 3 (serverIdx 0) 99).map
        (Handled.ofOutputs version) =
      (s.onSelectServer 3 (serverIdx 1) 99).map
        (Handled.ofOutputs version) at heq
    rcases hlobby.onSelectServer 99 with ⟨s', hselected⟩
    rw [hselected, hlobby.onSelectServer_other hother 99] at heq
    cases congrArg Handled.replies (Option.some_inj.mp heq)
  · lia

end Frame.IsolatedForClient

theorem Frame.IsolatedForClient.complete {frame : Frame}
    (h : frame.IsolatedForClient) : frame.CompleteForClient where
  id := h.id
  version := h.version
  server := h.server

/-!
## Isolation is completeness
-/

/-- A `TS_CA_SELECT_SERVER` without the last byte of a short server index. -/
def cutSelection : Frame where
  bytes := [8, 0, 0, 0, 0x27, 0x27, 0x5E, 1]
  large := by decide
  small := by decide
  announced := by decide

/-- A `TS_GA_CLIENT_LOGOUT` of a name that does not end. -/
def cutLogout : Frame where
  bytes := [8, 0, 0, 0, 0x2C, 0x4E, 0x82, 97]
  large := by decide
  small := by decide
  announced := by decide

end Auth
end Rzu
