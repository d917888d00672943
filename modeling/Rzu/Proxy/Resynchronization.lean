import Rzu.Auth.Isolation
import Rzu.Auth.PlayerCount
import Rzu.Proxy.AccountList

/-!
# Resynchronization

What is left of an account list of the proxy once the auth server has handled
the packets that carry it.
-/

namespace Rzu
namespace Proxy

open Auth Library

def handleAccountLists (s : AuthState) (x : Addr) (newClients : List Addr) :
    List AccountList -> Option AuthState
  | [] => some s
  | packet :: packets => do
      let handled <- s.onAccountList x packet newClients
      handleAccountLists handled.1 x newClients packets

/-- A game server whose account list was not sent yet. -/
structure FreshlyLoggedIn (s : AuthState) (x g : Addr)
    (session : GameServerSession) (gameData : GameData) : Prop where
  live : s.gameSessions x = some session
  pointer : session.gameData = some g
  noAccounts : session.alreadyConnectedAccounts = []
  server : s.gameDatas g = some gameData
  notReady : gameData.ready = false

/-!
## Packets that do not end the list
-/

section Rounds

variable {s s' : AuthState} {x g : Addr} {session : GameServerSession}
variable {newClients : List Addr}

def waiting (s : AuthState) (x : Addr) (session : GameServerSession)
    (accounts : List AccountInfo) : AuthState :=
  s.setGameSession x
    { session with
      alreadyConnectedAccounts :=
        session.alreadyConnectedAccounts ++
          accounts.map AccountInfo.terminated }

theorem collectedAccounts_roundPacket {max : Nat}
    {room chunk later : List AccountInfo}
    (h : chunk.length ≤ maxCountPerPacket) :
    AuthState.collectedAccounts session (roundPacket max room chunk later) =
      session.alreadyConnectedAccounts ++
        chunk.map AccountInfo.terminated := by
  rw [AuthState.collectedAccounts, roundPacket_accounts h]

theorem onAccountList_wrongSize (hx : s.gameSessions x = some session)
    {packet : AccountList} (hsize : packet.expectedSize ≠ packet.size) :
    s.onAccountList x packet newClients = some (s, []) := by
  rw [AuthState.onAccountList, hx]
  simp only [Option.bind_eq_bind, Option.bind_some]
  split
  · rfl
  · exact if_pos hsize

theorem onAccountList_more (hx : s.gameSessions x = some session)
    (hback : session.gameData = some g) {packet : AccountList}
    (hsize : packet.expectedSize = packet.size)
    (hfinal : packet.finalPacket = false) :
    s.onAccountList x packet newClients =
      some (s.collect x session packet, []) := by
  rcases session with ⟨pointer, reconnects, accounts⟩
  change pointer = some g at hback
  subst hback
  rw [AuthState.onAccountList, hx]
  simp only [Option.bind_eq_bind, Option.bind_some]
  rw [if_neg (not_not.mpr hsize), hfinal]
  rfl

theorem onAccountList_final (hx : s.gameSessions x = some session)
    (hback : session.gameData = some g) {packet : AccountList}
    (hsize : packet.expectedSize = packet.size)
    (hfinal : packet.finalPacket = true) :
    s.onAccountList x packet newClients =
      (s.collect x session packet).synchronize x g
        (AuthState.collectedAccounts session packet) newClients := by
  rcases session with ⟨pointer, reconnects, accounts⟩
  change pointer = some g at hback
  subst hback
  rw [AuthState.onAccountList, hx]
  simp only [Option.bind_eq_bind, Option.bind_some]
  rw [if_neg (not_not.mpr hsize), if_pos hfinal]
  rfl

theorem collect_roundPacket {max : Nat} {room chunk later : List AccountInfo}
    (h : chunk.length ≤ maxCountPerPacket) :
    s.collect x session (roundPacket max room chunk later) =
      waiting s x session chunk := by
  rw [AuthState.collect, collectedAccounts_roundPacket h, waiting]

theorem waiting_gameSessions (accounts : List AccountInfo) :
    (waiting s x session accounts).gameSessions x =
      some { session with
        alreadyConnectedAccounts :=
          session.alreadyConnectedAccounts ++
            accounts.map AccountInfo.terminated } :=
  Function.update_self _ _ _

theorem waiting_waiting (first later : List AccountInfo) :
    waiting (waiting s x session first) x
      { session with
        alreadyConnectedAccounts :=
          session.alreadyConnectedAccounts ++
            first.map AccountInfo.terminated } later =
      waiting s x session (first ++ later) := by
  simp only [waiting, AuthState.setGameSession, Function.update_idem,
    List.map_append, List.append_assoc]

/-- Rounds that all fill their packet are handled like one long list. -/
theorem handleAccountLists_even (k : Nat) {max : Nat}
    {room rest : List AccountInfo} (hmax : rest ≠ [] -> 0 < max)
    (hbound : max ≤ maxCountPerPacket) (heven : rest.length = (k + 1) * max)
    (hx : s.gameSessions x = some session)
    (hback : session.gameData = some g) :
    handleAccountLists s x newClients (sendRounds max room rest hmax) =
      ((waiting s x session rest).synchronize x g
        (session.alreadyConnectedAccounts ++
          rest.map AccountInfo.terminated) newClients).map Prod.fst := by
  induction k generalizing s session room rest with
  | zero =>
      have hlen : rest.length = max := by lia
      have hfits : rest.length ≤ maxCountPerPacket := hlen ▸ hbound
      rw [sendRounds_last hmax (Nat.le_of_eq hlen), handleAccountLists,
        onAccountList_final hx hback
          ((roundPacket_expectedSize_iff hfits).mpr hlen) rfl,
        collect_roundPacket hfits, collectedAccounts_roundPacket hfits,
        Option.map_eq_bind]
      rfl
  | succ k ih =>
      by_cases hpos : 0 < max
      · have hmore : max < rest.length := by
          rw [heven]
          lia
        have hlen : (rest.take max).length = max :=
          List.length_take_of_le (Nat.le_of_lt hmore)
        have hfits := Nat.le_trans (Nat.le_of_eq hlen) hbound
        have hlater : (rest.drop max).length = (k + 1) * max := by
          rw [List.length_drop, heven]
          lia
        have hnonempty : (rest.drop max).isEmpty = false := by
          rw [List.isEmpty_eq_false_iff]
          apply List.ne_nil_of_length_pos
          rw [hlater]
          lia
        rw [sendRounds_more hmax hmore, handleAccountLists,
          onAccountList_more hx hback
            ((roundPacket_expectedSize_iff hfits).mpr hlen) hnonempty,
          Option.bind_eq_bind, Option.bind_some, collect_roundPacket hfits,
          ih _ hlater (waiting_gameSessions _) hback, waiting_waiting,
          List.take_append_drop, List.append_assoc, ← List.map_append,
          List.take_append_drop]
      · have hnil : rest = [] := by
          by_contra hne
          exact hpos (hmax hne)
        apply ih hmax _ hx hback
        rw [hnil]
        lia

/-- Rounds of which the last does not fill its packet never synchronize. -/
theorem handleAccountLists_ragged (k : Nat) {max r : Nat}
    {room rest : List AccountInfo} (hmax : rest ≠ [] -> 0 < max)
    (hbound : max ≤ maxCountPerPacket) (hr : 0 < r) (hrmax : r < max)
    (hragged : rest.length = k * max + r)
    (hx : s.gameSessions x = some session)
    (hback : session.gameData = some g) :
    exists s', handleAccountLists s x newClients
      (sendRounds max room rest hmax) = some s' ∧
        s'.gameDatas = s.gameDatas := by
  induction k generalizing s session room rest with
  | zero =>
      have hlen : rest.length = r := by lia
      have hfits : rest.length ≤ maxCountPerPacket := by lia
      refine ⟨s, ?_, rfl⟩
      have hwrong : (roundPacket max room rest []).expectedSize ≠
          (roundPacket max room rest []).size := by
        intro heq
        have hfull := (roundPacket_expectedSize_iff hfits).mp heq
        lia
      rw [sendRounds_last hmax (by lia), handleAccountLists,
        onAccountList_wrongSize hx hwrong]
      rfl
  | succ k ih =>
      have hmore : max < rest.length := by
        rw [hragged]
        lia
      have hlen : (rest.take max).length = max :=
        List.length_take_of_le (Nat.le_of_lt hmore)
      have hfits := Nat.le_trans (Nat.le_of_eq hlen) hbound
      have hlater : (rest.drop max).length = k * max + r := by
        rw [List.length_drop, hragged]
        lia
      have hnonempty : (rest.drop max).isEmpty = false := by
        rw [List.isEmpty_eq_false_iff]
        apply List.ne_nil_of_length_pos
        lia
      rw [sendRounds_more hmax hmore, handleAccountLists,
        onAccountList_more hx hback
          ((roundPacket_expectedSize_iff hfits).mpr hlen) hnonempty,
        Option.bind_eq_bind, Option.bind_some, collect_roundPacket hfits]
      rcases ih (s := waiting s x session (rest.take max)) _ hlater
        (waiting_gameSessions _) hback with ⟨s', hrun, hgames⟩
      exact ⟨s', hrun, hgames⟩

end Rounds

/-!
## The list that was sent
-/

structure Lists (accountInfo : AccountInfo) (clientData : ClientData) :
    Prop where
  account : clientData.account = accountInfo.name
  accountId : clientData.accountId = accountInfo.nAccountID.toUInt32
  age : clientData.age = accountInfo.nAge.toUInt32
  eventCode : clientData.eventCode = accountInfo.nEventCode.toUInt32
  ip : clientData.ip = accountInfo.ip
  loginTime : clientData.loginTime = some accountInfo.time
  inGame : clientData.inGame = true

/-- The server is ready, and its clients are exactly those of a list. -/
structure Resynchronized (s : AuthState) (g : Addr)
    (accounts : List AccountInfo) : Prop where
  ready : exists gameData, s.gameDatas g = some gameData ∧
    gameData.isReady = true ∧
      gameData.playerCount.toNat = accounts.length
  listed : forall accountInfo, accountInfo ∈ accounts ->
    exists p clientData, Registered s p clientData ∧
      clientData.server = some g ∧ Lists accountInfo clientData
  only : forall p clientData, s.clientDatas p = some clientData ->
    clientData.server = some g ->
      exists accountInfo, accountInfo ∈ accounts ∧
        Lists accountInfo clientData

def FillsPackets (accounts : List AccountInfo) : Prop :=
  accounts.length ≤ maxCountPerPacket ∨
    maxCountPerPacket ∣ accounts.length

/-- What resynchronization needs of the list, and of the server before. -/
structure Resynchronizable (s : AuthState) (g : Addr)
    (accounts : List AccountInfo) : Prop where
  fills : FillsPackets accounts
  names : (accounts.map fun accountInfo =>
    toLower accountInfo.name).Nodup
  counts : s.Surplus g 0
  bounded : accounts.length < 2 ^ 32

/-- Nobody of the list is a client of another server, or in the lobby. -/
def NotElsewhere (s : AuthState) (g : Addr)
    (accounts : List AccountInfo) : Prop :=
  forall accountInfo, accountInfo ∈ accounts ->
    forall p clientData, Registered s p clientData ->
      clientData.server ≠ some g ->
        clientData.accountId ≠ accountInfo.nAccountID.toUInt32 ∧
          toLower clientData.account ≠ toLower accountInfo.name

/-- The allocator may reuse the clients of the server, and no others. -/
structure MayAllocate (s : AuthState) (g : Addr) (newClients : List Addr)
    (count : Nat) : Prop where
  enough : count ≤ newClients.length
  distinct : newClients.Nodup
  free : forall p, p ∈ newClients -> forall clientData,
    s.clientDatas p = some clientData -> clientData.server = some g

theorem terminated_name (accountInfo : AccountInfo) :
    accountInfo.terminated.name = accountInfo.name := by
  rw [AccountInfo.name, AccountInfo.name, AccountInfo.terminated,
    convertToString, convertToString, Vector.toList_set,
    List.take_set_of_le (Nat.le_refl _)]

theorem terminated_data (accountInfo : AccountInfo) :
    accountInfo.terminated.data = accountInfo.data := by
  rw [AccountInfo.data, terminated_name]
  rfl

theorem lists_listedClientData (g : Addr) (accountInfo : AccountInfo) :
    Lists accountInfo
      (AuthState.listedClientData g accountInfo.terminated) := by
  have hdata : AuthState.listedClientData g accountInfo.terminated =
      AuthState.listedClientData g accountInfo := by
    rw [AuthState.listedClientData, terminated_data]
    rfl
  rw [hdata]
  constructor
  · rfl
  · rfl
  · rfl
  · rfl
  · rfl
  · rfl
  · rfl

theorem accountId_injective :
    Function.Injective fun accountInfo : Int32 => accountInfo.toUInt32 := by
  intro a b h
  have hback := congrArg UInt32.toInt32 h
  rw [Int32.toInt32_toUInt32, Int32.toInt32_toUInt32] at hback
  exact hback

section Exact

variable {s s' : AuthState} {x g : Addr} {session : GameServerSession}
variable {gameData : GameData} {accounts : List AccountInfo}
variable {newClients : List Addr}

theorem handleAccountLists_fills (hfills : FillsPackets accounts)
    (hx : s.gameSessions x = some session)
    (hback : session.gameData = some g) :
    handleAccountLists s x newClients (sendAccountList accounts) =
      ((waiting s x session accounts).synchronize x g
        (session.alreadyConnectedAccounts ++
          accounts.map AccountInfo.terminated) newClients).map Prod.fst := by
  by_cases hone : accounts.length ≤ maxCountPerPacket
  · have hmax : maxCount accounts = accounts.length := if_pos hone
    apply handleAccountLists_even 0 maxCount_pos _ _ hx hback
    · exact hmax ▸ hone
    · rw [hmax]
      lia
  · have hmax : maxCount accounts = maxCountPerPacket := if_neg hone
    rcases hfills.resolve_left hone with ⟨k, hk⟩
    cases k with
    | zero =>
        rw [hk, Nat.mul_zero] at hone
        exact absurd (Nat.zero_le _) hone
    | succ k =>
        apply handleAccountLists_even k maxCount_pos _ _ hx hback
        · exact Nat.le_of_eq hmax
        · rw [hmax, hk, Nat.mul_comm]

theorem handleAccountLists_not_fills (hragged : ¬FillsPackets accounts)
    (hx : s.gameSessions x = some session)
    (hback : session.gameData = some g) :
    exists s', handleAccountLists s x newClients
      (sendAccountList accounts) = some s' ∧
        s'.gameDatas = s.gameDatas := by
  rcases not_or.mp hragged with ⟨hmany, hdvd⟩
  have hmax : maxCount accounts = maxCountPerPacket := if_neg hmany
  have hpos : 0 < maxCountPerPacket := by decide
  apply handleAccountLists_ragged (accounts.length / maxCountPerPacket)
    (r := accounts.length % maxCountPerPacket) maxCount_pos _ _ _ _ hx hback
  · exact Nat.le_of_eq hmax
  · exact Nat.pos_of_ne_zero fun h => hdvd (Nat.dvd_of_mod_eq_zero h)
  · rw [hmax]
    exact Nat.mod_lt _ hpos
  · rw [hmax, Nat.mul_comm]
    exact (Nat.div_add_mod _ _).symm

theorem not_resynchronized (hragged : ¬FillsPackets accounts)
    (hfresh : FreshlyLoggedIn s x g session gameData)
    (hrun : handleAccountLists s x newClients (sendAccountList accounts) =
      some s') :
    ¬Resynchronized s' g accounts := by
  intro hexact
  have hhandle : exists s', handleAccountLists s x newClients
      (sendAccountList accounts) = some s' ∧ s'.gameDatas = s.gameDatas :=
    handleAccountLists_not_fills hragged hfresh.live hfresh.pointer
  rcases hhandle with ⟨last, hlast, hgames⟩
  rw [hrun] at hlast
  cases hlast
  rcases hexact.ready with ⟨found, hfound, hready, -⟩
  rw [hgames, hfresh.server] at hfound
  cases hfound
  rw [GameData.isReady, hfresh.notReady, Bool.and_false] at hready
  cases hready

theorem Resynchronized.names (h : Resynchronized s' g accounts)
    (hids : (accounts.map AccountInfo.nAccountID).Nodup) :
    (accounts.map fun accountInfo => toLower accountInfo.name).Nodup := by
  rw [List.nodup_map_iff_inj_on (List.Nodup.of_map _ hids)]
  intro a ha b hb hname
  rcases h.listed a ha with ⟨p, first, hfirst, -, hlists⟩
  rcases h.listed b hb with ⟨q, second, hsecond, -, hlists'⟩
  have hpq := hfirst.byName
  rw [hlists.account, hname, ← hlists'.account, hsecond.byName] at hpq
  cases hpq
  have hsame := hfirst.live.symm.trans hsecond.live
  cases hsame
  apply List.inj_on_of_nodup_map hids ha hb
  exact accountId_injective (hlists.accountId.symm.trans hlists'.accountId)

theorem consistent_waiting (h : Consistent s)
    (hx : s.gameSessions x = some session) (accounts : List AccountInfo) :
    Consistent (waiting s x session accounts) := by
  apply AuthState.consistent_updateGameSession h
  rw [hx]
  rfl

theorem unclaimed_of_notElsewhere (h : Consistent s)
    (hids : (accounts.map AccountInfo.nAccountID).Nodup)
    (hnames : (accounts.map fun accountInfo =>
      toLower accountInfo.name).Nodup)
    (helsewhere : NotElsewhere s g accounts) {cleared : AuthState}
    (hold : forall {p clientData}, cleared.clientDatas p = some clientData ->
      s.clientDatas p = some clientData)
    (hgone : forall p clientData, cleared.clientDatas p = some clientData ->
      clientData.server ≠ some g) :
    AuthState.Unclaimed cleared (accounts.map AccountInfo.terminated) := by
  constructor
  · rw [List.map_map]
    have hkeys := hids.map accountId_injective
    rw [List.map_map] at hkeys
    exact hkeys
  · rw [List.map_map]
    have hsame : (fun accountInfo : AccountInfo =>
        toLower accountInfo.terminated.data.account) =
          fun accountInfo => toLower accountInfo.name := by
      funext accountInfo
      rw [terminated_data]
      rfl
    change (accounts.map fun accountInfo : AccountInfo =>
      toLower accountInfo.terminated.data.account).Nodup
    rw [hsame]
    exact hnames
  · intro terminated hmem p clientData hp
    rcases List.mem_map.mp hmem with ⟨accountInfo, haccount, heq⟩
    subst heq
    rw [terminated_data]
    exact helsewhere accountInfo haccount p clientData
      (AuthState.registered_of_live h (hold hp)) (hgone p clientData hp)

theorem resynchronized_count {surplus count : UInt32} {n : Nat}
    (hcount : count = surplus + UInt32.ofNat n) :
    count.toNat = n ↔ surplus = 0 ∧ n < 2 ^ 32 := by
  constructor
  · intro hn
    have hsame : UInt32.ofNat n = count := by
      rw [← hn]
      exact UInt32.ofNat_toNat
    constructor
    · have hzero := congrArg (fun c => c - count) hcount
      simp only [hsame, UInt32.sub_self, UInt32.add_sub_cancel] at hzero
      exact hzero.symm
    · rw [← hn]
      exact count.toNat_lt
  · intro h
    rw [hcount, h.left, UInt32.zero_add]
    exact UInt32.toNat_ofNat_of_lt' h.right

/-- The difference between what a server counts and its players. -/
noncomputable def surplusOf (s : AuthState) (g : Addr) (gameData : GameData) : UInt32 :=
  gameData.playerCount - UInt32.ofNat (s.players g).ncard

theorem surplus_surplusOf (hg : s.gameDatas g = some gameData) :
    s.Surplus g (surplusOf s g gameData) :=
  ⟨gameData, hg, (UInt32.sub_add_cancel _ _).symm⟩

theorem surplus_zero_iff (hg : s.gameDatas g = some gameData) :
    s.Surplus g 0 ↔ surplusOf s g gameData = 0 := by
  constructor
  · intro hsurplus
    rcases hsurplus with ⟨found, hfound, hcount⟩
    rw [hg] at hfound
    cases hfound
    rw [surplusOf, hcount, UInt32.zero_add, UInt32.sub_self]
  · intro hzero
    have hsurplus := surplus_surplusOf hg
    rw [hzero] at hsurplus
    exact hsurplus

theorem resynchronized_of_adds {added : AuthState} {data : GameData}
    (h' : Consistent (added.synchronized x g session data))
    {cleared : AuthState} {outputs : List Output}
    (hadds : AuthState.Adds x g (accounts.map AccountInfo.terminated)
      newClients cleared outputs added)
    (hgone : forall p clientData, cleared.clientDatas p = some clientData ->
      clientData.server ≠ some g)
    (hunclaimed : AuthState.Unclaimed cleared
      (accounts.map AccountInfo.terminated))
    (hback : data.gameServerSession = some x)
    (hcount : data.playerCount.toNat = accounts.length) :
    Resynchronized (added.synchronized x g session data) g accounts := by
  constructor
  · refine ⟨{ data with ready := true },
      AuthState.synchronized_gameDatas _ _ _ _ _, ?_, hcount⟩
    rw [GameData.isReady, hback]
    rfl
  · intro accountInfo hmem
    rcases hadds.listed hunclaimed
      (List.mem_map_of_mem (f := AccountInfo.terminated) hmem) with ⟨p, hp⟩
    exact ⟨p, _, AuthState.registered_of_live h' hp, rfl,
      lists_listedClientData g accountInfo⟩
  · intro p clientData hp hserver
    rcases hadds.clientDatas_cases hp with hold | ⟨terminated, hmem, heq⟩
    · exact absurd hserver (hgone p clientData hold)
    · rcases List.mem_map.mp hmem with ⟨accountInfo, haccount, hterminated⟩
      subst hterminated
      subst heq
      exact ⟨accountInfo, haccount, lists_listedClientData g accountInfo⟩

/-- What the last packet of a list that fills its packets makes of it. -/
theorem resynchronized_of_synchronize (h : Consistent s)
    (hfresh : FreshlyLoggedIn s x g session gameData)
    (hids : (accounts.map AccountInfo.nAccountID).Nodup)
    (helsewhere : NotElsewhere s g accounts) {outputs : List Output}
    (hstep : (waiting s x session accounts).synchronize x g
      (accounts.map AccountInfo.terminated) newClients =
        some (s', outputs)) :
    Resynchronized s' g accounts ↔
      (accounts.map fun accountInfo => toLower accountInfo.name).Nodup ∧
        s.Surplus g 0 ∧ accounts.length < 2 ^ 32 := by
  have hwaiting := consistent_waiting h hfresh.live accounts
  rcases AuthState.synchronize_cases hwaiting (waiting_gameSessions _)
    hfresh.pointer hstep with
    ⟨cleared, added, data, hforgets, hgone, hadds, hdata, heq⟩
  subst heq
  have hcleared := hforgets.consistent hwaiting
  have hadded := hadds.consistent hcleared
  have hsession := (congrFun
    (hadds.gameSessions.trans hforgets.gameSessions) x).trans
      (waiting_gameSessions _)
  rcases hadded.paired.gameData hsession hfresh.pointer with
    ⟨found, hfound, hback⟩
  rw [hdata] at hfound
  cases hfound
  have hempty : cleared.players g = ∅ := by
    ext p
    constructor
    · intro hp
      rcases hp with ⟨clientData, hp, hserver, -⟩
      exact absurd hserver (hgone p clientData hp)
    · intro hp
      cases hp
  -- the server is off by as much as it was before
  rcases hadds.surplus hcleared (hforgets.surplus hwaiting
    (surplus_surplusOf hfresh.server)) with ⟨found, hfound, hcount⟩
  rw [hdata] at hfound
  cases hfound
  rw [surplus_zero_iff hfresh.server]
  have hunclaimed := fun hnames => unclaimed_of_notElsewhere h hids hnames
    helsewhere hforgets.clientDatas_eq_some hgone
  have htotal : (accounts.map fun accountInfo =>
      toLower accountInfo.name).Nodup ->
        (data.playerCount.toNat = accounts.length ↔
          surplusOf s g gameData = 0 ∧ accounts.length < 2 ^ 32) := by
    intro hnames
    apply resynchronized_count
    rw [hcount, hadds.players_ncard hcleared (hunclaimed hnames), hempty,
      Set.ncard_empty, List.length_map, Nat.zero_add]
    rfl
  constructor
  · intro hexact
    have hnames := hexact.names hids
    rcases hexact.ready with ⟨last, hlast, -, hnumber⟩
    rw [AuthState.synchronized_gameDatas] at hlast
    cases hlast
    exact ⟨hnames, (htotal hnames).mp hnumber⟩
  · intro hcondition
    exact resynchronized_of_adds
      (AuthState.consistent_synchronized hadded hsession rfl hdata) hadds
      hgone (hunclaimed hcondition.left) hback
      ((htotal hcondition.left).mpr hcondition.right)

theorem synchronize_total (h : Consistent s)
    (hfresh : FreshlyLoggedIn s x g session gameData)
    (halloc : MayAllocate s g newClients accounts.length) :
    exists result, (waiting s x session accounts).synchronize x g
      (accounts.map AccountInfo.terminated) newClients = some result := by
  have hwaiting := consistent_waiting h hfresh.live accounts
  rcases AuthState.removeServer_forgets hwaiting.indexed g with
    ⟨cleared, hclear, hforgets, hgone⟩
  have hcleared := hforgets.consistent hwaiting
  rcases hforgets.sameServers.exists_some hfresh.server with ⟨data, hdata, -⟩
  have hfree : AuthState.Allocates cleared newClients
      (accounts.map AccountInfo.terminated).length := by
    refine ⟨(List.length_map _).symm ▸ halloc.enough, halloc.distinct, ?_⟩
    intro p hp
    cases hlive : cleared.clientDatas p with
    | none => rfl
    | some clientData =>
        exact absurd (halloc.free p hp clientData
          (hforgets.clientDatas_eq_some hlive)) (hgone p clientData hlive)
  rcases AuthState.addAccounts_total hcleared hdata (x := x) hfree with
    ⟨⟨added, outputs⟩, hadd⟩
  have hadds := AuthState.addAccounts_cases hcleared hdata hadd
  rcases hadds.sameServers.exists_some hdata with ⟨last, hlast, -⟩
  have hsession := (congrFun
    (hadds.gameSessions.trans hforgets.gameSessions) x).trans
      (waiting_gameSessions _)
  refine ⟨(added.synchronized x g
    { session with
      alreadyConnectedAccounts :=
        session.alreadyConnectedAccounts ++
          accounts.map AccountInfo.terminated } last, outputs), ?_⟩
  simp only [AuthState.synchronize, hclear, hadd, AuthState.setReady, hlast,
    Option.bind_eq_bind, Option.bind_some, Option.pure_def,
    AuthState.setGameData, hsession]
  rfl

/--
The packets of an account list are always handled, whatever the allocator
returns for the new clients.  They leave the game server ready with exactly the
clients of the list if and only if the list fills its packets, no two names
differ in the case of their letters only, and the server counted right before.
-/
theorem resynchronized_iff {strictKick : Bool} {history : List Occurrence}
    (hrun : AuthRun strictKick history s)
    (hfresh : FreshlyLoggedIn s x g session gameData)
    (hids : (accounts.map AccountInfo.nAccountID).Nodup)
    (helsewhere : NotElsewhere s g accounts) :
    (forall newClients, MayAllocate s g newClients accounts.length ->
      exists s', handleAccountLists s x newClients
        (sendAccountList accounts) = some s') ∧
      forall newClients s', handleAccountLists s x newClients
        (sendAccountList accounts) = some s' ->
          (Resynchronized s' g accounts ↔
            Resynchronizable s g accounts) := by
  have h := AuthRun.consistent hrun
  by_cases hfills : FillsPackets accounts
  · have hhandle : forall newClients, handleAccountLists s x newClients
        (sendAccountList accounts) =
          ((waiting s x session accounts).synchronize x g
            (accounts.map AccountInfo.terminated) newClients).map
              Prod.fst := by
      intro newClients
      rw [handleAccountLists_fills hfills hfresh.live hfresh.pointer,
        hfresh.noAccounts, List.nil_append]
    constructor
    · intro newClients halloc
      rcases synchronize_total h hfresh halloc with ⟨result, hresult⟩
      exact ⟨result.1, by rw [hhandle, hresult]; rfl⟩
    · intro newClients s' hrun'
      rw [hhandle] at hrun'
      rcases Option.map_eq_some_iff.mp hrun' with
        ⟨⟨last, outputs⟩, hstep, heq⟩
      subst heq
      rw [resynchronized_of_synchronize h hfresh hids helsewhere hstep]
      constructor
      · intro hcondition
        exact ⟨hfills, hcondition.left, hcondition.right.left,
          hcondition.right.right⟩
      · intro hcondition
        exact ⟨hcondition.names, hcondition.counts, hcondition.bounded⟩
  · constructor
    · intro newClients _
      have hhandle : exists s', handleAccountLists s x newClients
          (sendAccountList accounts) = some s' ∧
            s'.gameDatas = s.gameDatas :=
        handleAccountLists_not_fills hfills hfresh.live hfresh.pointer
      rcases hhandle with ⟨s', hrun', -⟩
      exact ⟨s', hrun'⟩
    · intro newClients s' hrun'
      constructor
      · intro hexact
        exact absurd hexact (not_resynchronized hfills hfresh hrun')
      · intro hcondition
        exact absurd hcondition.fills hfills

end Exact

/-!
## A list that does not fill its packets
-/

/-- A game server that may reconnect logs in. -/
def reconnectableEvents : List Event :=
  [Event.gameConnected 1,
    Event.serverLogin 1
      (LoginKind.loginWithLogoutExt (Vector.replicate 16 0))
      (namelessServer 1) 2]

/-- An account with a number, and a name of two letters. -/
def numberedAccount (n : Nat) : AccountInfo where
  account := (packetName (UInt8.ofNat (97 + n / 26))).set 1
    (UInt8.ofNat (97 + n % 26))
  nAccountID := Int32.ofNat n
  nPCBangUser := 0
  nEventCode := 0
  nAge := 0
  ip := Vector.replicate 46 0
  loginTime := 0

theorem freshlyLoggedIn_reconnectable :
    exists history s session gameData, AuthRun false history s ∧
      FreshlyLoggedIn s 1 2 session gameData ∧
        forall p, s.clientDatas p = none := by
  have hreplay : (replay (nextStep false) AuthState.initial
      reconnectableEvents).map (fun result =>
        (result.2.gameSessions 1, result.2.gameDatas 2,
          result.2.connectedClients.entries)) =
        some (some ⟨some 2, true, []⟩,
          some ⟨some 1, (namelessServer 1).info, Vector.replicate 16 0, 0,
            false⟩, []) := by
    decide +kernel
  rcases Option.map_eq_some_iff.mp hreplay with ⟨⟨history, s⟩, heq, htriple⟩
  have hrun := replay_run (nextStep_step false) Run.nil heq
  have hsession : s.gameSessions 1 = some ⟨some 2, true, []⟩ :=
    congrArg Prod.fst htriple
  have hgame : s.gameDatas 2 = some ⟨some 1, (namelessServer 1).info,
      Vector.replicate 16 0, 0, false⟩ :=
    congrArg (fun triple => triple.2.1) htriple
  have hentries : s.connectedClients.entries = [] :=
    congrArg (fun triple => triple.2.2) htriple
  refine ⟨history, s, _, _, hrun,
    ⟨hsession, rfl, rfl, hgame, rfl⟩, ?_⟩
  intro p
  cases hp : s.clientDatas p with
  | none => rfl
  | some clientData =>
      have hlookup := (AuthRun.consistent hrun).clients.toId hp
      have hmem := AList.mem_lookup_iff.mp hlookup
      rw [hentries] at hmem
      cases hmem

theorem resynchronized_iff_one_account :
    exists history s, AuthRun false history s ∧
      (forall newClients, MayAllocate s 2 newClients 1 ->
        exists s', handleAccountLists s 1 newClients
          (sendAccountList [numberedAccount 0]) = some s') ∧
        forall newClients s', handleAccountLists s 1 newClients
          (sendAccountList [numberedAccount 0]) = some s' ->
            (Resynchronized s' 2 [numberedAccount 0] ↔
              Resynchronizable s 2 [numberedAccount 0]) := by
  rcases freshlyLoggedIn_reconnectable with
    ⟨history, s, session, gameData, hrun, hfresh, hempty⟩
  have hids : ([numberedAccount 0].map AccountInfo.nAccountID).Nodup := by
    decide
  have helsewhere : NotElsewhere s 2 [numberedAccount 0] := by
    intro accountInfo hmem p clientData hregistered
    have hlive := hregistered.live
    rw [hempty p] at hlive
    cases hlive
  exact ⟨history, s, hrun, resynchronized_iff hrun hfresh hids helsewhere⟩

/-- One account too many for a packet, and the server stays not ready. -/
theorem not_resynchronized_129_accounts :
    exists history s session gameData, AuthRun false history s ∧
      FreshlyLoggedIn s 1 2 session gameData ∧
        (((List.range 129).map numberedAccount).map
          AccountInfo.nAccountID).Nodup ∧
        (((List.range 129).map numberedAccount).map AccountInfo.name).Nodup ∧
          NotElsewhere s 2 ((List.range 129).map numberedAccount) ∧
            forall newClients s', handleAccountLists s 1 newClients
              (sendAccountList ((List.range 129).map numberedAccount)) =
                some s' ->
                  ¬Resynchronized s' 2
                    ((List.range 129).map numberedAccount) := by
  rcases freshlyLoggedIn_reconnectable with
    ⟨history, s, session, gameData, hrun, hfresh, hempty⟩
  refine ⟨history, s, session, gameData, hrun, hfresh, ?_, ?_, ?_, ?_⟩
  · decide +kernel
  · decide +kernel
  · intro accountInfo hmem p clientData hregistered
    have hlive := hregistered.live
    rw [hempty p] at hlive
    cases hlive
  · intro newClients s' hhandle
    apply not_resynchronized _ hfresh hhandle
    rw [FillsPackets, List.length_map, List.length_range]
    decide

end Proxy
end Rzu
