import Rzu.Auth.RefusedLogins

/-!
# Account lists of a game server

The accounts of unfinished lists wait in the session.  A final list recreates
those that arrived since the login or the list before, unless a login finds
accounts that an earlier login left waiting.
-/

namespace Rzu
namespace Auth

open Library (Run Avoids replay replay_run)

def AccountList.accounts (packet : AccountList) : List AccountInfo :=
  (packet.accountInfo.take packet.count.toNat).map AccountInfo.terminated

def AccountList.wellSized (packet : AccountList) : Bool :=
  packet.expectedSize = packet.size

/-- The accounts that have arrived on a session, after one more event. -/
def noteListed (x : Addr) (listed : List AccountInfo) (o : Occurrence) :
    List AccountInfo :=
  match o.event with
  | Event.gameConnected y => if y = x then [] else listed
  | Event.serverLogin y _ _ _ =>
      if y = x ∧ Output.loginResult x ResultCode.success ∈ o.outputs then []
      else listed
  | Event.accountList y packet _ =>
      if y = x ∧ packet.wellSized = true then
        if packet.finalPacket then [] else listed ++ packet.accounts
      else listed
  | _ => listed

section NoteListed

variable (x y : Addr) (listed : List AccountInfo) (outputs : List Output)

theorem noteListed_serverLogin (kind : LoginKind) (packet : ServerLogin)
    (newGameData : Addr) :
    noteListed x listed
        ⟨Event.serverLogin y kind packet newGameData, outputs⟩ =
      if y = x ∧ Output.loginResult x ResultCode.success ∈ outputs then []
      else listed := rfl

theorem noteListed_accountList (packet : AccountList)
    (newClients : List Addr) :
    noteListed x listed ⟨Event.accountList y packet newClients, outputs⟩ =
      if y = x ∧ packet.wellSized = true then
        if packet.finalPacket then [] else listed ++ packet.accounts
      else listed := rfl

end NoteListed

/--
The accounts of the well-sized lists that have arrived on a session since its
last successful login or its last final list.
-/
def listedSince (x : Addr) (history : List Occurrence) : List AccountInfo :=
  history.foldl (noteListed x) []

theorem listedSince_snoc (x : Addr) (history : List Occurrence)
    (o : Occurrence) :
    listedSince x (history ++ [o]) = noteListed x (listedSince x history) o := by
  rw [listedSince, List.foldl_append]
  rfl

namespace AuthState

/-- A login finds accounts that wait in the session. -/
def FindsAccounts (x : Addr) (s : AuthState) (o : Occurrence) : Prop :=
  Output.loginResult x ResultCode.success ∈ o.outputs ∧
    exists session, s.gameSessions x = some session ∧
      session.alreadyConnectedAccounts ≠ []

/-- The clients of a server are those of a list, but for conflicts. -/
structure Recreates (s' : AuthState) (outputs : List Output) (x g : Addr)
    (accounts : List AccountInfo) : Prop where
  only : forall p clientData, s'.clientDatas p = some clientData ->
    clientData.server = some g -> exists accountInfo,
      accountInfo ∈ accounts ∧ clientData = listedClientData g accountInfo
  all : forall accountInfo, accountInfo ∈ accounts ->
    (exists p, s'.clientDatas p = some (listedClientData g accountInfo)) ∨
      (Output.kickClient x accountInfo.name ∈ outputs ∧
        exists q old, s'.clientDatas q = some old ∧
          (old.accountId = accountInfo.data.accountId ∨
            toLower old.account = toLower accountInfo.data.account))

/-- What waits in a session that is logged in. -/
def Waits (s : AuthState) (x : Addr) (listed : List AccountInfo) : Prop :=
  forall session g, s.gameSessions x = some session ->
    session.gameData = some g -> session.alreadyConnectedAccounts = listed

variable {s s' : AuthState} {x y g : Addr} {listed : List AccountInfo}

/-- A session that is logged in afterwards was so before. -/
def KeepsList (s s' : AuthState) (x : Addr) : Prop :=
  forall session' g, s'.gameSessions x = some session' ->
    session'.gameData = some g -> exists session,
      s.gameSessions x = some session ∧ session.gameData = some g ∧
        session.alreadyConnectedAccounts = session'.alreadyConnectedAccounts

theorem KeepsList.of_eq (h : s'.gameSessions x = s.gameSessions x) :
    KeepsList s s' x := by
  intro session' g hx hback
  rw [h] at hx
  exact ⟨session', hx, hback, rfl⟩

theorem Waits.keep (h : s.Waits x listed) (hkeeps : KeepsList s s' x) :
    s'.Waits x listed := by
  intro session' g hx hback
  rcases hkeeps session' g hx hback with ⟨session, hold, hsame, heq⟩
  rw [← heq]
  exact h session g hold hsame

/-!
## Events of clients
-/

theorem EvictCase.gameSessions {p : Addr} {old : ClientData}
    (hcase : EvictCase s p old s') : s'.gameSessions = s.gameSessions := by
  cases hcase with
  | kept => rfl
  | removed hserver => rfl
  | kickRequested hserver hgame => rfl

theorem AuthResultCase.gameSessions {c p : Addr} {query : AccountQuery}
    {outputs : List Output}
    (hcase : AuthResultCase s c query p s' outputs) :
    s'.gameSessions = s.gameSessions := by
  cases hcase with
  | refused hrefused => rfl
  | authenticated hc hnone hvacant => rfl
  | conflict hq hsame hevict hrefused => exact hevict.gameSessions

theorem SelectCase.gameSessions {c : Addr} {serverIdx : UInt16}
    {oneTimePassword : UInt64} {outputs : List Output}
    (hcase : SelectCase s c serverIdx oneTimePassword s' outputs) :
    s'.gameSessions = s.gameSessions := by
  cases hcase with
  | refused hnone => rfl
  | handedOver hc hpointer hp hg => rfl

theorem LeaveCase.gameSessions {session : ClientSession}
    (hcase : LeaveCase s session s') : s'.gameSessions = s.gameSessions := by
  cases hcase with
  | idle hnone => rfl
  | owner hpointer hp => rfl

theorem ClientLoginCase.gameSessions {packet : ClientLogin} {now : Int64}
    {outputs : List Output}
    (hcase : ClientLoginCase s x packet now s' outputs) :
    s'.gameSessions = s.gameSessions := by
  cases hcase with
  | refused hresult => rfl
  | entered hx hback hname hp hg henter hresult => rfl

theorem NoticeCase.gameSessions {account : Vector UInt8 61}
    (hcase : NoticeCase s x account s') :
    s'.gameSessions = s.gameSessions := by
  cases hcase with
  | ignored => rfl
  | removed hx hback hname hp => rfl

/-!
## Events of game servers
-/

theorem release_keepsList (h : Consistent s) {gameData : GameData}
    (hg : s.gameDatas g = some gameData) :
    KeepsList s (s.release g gameData) x := by
  rw [release]
  split
  · exact KeepsList.of_eq rfl
  · rename_i y hback
    by_cases hxy : x = y
    · subst hxy
      intro session' g' hx' hback'
      rcases h.paired.session hg hback with ⟨session, hx, -⟩
      change Function.update s.gameSessions x _ x = _ at hx'
      rw [Function.update_self, hx] at hx'
      cases hx'
      cases hback'
    · exact KeepsList.of_eq (Function.update_of_ne hxy _ _)

theorem KeepsList.update_other (h : KeepsList s s' x) (hxy : x ≠ y)
    {new : Option GameServerSession} {gameDatas : Addr -> Option GameData}
    {servers : AList fun _ : UInt16 => Addr} :
    KeepsList s { s' with
      gameSessions := Function.update s'.gameSessions y new
      gameDatas := gameDatas
      servers := servers } x := by
  intro session' g hx hback
  apply h session' g _ hback
  exact (Function.update_of_ne hxy _ _).symm.trans hx

theorem LoginCase.keepsList (h : Consistent s) (hxy : x ≠ y)
    {kind : LoginKind} {packet : ServerLogin} {newGameData : Addr}
    (hcase : LoginCase s y kind packet newGameData s') :
    KeepsList s s' x := by
  cases hcase with
  | refused => exact KeepsList.of_eq rfl
  | opened hx hnone hfree hindex =>
      exact KeepsList.of_eq (Function.update_of_ne hxy _ _)
  | takenOver hx hnone hg =>
      exact (release_keepsList h hg).update_other hxy

theorem LoginCase.accounts {kind : LoginKind} {packet : ServerLogin}
    {newGameData : Addr} {session session' : GameServerSession}
    (hx : s.gameSessions x = some session)
    (hcase : LoginCase s x kind packet newGameData s')
    (hx' : s'.gameSessions x = some session') :
    session'.alreadyConnectedAccounts = session.alreadyConnectedAccounts := by
  cases hcase with
  | refused =>
      rw [hx] at hx'
      cases hx'
      rfl
  | opened hold hnone hfree hindex =>
      rw [hx] at hold
      cases hold
      rw [openServer_gameSessions] at hx'
      cases hx'
      rfl
  | takenOver hold hnone hg =>
      rw [hx] at hold
      cases hold
      rw [takeOver_gameSessions] at hx'
      cases hx'
      rfl

theorem onServerLogin_answered {kind : LoginKind}
    {packet : ServerLogin} {newGameData : Addr} {outputs : List Output}
    (hstep : s.onServerLogin x kind packet newGameData =
      some (s', outputs)) :
    exists result, Output.loginResult x result ∈ outputs := by
  rcases Option.bind_eq_some_iff.mp hstep with ⟨session, hx, hrest⟩
  split at hrest
  · cases hrest
    exact ⟨_, List.mem_singleton_self _⟩
  · rename_i hnone
    rcases Option.bind_eq_some_iff.mp hrest with ⟨result, hadd, hrest⟩
    split at hrest
    · rcases Option.bind_eq_some_iff.mp hrest with ⟨paired, -, hrest⟩
      rcases Option.bind_eq_some_iff.mp hrest with ⟨ready, -, hpair⟩
      cases hpair
      exact ⟨_, List.mem_singleton_self _⟩
    · rcases Option.bind_eq_some_iff.mp hrest with ⟨old, -, hrest⟩
      split at hrest
      · rcases Option.bind_eq_some_iff.mp hrest with ⟨paired, -, hrest⟩
        rcases Option.bind_eq_some_iff.mp hrest with ⟨ready, -, hpair⟩
        cases hpair
        exact ⟨_, List.mem_append_right _ (List.mem_singleton_self _)⟩
      · cases hrest
        exact ⟨_, List.mem_singleton_self _⟩

theorem noteKind_keepsList {session : GameServerSession} {kind : LoginKind}
    (hy : s.gameSessions y = some session) :
    KeepsList s (s.noteKind y session kind) x := by
  by_cases hxy : x = y
  · subst hxy
    intro session' g hx hback
    change Function.update s.gameSessions x _ x = _ at hx
    rw [Function.update_self] at hx
    cases hx
    exact ⟨session, hy, hback, rfl⟩
  · exact KeepsList.of_eq (Function.update_of_ne hxy _ _)

theorem KeepsList.trans {s'' : AuthState} (h : KeepsList s s' x)
    (h' : KeepsList s' s'' x) : KeepsList s s'' x := by
  intro session'' g hx hback
  rcases h' session'' g hx hback with ⟨session', hx', hback', heq'⟩
  rcases h session' g hx' hback' with ⟨session, hold, hsame, heq⟩
  exact ⟨session, hold, hsame, heq.trans heq'⟩

theorem Waits.serverLogin (h : Consistent s) (hwaits : s.Waits x listed)
    {kind : LoginKind} {packet : ServerLogin} {newGameData : Addr}
    {outputs : List Output}
    (hstep : s.onServerLogin y kind packet newGameData =
      some (s', outputs))
    (hgood : ¬s.FindsAccounts x
      ⟨Event.serverLogin y kind packet newGameData, outputs⟩) :
    s'.Waits x (noteListed x listed
      ⟨Event.serverLogin y kind packet newGameData, outputs⟩) := by
  rcases onServerLogin_cases h hstep with ⟨session, hy, hcase⟩
  have hnoted := consistent_noteKind h kind hy
  have hkeeps : KeepsList s (s.noteKind y session kind) x :=
    noteKind_keepsList hy
  by_cases hxy : y = x
  · subst hxy
    by_cases hsuccess : Output.loginResult y ResultCode.success ∈ outputs
    · rw [noteListed_serverLogin, if_pos ⟨rfl, hsuccess⟩]
      intro session' g hx' hback'
      have hnoted : (s.noteKind y session kind).gameSessions y = some
          { session with
            useAutoReconnectFeature := kind.useAutoReconnectFeature } :=
        Function.update_self _ _ _
      rw [LoginCase.accounts hnoted hcase hx']
      apply Classical.byContradiction
      intro hwaiting
      exact hgood ⟨hsuccess, session, hy, hwaiting⟩
    · rw [noteListed_serverLogin, if_neg fun hboth => hsuccess hboth.right]
      rcases onServerLogin_answered hstep with ⟨result, hmem⟩
      have hrefuses : Refuses y outputs := by
        refine ⟨result, ?_, hmem⟩
        intro heq
        rw [heq] at hmem
        exact hsuccess hmem
      rw [onServerLogin_refused h hy hstep hrefuses]
      exact hwaits.keep hkeeps
  · rw [noteListed_serverLogin, if_neg fun hboth => hxy hboth.left]
    exact hwaits.keep (hkeeps.trans (hcase.keepsList hnoted (Ne.symm hxy)))

theorem Waits.accountList (h : Consistent s) (hwaits : s.Waits x listed)
    {packet : AccountList} {newClients : List Addr} {outputs : List Output}
    (hstep : s.onAccountList y packet newClients = some (s', outputs)) :
    s'.Waits x (noteListed x listed
      ⟨Event.accountList y packet newClients, outputs⟩) := by
  by_cases hxy : y = x
  · subst hxy
    cases onAccountList_cases h hstep with
    | ignored hignored =>
        intro session g hx hback
        rcases hignored with hout | hsize
        · rw [hx, Option.bind_some, hback] at hout
          cases hout
        · have hwrong : packet.wellSized = false := decide_eq_false hsize
          rw [noteListed_accountList, hwrong,
            if_neg fun hboth => Bool.noConfusion hboth.right]
          exact hwaits session g hx hback
    | collected hx hback hsize hfinal =>
        rename_i session g
        have hright : packet.wellSized = true := decide_eq_true hsize
        rw [noteListed_accountList, if_pos ⟨rfl, hright⟩, hfinal]
        intro session' g' hx' hback'
        rw [collect_gameSessions] at hx'
        cases hx'
        rw [← hwaits session g hx hback]
        rfl
    | synchronized hx hback hsize hfinal hforgets hgone hadds hg =>
        have hright : packet.wellSized = true := decide_eq_true hsize
        rw [noteListed_accountList, if_pos ⟨rfl, hright⟩, hfinal]
        intro session' g' hx' hback'
        change Function.update _ y _ y = _ at hx'
        rw [Function.update_self] at hx'
        cases hx'
        rfl
  · rw [noteListed_accountList, if_neg fun hboth => hxy hboth.left]
    apply hwaits.keep
    have hne : x ≠ y := Ne.symm hxy
    cases onAccountList_cases h hstep with
    | ignored hignored => exact KeepsList.of_eq rfl
    | collected hx hback hsize hfinal =>
        exact KeepsList.of_eq (Function.update_of_ne hne _ _)
    | synchronized hx hback hsize hfinal hforgets hgone hadds hg =>
        apply KeepsList.of_eq
        refine (Function.update_of_ne hne _ _).trans ?_
        have hsame := congrFun
          (hadds.gameSessions.trans hforgets.gameSessions) x
        exact hsame.trans (Function.update_of_ne hne _ _)

theorem LogoutCase.keepsList (hcase : LogoutCase s y s') :
    KeepsList s s' x := by
  cases hcase with
  | ignored => exact KeepsList.of_eq rfl
  | closed hy hback hg hforgets hgone =>
      by_cases hxy : x = y
      · subst hxy
        intro session' g' hx' hback'
        change Function.update _ x _ x = _ at hx'
        rw [Function.update_self] at hx'
        cases hx'
        cases hback'
      · apply KeepsList.of_eq
        exact (Function.update_of_ne hxy _ _).trans
          (congrFun hforgets.gameSessions x)

theorem EndCase.keepsList (hcase : EndCase s y s') : KeepsList s s' x := by
  have hgone : forall {gameSessions : Addr -> Option GameServerSession},
      gameSessions x = s.gameSessions x ->
      s'.gameSessions = Function.update gameSessions y none ->
      KeepsList s s' x := by
    intro gameSessions hsame heq
    by_cases hxy : x = y
    · subst hxy
      intro session' g' hx' hback'
      rw [heq, Function.update_self] at hx'
      cases hx'
    · apply KeepsList.of_eq
      rw [heq, Function.update_of_ne hxy]
      exact hsame
  cases hcase with
  | idle hx hnone => exact hgone rfl rfl
  | left hx hback hg => exact hgone rfl rfl
  | closed hx hback hg hforgets hall =>
      exact hgone (congrFun hforgets.gameSessions x) rfl

theorem Waits.handle (h : Consistent s) (hwaits : s.Waits x listed)
    {strictKick : Bool} {event : Event} {outputs : List Output}
    (hstep : s.handle strictKick event = some (s', outputs))
    (hgood : ¬s.FindsAccounts x ⟨event, outputs⟩) :
    s'.Waits x (noteListed x listed ⟨event, outputs⟩) := by
  have keep : s'.gameSessions = s.gameSessions -> s'.Waits x listed := by
    intro heq
    exact hwaits.keep (KeepsList.of_eq (congrFun heq x))
  cases event with
  | clientConnected c =>
      rcases Option.map_eq_some_iff.mp hstep with ⟨next, hnext, hpair⟩
      cases hpair
      rw [clientConnected] at hnext
      split at hnext
      · cases hnext
        exact keep rfl
      · cases hnext
  | accountAuthResult c query newClient =>
      exact keep (clientAuthResult_cases h hstep).gameSessions
  | selectServer c serverIdx oneTimePassword =>
      exact keep (onSelectServer_cases hstep).gameSessions
  | clientDisconnected c =>
      rcases Option.map_eq_some_iff.mp hstep with ⟨next, hnext, hpair⟩
      cases hpair
      rcases onDisconnected_cases h hnext with
        ⟨session, removed, -, hleave, heq⟩
      subst heq
      exact keep hleave.gameSessions
  | clientDestroyed c =>
      rcases Option.map_eq_some_iff.mp hstep with ⟨next, hnext, hpair⟩
      cases hpair
      rcases deleteClientSession_cases h hnext with
        ⟨session, removed, -, hleave, heq⟩
      subst heq
      exact keep hleave.gameSessions
  | gameConnected y =>
      rcases Option.map_eq_some_iff.mp hstep with ⟨next, hnext, hpair⟩
      cases hpair
      rw [gameConnected] at hnext
      split at hnext
      · cases hnext
        rw [noteListed]
        by_cases hxy : y = x
        · subst hxy
          intro session g hx hback
          change Function.update _ y _ y = _ at hx
          rw [Function.update_self] at hx
          cases hx
          cases hback
        · change Waits _ x (if y = x then [] else listed)
          rw [if_neg hxy]
          exact hwaits.keep (KeepsList.of_eq
            (Function.update_of_ne (Ne.symm hxy) _ _))
      · cases hnext
  | serverLogin y kind packet newGameData =>
      exact hwaits.serverLogin h hstep hgood
  | accountList y packet newClients => exact hwaits.accountList h hstep
  | serverLogout y =>
      exact hwaits.keep (onServerLogout_cases h hstep).keepsList
  | clientLogin y packet now =>
      exact keep (onClientLogin_cases hstep).gameSessions
  | clientLogout y account =>
      exact keep (removeNamedClient_cases h hstep).gameSessions
  | clientKickFailed y account =>
      exact keep (removeNamedClient_cases h hstep).gameSessions
  | gameDisconnected y =>
      rcases Option.map_eq_some_iff.mp hstep with ⟨next, hnext, hpair⟩
      cases hpair
      exact hwaits.keep (deleteGameSession_cases h hnext).keepsList

/-!
## Final lists
-/

/-- The accounts of a list are added, or somebody is in their way. -/
theorem Adds.addedOrKicked {accounts : List AccountInfo}
    {newClients : List Addr} {outputs : List Output}
    (hadds : Adds x g accounts newClients s outputs s')
    {accountInfo : AccountInfo} (hmem : accountInfo ∈ accounts) :
    (exists p, s'.clientDatas p = some (listedClientData g accountInfo)) ∨
      (Output.kickClient x accountInfo.name ∈ outputs ∧
        exists q old, s'.clientDatas q = some old ∧
          (old.accountId = accountInfo.data.accountId ∨
            toLower old.account = toLower accountInfo.data.account)) := by
  induction hadds with
  | nil newClients s => cases hmem
  | added hvacant hg later ih =>
      rcases List.mem_cons.mp hmem with hfirst | hrest
      · subst hfirst
        exact Or.inl ⟨_, later.clientDatas (Function.update_self _ _ _)⟩
      · exact ih hrest
  | kicked hold hsame later ih =>
      rcases List.mem_cons.mp hmem with hfirst | hrest
      · subst hfirst
        exact Or.inr ⟨List.mem_cons_self, _, _, later.clientDatas hold,
          hsame⟩
      · rcases ih hrest with hadded | ⟨hkick, hother⟩
        · exact Or.inl hadded
        · exact Or.inr ⟨List.mem_cons_of_mem _ hkick, hother⟩

/-- What is waiting and what the final packet adds is recreated. -/
theorem recreates_of_waits (h : Consistent s) (hwaits : s.Waits x listed)
    {session : GameServerSession} (hx : s.gameSessions x = some session)
    (hback : session.gameData = some g) {packet : AccountList}
    (hsize : packet.wellSized = true) (hfinal : packet.finalPacket = true)
    {newClients : List Addr} {outputs : List Output}
    (hstep : s.onAccountList x packet newClients = some (s', outputs)) :
    Recreates s' outputs x g (listed ++ packet.accounts) := by
  cases onAccountList_cases h hstep with
  | ignored hignored =>
      rcases hignored with hout | hwrong
      · rw [hx, Option.bind_some, hback] at hout
        cases hout
      · exact absurd (of_decide_eq_true hsize) hwrong
  | collected hx' hback' hsize' hopen =>
      rw [hfinal] at hopen
      cases hopen
  | synchronized hx' hback' hsize' hfinal' hforgets hgone hadds hg =>
      rename_i session' g' gameData cleared added
      rw [hx] at hx'
      cases hx'
      rw [hback] at hback'
      cases hback'
      have haccounts : collectedAccounts session packet =
          listed ++ packet.accounts := by
        rw [← hwaits session g hx hback]
        rfl
      rw [haccounts] at hadds
      constructor
      · intro p clientData hp hserver
        change added.clientDatas p = some clientData at hp
        rcases hadds.clientDatas_cases hp with hold | hlisted
        · exact absurd hserver (hgone p clientData hold)
        · exact hlisted
      · intro accountInfo hmem
        exact hadds.addedOrKicked hmem

theorem waits_of_run {strictKick : Bool} {history : List Occurrence}
    (hrun : AuthRun strictKick history s)
    (havoids : Avoids (Step strictKick) AuthState.initial
      (FindsAccounts x) history) :
    s.Waits x (listedSince x history) := by
  have h : Consistent s ∧ s.Waits x (listedSince x history) := by
    apply Run.history_invariant (h := havoids.run hrun)
    · refine ⟨consistent_initial, ?_⟩
      intro session g hx
      cases hx
    · intro earlier mid o next hmid hstep
      refine ⟨consistent_handle hmid.left hstep.left, ?_⟩
      rw [listedSince_snoc]
      exact hmid.right.handle hmid.left hstep.left hstep.right
  exact h.right

/--
While no login of a session finds accounts of an earlier login, a final list
recreates what has arrived since the login or the list before.
-/
theorem recreates_listed {strictKick : Bool} {history : List Occurrence}
    (hrun : AuthRun strictKick history s)
    (havoids : Avoids (Step strictKick) AuthState.initial
      (FindsAccounts x) history) {session : GameServerSession}
    (hx : s.gameSessions x = some session)
    (hback : session.gameData = some g) {packet : AccountList}
    (hsize : packet.wellSized = true) (hfinal : packet.finalPacket = true)
    {newClients : List Addr} {outputs : List Output}
    (hstep : s.handle strictKick
      (Event.accountList x packet newClients) = some (s', outputs)) :
    Recreates s' outputs x g
      (listedSince x history ++ packet.accounts) :=
  recreates_of_waits (AuthRun.consistent hrun) (waits_of_run hrun havoids) hx
    hback hsize hfinal hstep

end AuthState

/-- A list of one account, or the empty list that ends it. -/
def listedAccount (n : UInt8) : AccountInfo where
  account := packetName n
  nAccountID := 7
  nPCBangUser := 0
  nEventCode := 0
  nAge := 0
  ip := Vector.replicate 46 0
  loginTime := 0

def openList : AccountList where
  size := 133
  finalPacket := false
  count := 1
  accountInfo := [listedAccount 97]
  covered := by decide

def endOfList : AccountList where
  size := 9
  finalPacket := true
  count := 0
  accountInfo := []
  covered := Nat.zero_le _

/-- A game server that has logged in and begun its list. -/
def listingHistory : List Occurrence :=
  [⟨Event.gameConnected 1, []⟩,
    ⟨Event.serverLogin 1 LoginKind.loginWithLogout (namelessServer 1) 2,
      [Output.loginResult 1 ResultCode.success]⟩,
    ⟨Event.accountList 1 openList [], []⟩]

theorem listingHistory_avoids :
    Avoids (Step false) AuthState.initial (AuthState.FindsAccounts 1)
      listingHistory := by
  intro before o after s hsplit hrun hfinds
  rcases hfinds with ⟨hsuccess, session, hx, hwaiting⟩
  cases before with
  | nil =>
      cases hsplit
      exact absurd hsuccess List.not_mem_nil
  | cons first before =>
      cases before with
      | nil =>
          cases hsplit
          have hfirst : Run (Step false) AuthState.initial
              [⟨Event.gameConnected 1, []⟩]
              (AuthState.initial.setGameSession 1 ⟨none, false, []⟩) :=
            Run.snoc Run.nil rfl
          have hsame := Run.unique (step_deterministic false) hrun hfirst
          subst hsame
          cases hx
          exact hwaiting rfl
      | cons second before =>
          cases before with
          | nil =>
              cases hsplit
              exact absurd hsuccess List.not_mem_nil
          | cons third before =>
              have hlength := congrArg List.length hsplit
              simp [listingHistory] at hlength

theorem recreates_listed_open :
    exists s s' outputs, AuthRun false listingHistory s ∧
      s.handle false (Event.accountList 1 endOfList [4]) =
        some (s', outputs) ∧
          (s'.clientDatas 4).isSome = true ∧
            AuthState.Recreates s' outputs 1 2
              (listedSince 1 listingHistory ++ endOfList.accounts) := by
  have hreplay : (replay (nextStep false) AuthState.initial
      (listingHistory.map Occurrence.event)).map (fun result =>
        (result.1, (result.2.gameSessions 1).bind GameServerSession.gameData,
          (result.2.handle false
            (Event.accountList 1 endOfList [4])).map fun handled =>
              (handled.1.clientDatas 4).isSome)) =
        some (listingHistory, some 2, some true) := by
    decide +kernel
  rcases Option.map_eq_some_iff.mp hreplay with ⟨⟨history, s⟩, heq, hpair⟩
  have hhistory : history = listingHistory := congrArg Prod.fst hpair
  have hsession : (s.gameSessions 1).bind GameServerSession.gameData =
      some 2 := congrArg (fun triple => triple.2.1) hpair
  have hhandled := congrArg (fun triple => triple.2.2) hpair
  rcases Option.bind_eq_some_iff.mp hsession with ⟨session, hx, hback⟩
  rcases Option.map_eq_some_iff.mp hhandled with
    ⟨⟨s', outputs⟩, hstep, hlive⟩
  subst hhistory
  have hrun := replay_run (nextStep_step false) Run.nil heq
  exact ⟨s, s', outputs, hrun, hstep, hlive, AuthState.recreates_listed hrun
    listingHistory_avoids hx hback rfl rfl hstep⟩

/-- The server logs out and in again before its list has ended. -/
def abandonedEvents : List Event :=
  listingHistory.map Occurrence.event ++
    [Event.serverLogout 1,
      Event.serverLogin 1 LoginKind.loginWithLogout (namelessServer 1) 2]

theorem abandoned_list_recreated :
    ¬forall strictKick history s x session g packet newClients s' outputs,
      AuthRun strictKick history s -> s.gameSessions x = some session ->
        session.gameData = some g -> packet.wellSized = true ->
          packet.finalPacket = true ->
            s.handle strictKick (Event.accountList x packet newClients) =
              some (s', outputs) ->
            AuthState.Recreates s' outputs x g
              (listedSince x history ++ packet.accounts) := by
  intro h
  have hreplay : (replay (nextStep false) AuthState.initial
      abandonedEvents).map (fun result =>
        (listedSince 1 result.1 ++ endOfList.accounts,
          (result.2.gameSessions 1).bind GameServerSession.gameData,
          (result.2.handle false
            (Event.accountList 1 endOfList [4])).map fun handled =>
              (handled.1.clientDatas 4).bind ClientData.server)) =
        some ([], some 2, some (some 2)) := by
    decide +kernel
  rcases Option.map_eq_some_iff.mp hreplay with ⟨⟨history, s⟩, heq, hpair⟩
  have hlisted : listedSince 1 history ++ endOfList.accounts = [] :=
    congrArg Prod.fst hpair
  have hsession : (s.gameSessions 1).bind GameServerSession.gameData =
      some 2 := congrArg (fun triple => triple.2.1) hpair
  have hhandled := congrArg (fun triple => triple.2.2) hpair
  rcases Option.bind_eq_some_iff.mp hsession with ⟨session, hx, hback⟩
  rcases Option.map_eq_some_iff.mp hhandled with
    ⟨⟨s', outputs⟩, hstep, hbound⟩
  rcases Option.bind_eq_some_iff.mp hbound with ⟨clientData, hp, hserver⟩
  have hrecreates := h false history s 1 session 2 endOfList [4] s' outputs
    (replay_run (nextStep_step false) Run.nil heq) hx hback rfl rfl hstep
  rcases hrecreates.only 4 clientData hp hserver with
    ⟨accountInfo, hmem, -⟩
  rw [hlisted] at hmem
  cases hmem

end Auth
end Rzu
