import Mathlib.Data.Set.Card
import Rzu.Auth.Ownership

/-!
# Player counts

A game server counts the clients that are in game on it.  How far its count is
off is left alone by whatever adds or removes a client.
-/

namespace Rzu
namespace Auth

open Library

namespace AuthState

/-- The clients that are in game on a server. -/
def players (s : AuthState) (g : Addr) : Set Addr :=
  { p | exists clientData, s.clientDatas p = some clientData ∧
    clientData.server = some g ∧ clientData.inGame = true }

/-- A live server counts its players, and this many more. -/
def Surplus (s : AuthState) (g : Addr) (surplus : UInt32) : Prop :=
  exists gameData, s.gameDatas g = some gameData ∧
    gameData.playerCount = surplus + UInt32.ofNat (s.players g).ncard

variable {s s' : AuthState}

theorem players_finite (h : Consistent s) (g : Addr) :
    (s.players g).Finite := by
  apply (s.connectedClients.entries.map Sigma.snd).finite_toSet.subset
  intro p hp
  rcases hp with ⟨clientData, hp, -⟩
  have hmem := AList.mem_lookup_iff.mp (h.clients.toId hp)
  exact List.mem_map_of_mem (f := Sigma.snd) hmem

theorem mem_players {g p : Addr} {clientData : ClientData}
    (hp : s.clientDatas p = some clientData) :
    p ∈ s.players g ↔
      clientData.server = some g ∧ clientData.inGame = true := by
  constructor
  · intro hmem
    rcases hmem with ⟨found, hfound, hplays⟩
    rw [hp] at hfound
    cases hfound
    exact hplays
  · intro hplays
    exact ⟨clientData, hp, hplays⟩

theorem players_forget (p : Addr) (clientData : ClientData) (g : Addr) :
    (s.forget p clientData).players g = s.players g \ {p} := by
  ext q
  constructor
  · intro hq
    rcases hq with ⟨found, hfound, hplays⟩
    rcases forget_clientDatas_eq_some hfound with ⟨hne, hold⟩
    exact ⟨⟨found, hold, hplays⟩, hne⟩
  · intro hq
    rcases hq with ⟨⟨found, hold, hplays⟩, hne⟩
    exact ⟨found, (Function.update_of_ne hne _ _).trans hold, hplays⟩

theorem players_update {p g : Addr} {clientData : ClientData}
    (hclients : s'.clientDatas =
      Function.update s.clientDatas p (some clientData))
    (hserver : clientData.server = some g) (hgame : clientData.inGame = true) :
    s'.players g = insert p (s.players g) := by
  ext q
  constructor
  · intro hq
    rcases hq with ⟨found, hfound, hplays⟩
    rw [hclients] at hfound
    rcases update_eq_some hfound with ⟨heq, -⟩ | ⟨-, hold⟩
    · exact Or.inl heq
    · exact Or.inr ⟨found, hold, hplays⟩
  · intro hq
    rw [players, Set.mem_ofPred_eq, hclients]
    by_cases hqp : q = p
    · subst hqp
      exact ⟨clientData, Function.update_self _ _ _, hserver, hgame⟩
    · rcases hq.resolve_left hqp with ⟨found, hold, hplays⟩
      exact ⟨found, (Function.update_of_ne hqp _ _).trans hold, hplays⟩

theorem surplus_forget (h : Consistent s) {p g : Addr}
    {clientData : ClientData} (hp : s.clientDatas p = some clientData)
    {surplus : UInt32} (hsurplus : s.Surplus g surplus) :
    (s.forget p clientData).Surplus g surplus := by
  rcases hsurplus with ⟨gameData, hg, hcount⟩
  rw [Surplus, players_forget]
  by_cases hplays : p ∈ s.players g
  · rcases (mem_players hp).mp hplays with ⟨hserver, hgame⟩
    refine ⟨gameData.decPlayerCount, ?_, ?_⟩
    · rw [forget, gameDatasWithout, hserver, hgame]
      simp only [if_pos, Function.update_self, hg, Option.map_some]
    · have hcard := Set.ncard_sdiff_singleton_add_one hplays
        (players_finite h g)
      rw [GameData.decPlayerCount, hcount, ← hcard, UInt32.ofNat_add]
      simp [← UInt32.add_assoc]
  · refine ⟨gameData, ?_, ?_⟩
    · rw [forget, gameDatasWithout]
      split
      · rename_i g' hserver
        split
        · rename_i hgame
          have hne : g ≠ g' := by
            intro heq
            subst heq
            exact hplays ((mem_players hp).mpr ⟨hserver, hgame⟩)
          exact (Function.update_of_ne hne _ _).trans hg
        · exact hg
      · exact hg
    · rw [Set.sdiff_singleton_eq_self hplays]
      exact hcount

theorem surplus_of_insert (h : Consistent s) {p g : Addr}
    {gameData : GameData} {clientData : ClientData} {surplus : UInt32}
    (hclients : s'.clientDatas =
      Function.update s.clientDatas p (some clientData))
    (hgames : s'.gameDatas =
      Function.update s.gameDatas g (some gameData.incPlayerCount))
    (hg : s.gameDatas g = some gameData)
    (hserver : clientData.server = some g) (hgame : clientData.inGame = true)
    (hnew : p ∉ s.players g) (hsurplus : s.Surplus g surplus) :
    s'.Surplus g surplus := by
  rcases hsurplus with ⟨found, hfound, hcount⟩
  rw [hg] at hfound
  cases hfound
  refine ⟨gameData.incPlayerCount, ?_, ?_⟩
  · rw [hgames]
    exact Function.update_self _ _ _
  · rw [players_update hclients hserver hgame,
      Set.ncard_insert_of_notMem hnew (players_finite h g),
      GameData.incPlayerCount, hcount, UInt32.ofNat_add, UInt32.add_assoc]
    rfl

theorem surplus_registerInGame (h : Consistent s) {p g : Addr}
    {gameData : GameData} {accountInfo : AccountInfo}
    (hvacant : Vacant s p accountInfo.data)
    (hg : s.gameDatas g = some gameData) {surplus : UInt32}
    (hsurplus : s.Surplus g surplus) :
    (s.registerInGame p g gameData
      (listedClientData g accountInfo)).Surplus g surplus := by
  apply surplus_of_insert h rfl rfl hg rfl rfl _ hsurplus
  intro hmem
  rcases hmem with ⟨found, hfound, -⟩
  rw [hvacant.free] at hfound
  cases hfound

/-!
## Servers that count right
-/

/-- Every live server counts its players. -/
def Counted (s : AuthState) : Prop :=
  forall g gameData, s.gameDatas g = some gameData ->
    gameData.playerCount = UInt32.ofNat (s.players g).ncard

theorem Counted.surplus (h : s.Counted) {g : Addr} {gameData : GameData}
    (hg : s.gameDatas g = some gameData) : s.Surplus g 0 :=
  ⟨gameData, hg, (h g gameData hg).trans (UInt32.zero_add _).symm⟩

theorem counted_of_surplus
    (h : forall g gameData, s.gameDatas g = some gameData ->
      s.Surplus g 0) : s.Counted := by
  intro g gameData hg
  rcases h g gameData hg with ⟨found, hfound, hcount⟩
  rw [hg] at hfound
  cases hfound
  rw [hcount, UInt32.zero_add]

theorem Counted.frame (h : s.Counted)
    (hplayers : forall g, s'.players g = s.players g)
    (hgames : forall g gameData', s'.gameDatas g = some gameData' ->
      exists gameData, s.gameDatas g = some gameData ∧
        gameData'.playerCount = gameData.playerCount) :
    s'.Counted := by
  intro g gameData' hg'
  rcases hgames g gameData' hg' with ⟨gameData, hg, hcount⟩
  rw [hcount, hplayers]
  exact h g gameData hg

theorem counted_initial : AuthState.initial.Counted := by
  intro g gameData hg
  cases hg

theorem counted_forget (h : Consistent s) (hcounted : s.Counted)
    {p : Addr} {clientData : ClientData}
    (hp : s.clientDatas p = some clientData) :
    (s.forget p clientData).Counted := by
  apply counted_of_surplus
  intro g gameData' hg'
  rcases (sameServers_without s clientData).symm.exists_some hg' with
    ⟨gameData, hg, -⟩
  exact surplus_forget h hp (hcounted.surplus hg)

theorem players_update_outside {p : Addr} {clientData : ClientData}
    (hclients : s'.clientDatas =
      Function.update s.clientDatas p (some clientData))
    (hgame : clientData.inGame = false)
    (hold : forall found, s.clientDatas p = some found ->
      found.inGame = false) (g : Addr) :
    s'.players g = s.players g := by
  ext q
  constructor
  · intro hq
    rcases hq with ⟨found, hfound, hserver, hplays⟩
    rw [hclients] at hfound
    rcases update_eq_some hfound with ⟨-, hnew⟩ | ⟨-, hsame⟩
    · cases hnew
      rw [hgame] at hplays
      cases hplays
    · exact ⟨found, hsame, hserver, hplays⟩
  · intro hq
    rcases hq with ⟨found, hfound, hserver, hplays⟩
    have hne : q ≠ p := by
      intro heq
      subst heq
      rw [hold found hfound] at hplays
      cases hplays
    refine ⟨found, ?_, hserver, hplays⟩
    rw [hclients]
    exact (Function.update_of_ne hne _ _).trans hfound

theorem players_of_clientDatas (h : s'.clientDatas = s.clientDatas)
    (g : Addr) : s'.players g = s.players g := by
  rw [players, h]
  rfl

theorem counted_handOver (h : Consistent s) (hcounted : s.Counted)
    {c p g : Addr} {session : ClientSession} {clientData : ClientData}
    (oneTimePassword : UInt64) (hp : s.clientDatas p = some clientData)
    (howner : clientData.client = some c) :
    (s.handOver c p g session clientData oneTimePassword).Counted := by
  have houtside : clientData.inGame = false := by
    cases hgame : clientData.inGame with
    | false => rfl
    | true =>
        rcases Option.isSome_iff_exists.mp
          (h.lobby.server_of_inGame hp hgame) with ⟨g', hserver⟩
        rw [h.lobby.none_of_server hp hserver] at howner
        cases howner
  apply hcounted.frame
  · refine players_update_outside rfl ?_ ?_
    · exact houtside
    · intro found hfound
      rw [hp] at hfound
      cases hfound
      exact houtside
  · intro g' gameData' hg'
    exact ⟨gameData', hg', rfl⟩

theorem counted_requestKick (hcounted : s.Counted) {p : Addr}
    {clientData : ClientData} (hp : s.clientDatas p = some clientData) :
    (s.requestKick p clientData).Counted := by
  apply hcounted.frame
  · intro g
    ext q
    constructor
    · intro hq
      rcases hq with ⟨found, hfound, hplays⟩
      rcases update_eq_some hfound with ⟨heq, hnew⟩ | ⟨-, hold⟩
      · cases hnew
        exact ⟨clientData, heq ▸ hp, hplays⟩
      · exact ⟨found, hold, hplays⟩
    · intro hq
      rcases hq with ⟨found, hfound, hplays⟩
      by_cases hqp : q = p
      · subst hqp
        rw [hp] at hfound
        cases hfound
        exact ⟨_, Function.update_self _ _ _, hplays⟩
      · exact ⟨found, (Function.update_of_ne hqp _ _).trans hfound, hplays⟩
  · intro g gameData' hg'
    exact ⟨gameData', hg', rfl⟩

theorem counted_of_insert (h : Consistent s) (hcounted : s.Counted)
    {p g : Addr} {gameData : GameData} {clientData : ClientData}
    (hclients : s'.clientDatas =
      Function.update s.clientDatas p (some clientData))
    (hgames : s'.gameDatas =
      Function.update s.gameDatas g (some gameData.incPlayerCount))
    (hg : s.gameDatas g = some gameData)
    (hserver : clientData.server = some g) (hgame : clientData.inGame = true)
    (hold : forall found, s.clientDatas p = some found ->
      found.server = some g ∧ found.inGame = false) :
    s'.Counted := by
  apply counted_of_surplus
  intro g' gameData' hg'
  rw [hgames] at hg'
  rcases update_eq_some hg' with ⟨heq, -⟩ | ⟨hne, hlive⟩
  · subst heq
    apply surplus_of_insert h hclients hgames hg hserver hgame _
      (hcounted.surplus hg)
    intro hmem
    rcases hmem with ⟨found, hfound, -, hplays⟩
    rw [(hold found hfound).right] at hplays
    cases hplays
  · have hplayers : s'.players g' = s.players g' := by
      ext q
      constructor
      · intro hq
        rcases hq with ⟨found, hfound, hbound, hplays⟩
        rw [hclients] at hfound
        rcases update_eq_some hfound with ⟨-, hnew⟩ | ⟨-, hsame⟩
        · cases hnew
          rw [hserver] at hbound
          cases hbound
          exact absurd rfl hne
        · exact ⟨found, hsame, hbound, hplays⟩
      · intro hq
        rcases hq with ⟨found, hfound, hbound, hplays⟩
        have hqp : q ≠ p := by
          intro heq
          subst heq
          rw [(hold found hfound).right] at hplays
          cases hplays
        refine ⟨found, ?_, hbound, hplays⟩
        rw [hclients]
        exact (Function.update_of_ne hqp _ _).trans hfound
    rcases hcounted.surplus hlive with ⟨found, hfound, hcount⟩
    refine ⟨found, ?_, ?_⟩
    · rw [hgames]
      exact (Function.update_of_ne hne _ _).trans hfound
    · rw [hplayers]
      exact hcount

theorem counted_registerInGame (h : Consistent s) (hcounted : s.Counted)
    {p g : Addr} {gameData : GameData} {accountInfo : AccountInfo}
    (hvacant : Vacant s p accountInfo.data)
    (hg : s.gameDatas g = some gameData) :
    (s.registerInGame p g gameData
      (listedClientData g accountInfo)).Counted := by
  apply counted_of_insert h hcounted rfl rfl hg rfl rfl
  intro found hfound
  rw [hvacant.free] at hfound
  cases hfound

theorem counted_enterGame (h : Consistent s) (hcounted : s.Counted)
    {p g : Addr} {clientData : ClientData} {gameData : GameData}
    (hp : s.clientDatas p = some clientData)
    (hserver : clientData.server = some g)
    (hg : s.gameDatas g = some gameData)
    (houtside : clientData.inGame = false) (now : Int64) :
    (s.enterGame p g clientData gameData now).Counted := by
  apply counted_of_insert h hcounted rfl rfl hg
  · exact hserver
  · rfl
  · intro found hfound
    rw [hp] at hfound
    cases hfound
    exact ⟨hserver, houtside⟩

theorem Forgets.surplus {g g' : Addr} (hforgets : Forgets g s s')
    (h : Consistent s) {surplus : UInt32}
    (hsurplus : s.Surplus g' surplus) : s'.Surplus g' surplus := by
  induction hforgets with
  | refl s => exact hsurplus
  | step hp hserver rest ih =>
      exact ih (consistent_forget h hp) (surplus_forget h hp hsurplus)

theorem Forgets.counted {g : Addr} (hforgets : Forgets g s s')
    (h : Consistent s) (hcounted : s.Counted) : s'.Counted := by
  induction hforgets with
  | refl s => exact hcounted
  | step hp hserver rest ih =>
      exact ih (consistent_forget h hp) (counted_forget h hcounted hp)

theorem Adds.surplus {x g : Addr} {accounts : List AccountInfo}
    {newClients : List Addr} {outputs : List Output}
    (hadds : Adds x g accounts newClients s outputs s')
    (h : Consistent s) {surplus : UInt32} (hsurplus : s.Surplus g surplus) :
    s'.Surplus g surplus := by
  induction hadds with
  | nil newClients s => exact hsurplus
  | added hvacant hg later ih =>
      exact ih (consistent_registerInGame h hvacant hg)
        (surplus_registerInGame h hvacant hg hsurplus)
  | kicked hold hsame later ih => exact ih h hsurplus

theorem Adds.players_ncard {x g : Addr} {accounts : List AccountInfo}
    {newClients : List Addr} {outputs : List Output}
    (hadds : Adds x g accounts newClients s outputs s')
    (h : Consistent s) (hunclaimed : Unclaimed s accounts) :
    (s'.players g).ncard = (s.players g).ncard + accounts.length := by
  induction hadds with
  | nil newClients s => rfl
  | added hvacant hg later ih =>
      rename_i accountInfo rest p newClients s s' gameData outputs
      have hnew : p ∉ s.players g := by
        intro hmem
        rcases hmem with ⟨found, hfound, -⟩
        rw [hvacant.free] at hfound
        cases hfound
      have hplayers : (s.registerInGame p g gameData
          (listedClientData g accountInfo)).players g =
            insert p (s.players g) := players_update rfl rfl rfl
      rw [ih (consistent_registerInGame h hvacant hg)
        (hunclaimed.registerInGame _ _ _), hplayers,
        Set.ncard_insert_of_notMem hnew (players_finite h g),
        List.length_cons]
      lia
  | kicked hold hsame later ih =>
      rcases hunclaimed.others _ List.mem_cons_self _ _ hold with
        ⟨hid, hname⟩
      rcases hsame with heq | heq
      · exact absurd heq hid
      · exact absurd heq hname

theorem Adds.counted {x g : Addr} {accounts : List AccountInfo}
    {newClients : List Addr} {outputs : List Output}
    (hadds : Adds x g accounts newClients s outputs s')
    (h : Consistent s) (hcounted : s.Counted) : s'.Counted := by
  induction hadds with
  | nil newClients s => exact hcounted
  | added hvacant hg later ih =>
      exact ih (consistent_registerInGame h hvacant hg)
        (counted_registerInGame h hcounted hvacant hg)
  | kicked hold hsame later ih => exact ih h hcounted

theorem Counted.updateServer (hcounted : s.Counted) {g : Addr}
    {gameData gameData' : GameData} (hg : s.gameDatas g = some gameData)
    (hcount : gameData'.playerCount = gameData.playerCount)
    (hclients : s'.clientDatas = s.clientDatas)
    (hgames : s'.gameDatas =
      Function.update s.gameDatas g (some gameData')) :
    s'.Counted := by
  apply hcounted.frame (players_of_clientDatas hclients)
  intro g' found hfound
  rw [hgames] at hfound
  rcases update_eq_some hfound with ⟨heq, hnew⟩ | ⟨-, hsame⟩
  · cases hnew
    exact ⟨gameData, heq ▸ hg, hcount⟩
  · exact ⟨found, hsame, rfl⟩

theorem LoginCase.counted (h : Consistent s) (hcounted : s.Counted)
    {x newGameData : Addr} {kind : LoginKind} {packet : ServerLogin}
    (hcase : LoginCase s x kind packet newGameData s') : s'.Counted := by
  cases hcase with
  | refused => exact hcounted
  | opened hx hnone hfree hindex =>
      intro g gameData hg
      change gameData.playerCount = UInt32.ofNat (s.players g).ncard
      rcases update_eq_some hg with ⟨heq, hnew⟩ | ⟨-, hold⟩
      · cases hnew
        subst heq
        have hempty : s.players g = ∅ := by
          ext p
          constructor
          · intro hp
            rcases hp with ⟨clientData, hp, hserver, -⟩
            rcases h.bound.server hp hserver with ⟨found, hfound⟩
            rw [hfree] at hfound
            cases hfound
          · intro hp
            cases hp
        rw [hempty, Set.ncard_empty]
        rfl
      · exact hcounted g gameData hold
  | takenOver hx hnone hg =>
      rename_i session g gameData
      have hreleased : (s.release g gameData).Counted := by
        rw [release]
        split
        · exact hcounted
        · refine hcounted.updateServer hg ?_ rfl rfl
          rfl
      refine hreleased.updateServer (release_gameDatas hg) ?_ rfl rfl
      rfl

theorem counted_closeServer {g : Addr} (hcounted : s.Counted)
    (hclients : s'.clientDatas = s.clientDatas)
    (hgames : s'.gameDatas = Function.update s.gameDatas g none) :
    s'.Counted := by
  apply hcounted.frame (players_of_clientDatas hclients)
  intro g' found hfound
  rw [hgames] at hfound
  rcases update_eq_some hfound with ⟨-, hnew⟩ | ⟨-, hsame⟩
  · cases hnew
  · exact ⟨found, hsame, rfl⟩

theorem LeaveCase.counted (h : Consistent s) (hcounted : s.Counted)
    {session : ClientSession} (hcase : LeaveCase s session s') :
    s'.Counted := by
  cases hcase with
  | idle hnone => exact hcounted
  | owner hpointer hp => exact counted_forget h hcounted hp

theorem EvictCase.counted (h : Consistent s) (hcounted : s.Counted)
    {p : Addr} {old : ClientData} (hp : s.clientDatas p = some old)
    (hcase : EvictCase s p old s') : s'.Counted := by
  cases hcase with
  | kept => exact hcounted
  | removed hserver => exact counted_forget h hcounted hp
  | kickRequested hserver hgame => exact counted_requestKick hcounted hp

theorem AccountListCase.counted (h : Consistent s) (hcounted : s.Counted)
    {x : Addr} {packet : AccountList} {newClients : List Addr}
    {outputs : List Output}
    (hcase : AccountListCase s x packet newClients s' outputs) :
    s'.Counted := by
  cases hcase with
  | ignored hignored => exact hcounted
  | collected hx hback hsize hfinal => exact hcounted
  | synchronized hx hback hsize hfinal hforgets hgone hadds hg =>
      have hcollected := consistent_collect h packet hx
      have hcleared := hforgets.counted hcollected hcounted
      have hadded := hadds.counted (hforgets.consistent hcollected) hcleared
      refine hadded.updateServer hg ?_ rfl rfl
      rfl

/-- The counts stay right as long as sessions hand over their own client. -/
theorem counted_handle (h : Consistent s) (hcounted : s.Counted)
    {strictKick : Bool} {event : Event} {outputs : List Output}
    (hown : s.selectsForeignClient event = false)
    (hstep : s.handle strictKick event = some (s', outputs)) :
    s'.Counted := by
  cases event with
  | clientConnected c =>
      rcases Option.map_eq_some_iff.mp hstep with ⟨next, hnext, hpair⟩
      cases hpair
      unfold clientConnected at hnext
      split at hnext
      · cases hnext
        exact hcounted
      · cases hnext
  | accountAuthResult c query newClient =>
      cases clientAuthResult_cases h hstep with
      | refused hrefused => exact hcounted
      | authenticated hc hnone hvacant =>
          apply hcounted.frame
          · apply players_update_outside rfl rfl
            intro found hfound
            rw [hvacant.free] at hfound
            cases hfound
          · intro g gameData hg
            exact ⟨gameData, hg, rfl⟩
      | conflict hq hsame hevict hrefused =>
          exact hevict.counted h hcounted hq
  | selectServer c serverIdx oneTimePassword =>
      cases onSelectServer_cases hstep with
      | refused hnone => exact hcounted
      | handedOver hc hpointer hp hg =>
          apply counted_handOver h hcounted oneTimePassword hp
          rw [selectsForeignClient,
            selection_handedOver hc hpointer hp hg] at hown
          exact not_not.mp (of_decide_eq_false hown)
  | clientDisconnected c =>
      rcases Option.map_eq_some_iff.mp hstep with ⟨next, hnext, hpair⟩
      cases hpair
      rcases onDisconnected_cases h hnext with
        ⟨session, removed, hc, hcase, heq⟩
      subst heq
      have hremoved := hcase.counted h hcounted
      exact hremoved
  | clientDestroyed c =>
      rcases Option.map_eq_some_iff.mp hstep with ⟨next, hnext, hpair⟩
      cases hpair
      rcases deleteClientSession_cases h hnext with
        ⟨session, removed, hc, hcase, heq⟩
      subst heq
      have hremoved := hcase.counted h hcounted
      exact hremoved
  | gameConnected x =>
      rcases Option.map_eq_some_iff.mp hstep with ⟨next, hnext, hpair⟩
      cases hpair
      unfold gameConnected at hnext
      split at hnext
      · cases hnext
        exact hcounted
      · cases hnext
  | serverLogin x kind packet newGameData =>
      rcases onServerLogin_cases h hstep with ⟨session, hx, hcase⟩
      exact hcase.counted (consistent_noteKind h kind hx) hcounted
  | accountList x packet newClients =>
      exact (onAccountList_cases h hstep).counted h hcounted
  | serverLogout x =>
      cases onServerLogout_cases h hstep with
      | ignored => exact hcounted
      | closed hx hback hg hforgets hgone =>
          exact counted_closeServer (hforgets.counted h hcounted) rfl rfl
  | clientLogin x packet now =>
      cases onClientLogin_cases hstep with
      | refused hresult => exact hcounted
      | entered hx hback hname hp hg henter hresult =>
          exact counted_enterGame h hcounted hp henter.server hg
            henter.outside now
  | clientLogout x account =>
      cases removeNamedClient_cases h hstep with
      | ignored => exact hcounted
      | removed hx hback hname hp => exact counted_forget h hcounted hp
  | clientKickFailed x account =>
      cases removeNamedClient_cases h hstep with
      | ignored => exact hcounted
      | removed hx hback hname hp => exact counted_forget h hcounted hp
  | gameDisconnected x =>
      rcases Option.map_eq_some_iff.mp hstep with ⟨next, hnext, hpair⟩
      cases hpair
      cases deleteGameSession_cases h hnext with
      | idle hx hnone => exact hcounted
      | left hx hback hg =>
          refine hcounted.updateServer hg ?_ rfl rfl
          rfl
      | closed hx hback hg hforgets hgone =>
          exact counted_closeServer (hforgets.counted h hcounted) rfl rfl

end AuthState

theorem counted_of_own_selections {strictKick : Bool}
    {history : List Occurrence} {s : AuthState}
    (hrun : AuthRun strictKick history s)
    (hown : Avoids (Step strictKick) AuthState.initial SelectsForeignClient
      history) :
    s.Counted := by
  have hinvariant : Consistent s ∧ s.Counted := by
    apply Run.invariant _ _ (hown.run hrun)
    · exact ⟨consistent_initial, AuthState.counted_initial⟩
    · intro mid l next hmid hstep
      exact ⟨AuthState.consistent_handle hmid.left hstep.left,
        AuthState.counted_handle hmid.left hmid.right
          (Bool.eq_false_iff.mpr hstep.right) hstep.left⟩
  exact hinvariant.right

/-!
## Exact counts
-/

namespace AuthState

/-- The registered clients that are in game on a server. -/
def registeredPlayers (s : AuthState) (g : Addr) : Set Addr :=
  { p | exists accountId clientData,
    s.connectedClients.lookup accountId = some p ∧
      s.clientDatas p = some clientData ∧
      clientData.server = some g ∧ clientData.inGame = true }

/-- What the count of players is for. -/
structure PlayersExact (s : AuthState) : Prop where
  counted : forall serverIdx g, s.servers.lookup serverIdx = some g ->
    exists gameData, s.gameDatas g = some gameData ∧
      gameData.playerCount.toNat = (s.registeredPlayers g).ncard
  /-- Losing any of the players, one by one, stops at zero at the earliest. -/
  noUnderflow : forall g gameData, s.gameDatas g = some gameData ->
    forall leaving : List Addr, leaving.Nodup ->
      (forall p, p ∈ leaving -> p ∈ s.registeredPlayers g) ->
        leaving.length ≤ gameData.playerCount.toNat
  bound : forall accountId p clientData g,
    s.connectedClients.lookup accountId = some p ->
      s.clientDatas p = some clientData -> clientData.server = some g ->
        exists serverIdx, s.servers.lookup serverIdx = some g

variable {s : AuthState}

theorem registeredPlayers_eq (h : Consistent s) (g : Addr) :
    s.registeredPlayers g = s.players g := by
  ext p
  constructor
  · intro hp
    rcases hp with ⟨accountId, clientData, -, hlive, hplays⟩
    exact ⟨clientData, hlive, hplays⟩
  · intro hp
    rcases hp with ⟨clientData, hlive, hplays⟩
    exact ⟨clientData.accountId, clientData, h.clients.toId hlive, hlive,
      hplays⟩

theorem players_ncard_le (h : Consistent s) (g : Addr) :
    (s.players g).ncard ≤ s.connectedClients.entries.length := by
  have hsub : s.players g ⊆
      ((s.connectedClients.entries.map Sigma.snd).toFinset : Set Addr) := by
    intro p hp
    rcases hp with ⟨clientData, hp, -⟩
    have hmem := AList.mem_lookup_iff.mp (h.clients.toId hp)
    rw [Finset.mem_coe, List.mem_toFinset]
    exact List.mem_map_of_mem (f := Sigma.snd) hmem
  have hcard := Set.ncard_le_ncard hsub (Finset.finite_toSet _)
  rw [Set.ncard_coe_finset] at hcard
  apply hcard.trans
  have hlength := List.toFinset_card_le
    (s.connectedClients.entries.map Sigma.snd)
  rw [List.length_map] at hlength
  exact hlength

theorem Counted.toNat (hcounted : s.Counted) (h : Consistent s)
    (hroom : s.connectedClients.entries.length < 2 ^ 32) {g : Addr}
    {gameData : GameData} (hg : s.gameDatas g = some gameData) :
    gameData.playerCount.toNat = (s.players g).ncard := by
  rw [hcounted g gameData hg]
  exact UInt32.toNat_ofNat_of_lt'
    (Nat.lt_of_le_of_lt (players_ncard_le h g) hroom)

theorem Counted.exact (hcounted : s.Counted) (h : Consistent s)
    (hroom : s.connectedClients.entries.length < 2 ^ 32) :
    s.PlayersExact where
  counted := by
    intro serverIdx g hindex
    rcases h.servers.ofIdx hindex with ⟨gameData, hg, -⟩
    rw [registeredPlayers_eq h]
    exact ⟨gameData, hg, hcounted.toNat h hroom hg⟩
  noUnderflow := by
    intro g gameData hg leaving hnodup hleaving
    rw [hcounted.toNat h hroom hg, ← List.toFinset_card_of_nodup hnodup,
      ← Set.ncard_coe_finset]
    apply Set.ncard_le_ncard _ (players_finite h g)
    intro p hp
    rw [Finset.mem_coe, List.mem_toFinset] at hp
    rw [← registeredPlayers_eq h]
    exact hleaving p hp
  bound := by
    intro accountId p clientData g hindex hp hserver
    rcases h.bound.server hp hserver with ⟨gameData, hg⟩
    exact ⟨gameData.info.serverIdx, h.servers.toIdx hg⟩

end AuthState

/-- Player counts are exact in a run without foreign selections. -/
theorem playersExact_of_own_selections {strictKick : Bool}
    {history : List Occurrence} {s : AuthState}
    (hrun : AuthRun strictKick history s)
    (hown : Avoids (Step strictKick) AuthState.initial SelectsForeignClient
      history)
    (hroom : s.connectedClients.entries.length < 2 ^ 32) :
    s.PlayersExact :=
  (counted_of_own_selections hrun hown).exact hrun.consistent hroom

/-- Refuse the selections that hand over client data of somebody else. -/
def nextOwnStep (strictKick : Bool) (s : AuthState) (event : Event) :
    Option (Occurrence × AuthState) :=
  if s.selectsForeignClient event then none else nextStep strictKick s event

theorem nextOwnStep_step (strictKick : Bool) (s : AuthState) (event : Event)
    (o : Occurrence) (s' : AuthState)
    (hnext : nextOwnStep strictKick s event = some (o, s')) :
    Step strictKick s o s' ∧ ¬SelectsForeignClient s o := by
  unfold nextOwnStep at hnext
  split at hnext
  · cases hnext
  · rename_i hown
    refine ⟨nextStep_step strictKick s event o s' hnext, ?_⟩
    rcases Option.map_eq_some_iff.mp hnext with ⟨handled, -, hpair⟩
    cases hpair
    exact hown

/-- A player enters the game, and its server counts it. -/
theorem playersExact_of_own_selections_player :
    exists history s, AuthRun false history s ∧
      (s.gameDatas 2).map GameData.playerCount = some 1 ∧
        s.PlayersExact := by
  have hreplay : (replay (nextOwnStep false) AuthState.initial
      (lobbyEvents ++ [Event.selectServer 3 1 99,
        Event.clientLogin 1 ⟨packetName 97, 99⟩ 0])).map (fun result =>
          ((result.2.gameDatas 2).map GameData.playerCount,
            result.2.connectedClients.entries.length)) =
      some (some 1, 1) := by
    decide +kernel
  rcases Option.map_eq_some_iff.mp hreplay with ⟨⟨history, s⟩, heq, hpair⟩
  rcases Prod.ext_iff.mp hpair with ⟨hcount, hlength⟩
  have hown := replay_run (nextOwnStep_step false) Run.nil heq
  have hrun := hown.mono fun hallowed => hallowed.left
  refine ⟨history, s, hrun, hcount,
    playersExact_of_own_selections hrun
      (Avoids.of_run (step_deterministic false) hown) ?_⟩
  change s.connectedClients.entries.length = 1 at hlength
  rw [hlength]
  decide

/-- A session selects for an account that took the place of its own. -/
def foreignPlayerEvents : List Event :=
  lobbyEvents ++
    [Event.gameConnected 6,
      Event.serverLogin 6 LoginKind.login (namelessServer 2) 7,
      Event.clientLogout 1 (packetName 97),
      Event.clientConnected 5,
      Event.accountAuthResult 5 (acceptedQuery 98 8) 4,
      Event.selectServer 5 1 99,
      Event.clientLogin 1 ⟨packetName 98, 99⟩ 0,
      Event.selectServer 3 2 98]

/-- A player is moved to a server that does not count it. -/
theorem foreign_player_uncounted :
    exists strictKick history s, AuthRun strictKick history s ∧
      ¬s.PlayersExact := by
  have hreplay : (replay (nextStep false) AuthState.initial
      foreignPlayerEvents).map (fun result =>
        ((result.2.gameDatas 7).map GameData.playerCount,
          result.2.connectedClients.lookup 8,
          (result.2.clientDatas 4).map fun clientData =>
            (clientData.server, clientData.inGame))) =
      some (some 0, some 4, some (some 7, true)) := by
    decide +kernel
  rcases Option.map_eq_some_iff.mp hreplay with ⟨⟨history, s⟩, heq, hpair⟩
  refine ⟨false, history, s, replay_run (nextStep_step false) Run.nil heq, ?_⟩
  intro hexact
  rcases Prod.ext_iff.mp hpair with ⟨hcount, hclient⟩
  rcases Prod.ext_iff.mp hclient with ⟨hindex, hplays⟩
  rcases Option.map_eq_some_iff.mp hcount with ⟨gameData, hg, hzero⟩
  rcases Option.map_eq_some_iff.mp hplays with ⟨clientData, hp, hstate⟩
  rcases Prod.ext_iff.mp hstate with ⟨hserver, hgame⟩
  have hleaving := hexact.noUnderflow 7 gameData hg [4]
    (List.nodup_singleton 4) (by
      intro p hmem
      rw [List.mem_singleton] at hmem
      subst hmem
      exact ⟨8, clientData, hindex, hp, hserver, hgame⟩)
  rw [hzero] at hleaving
  exact absurd hleaving (by decide)

end Auth
end Rzu
