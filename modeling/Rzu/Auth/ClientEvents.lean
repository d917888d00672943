import Rzu.Auth.Registry

/-!
# What client sessions do

Every way in which an event of a client session changes the server, and that
none of them makes it inconsistent.
-/

namespace Rzu
namespace Auth

theorem Lobby.updateSession {clientDatas : Addr -> Option ClientData}
    {clientSessions : Addr -> Option ClientSession}
    (h : Lobby clientDatas clientSessions) {c : Addr}
    {new : Option ClientSession}
    (hfree : forall {p clientData}, clientDatas p = some clientData ->
      clientData.client ≠ some c) :
    Lobby clientDatas (Function.update clientSessions c new) := by
  constructor
  · intro p clientData c' hp hc'
    have hne : c' ≠ c := by
      intro heq
      exact hfree hp (heq ▸ hc')
    rcases h.owner hp hc' with ⟨session, hsession, hback⟩
    exact ⟨session, (Function.update_of_ne hne _ _).trans hsession, hback⟩
  · exact h.server_of_none
  · exact h.none_of_server
  · exact h.server_of_inGame

theorem Lobby.updateClient {clientDatas : Addr -> Option ClientData}
    {clientSessions : Addr -> Option ClientSession}
    (h : Lobby clientDatas clientSessions) {p : Addr}
    {clientData clientData' : ClientData}
    (hold : clientDatas p = some clientData)
    (hclient : clientData'.client = clientData.client)
    (hserver : clientData'.server = clientData.server)
    (hgame : clientData'.inGame = true -> clientData'.server.isSome = true) :
    Lobby (Function.update clientDatas p (some clientData'))
      clientSessions := by
  constructor
  · intro q found c hq hc
    rcases update_eq_some hq with ⟨heq, hnew⟩ | ⟨-, hsame⟩
    · cases hnew
      rw [heq]
      exact h.owner hold (hclient ▸ hc)
    · exact h.owner hsame hc
  · intro q found hq hnone
    rcases update_eq_some hq with ⟨-, hnew⟩ | ⟨-, hsame⟩
    · cases hnew
      rw [hserver]
      exact h.server_of_none hold (hclient ▸ hnone)
    · exact h.server_of_none hsame hnone
  · intro q found g hq hg
    rcases update_eq_some hq with ⟨-, hnew⟩ | ⟨-, hsame⟩
    · cases hnew
      rw [hclient]
      exact h.none_of_server hold (hserver ▸ hg)
    · exact h.none_of_server hsame hg
  · intro q found hq hin
    rcases update_eq_some hq with ⟨-, hnew⟩ | ⟨-, hsame⟩
    · cases hnew
      exact hgame hin
    · exact h.server_of_inGame hsame hin

namespace AuthState

def authenticate (s : AuthState) (c p : Addr) (clientData : ClientData)
    (session : ClientSession) : AuthState :=
  (s.register p clientData).setClientSession c session

/-- Client data that goes from a client session to a game server. -/
def handOver (s : AuthState) (c p g : Addr) (session : ClientSession)
    (clientData : ClientData) (oneTimePassword : UInt64) : AuthState :=
  (s.setClientData p
    { clientData with
      oneTimePassword := some oneTimePassword
      client := none
      server := some g }).setClientSession c
        { session with clientData := none }

def requestKick (s : AuthState) (p : Addr) (clientData : ClientData) :
    AuthState :=
  s.setClientData p { clientData with kickRequested := true }

/-- How the client that is in the way of an account is treated. -/
inductive EvictCase (s : AuthState) (p : Addr) (old : ClientData) :
    AuthState -> Prop where
  | kept : EvictCase s p old s
  | removed {g : Addr} (hserver : old.server = some g) :
      EvictCase s p old (s.forget p old)
  | kickRequested {g : Addr} (hserver : old.server = some g)
      (hgame : old.inGame = true) :
      EvictCase s p old (s.requestKick p old)

theorem kickClient_cases {s s' : AuthState} (h : Consistent s)
    {strictKick : Bool} {x p g : Addr} {old : ClientData}
    {outputs : List Output} (hp : s.clientDatas p = some old)
    (hserver : old.server = some g) (hgame : old.inGame = true)
    (hstep : s.kickClient strictKick x p = some (s', outputs)) :
    EvictCase s p old s' ∧
      outputs = [Output.kickClient x old.account] := by
  rcases Option.bind_eq_some_iff.mp hstep with ⟨session, hx, hrest⟩
  rcases Option.bind_eq_some_iff.mp hrest with ⟨found, hfound, hrest⟩
  rcases Option.bind_eq_some_iff.mp hrest with ⟨next, hnext, hpair⟩
  rw [hp] at hfound
  cases hfound
  cases hpair
  constructor
  · cases strictKick with
    | true =>
        cases hnext
        exact EvictCase.kickRequested hserver hgame
    | false =>
        change s.removeClient p = some s' at hnext
        rw [removeClient_eq h.indexed hp] at hnext
        cases hnext
        exact EvictCase.removed hserver
  · rfl

inductive AuthResultCase (s : AuthState) (c : Addr) (query : AccountQuery)
    (p : Addr) : AuthState -> List Output -> Prop where
  | refused {outputs : List Output}
      (hrefused : Output.result c ResultCode.success 1 ∉ outputs) :
      AuthResultCase s c query p s outputs
  | authenticated {session : ClientSession} {row : AccountRow}
      (hc : s.clientSessions c = some session)
      (hnone : session.clientData = none)
      (hvacant : Vacant s p (query.data row)) :
      AuthResultCase s c query p
        (s.authenticate c p (newClientData (some c) (query.data row))
          { lastLoginServerId := row.lastLoginServerIdx
            serverIdxOffset := row.serverIdxOffset
            clientData := some p })
        [Output.result c ResultCode.success 1]
  | conflict {s' : AuthState} {q : Addr} {old : ClientData}
      {row : AccountRow} {outputs : List Output}
      (hq : s.clientDatas q = some old)
      (hsame : old.accountId = row.accountId ∨
        toLower old.account = toLower query.account)
      (hevict : EvictCase s q old s')
      (hrefused : Output.result c ResultCode.success 1 ∉ outputs) :
      AuthResultCase s c query p s' outputs

theorem evict_cases {s s' : AuthState} (h : Consistent s)
    {strictKick : Bool} {p : Addr} {old : ClientData}
    {outputs : List Output} (hp : s.clientDatas p = some old)
    (hstep : s.evict strictKick p = some (s', outputs)) :
    EvictCase s p old s' ∧
      forall c, Output.result c ResultCode.success 1 ∉ outputs := by
  rcases Option.bind_eq_some_iff.mp hstep with ⟨found, hfound, hrest⟩
  rw [hp] at hfound
  cases hfound
  cases hserver : old.server with
  | none =>
      rw [hserver] at hrest
      rcases Option.bind_eq_some_iff.mp hrest with ⟨owner, -, hrest⟩
      rcases Option.bind_eq_some_iff.mp hrest with ⟨session, -, hpair⟩
      cases hpair
      exact ⟨EvictCase.kept, by simp⟩
  | some g =>
      rw [hserver] at hrest
      simp only at hrest
      split at hrest
      · rename_i hgame
        rcases Option.bind_eq_some_iff.mp hrest with ⟨gameData, -, hrest⟩
        split at hrest
        · rcases kickClient_cases h hp hserver hgame hrest with
            ⟨hcase, houtputs⟩
          exact ⟨hcase, by simp [houtputs]⟩
        · cases hrest
          exact ⟨EvictCase.kept, by simp⟩
      · rw [removeClient_eq h.indexed hp, Option.map_some] at hrest
        cases hrest
        exact ⟨EvictCase.removed hserver, by simp⟩

theorem bindClient_cases {s s' : AuthState} (h : Consistent s)
    {strictKick : Bool} {c p : Addr} {query : AccountQuery}
    {row : AccountRow} {session : ClientSession} {outputs : List Output}
    (hc : s.clientSessions c = some session)
    (hnone : session.clientData = none)
    (hstep : s.bindClient strictKick c query row p = some (s', outputs)) :
    AuthResultCase s c query p s' outputs := by
  rcases Option.bind_eq_some_iff.mp hstep with ⟨result, hadd, hrest⟩
  cases tryAddClient_cases h.indexed hadd with
  | added hvacant =>
      cases hrest
      exact AuthResultCase.authenticated hc hnone hvacant
  | conflict hold hsame =>
      rcases Option.bind_eq_some_iff.mp hrest with
        ⟨⟨evicted, sent⟩, hevict, hpair⟩
      cases hpair
      rcases evict_cases h hold hevict with ⟨hcase, hsilent⟩
      apply AuthResultCase.conflict hold hsame hcase
      intro hmem
      rcases List.mem_append.mp hmem with hsent | hanswer
      · exact hsilent c hsent
      · simp at hanswer

theorem clientAuthResult_cases {s s' : AuthState} (h : Consistent s)
    {strictKick : Bool} {c p : Addr} {query : AccountQuery}
    {outputs : List Output}
    (hstep : s.clientAuthResult strictKick c query p =
      some (s', outputs)) :
    AuthResultCase s c query p s' outputs := by
  rcases Option.bind_eq_some_iff.mp hstep with ⟨session, hc, hrest⟩
  have refuse : forall {code : ResultCode} {flag : UInt32},
      (code, flag) ≠ (ResultCode.success, 1) ->
        some (s, [Output.result c code flag]) = some (s', outputs) ->
          AuthResultCase s c query p s' outputs := by
    intro code flag hne heq
    cases heq
    apply AuthResultCase.refused
    intro hmem
    cases List.mem_singleton.mp hmem
    exact hne rfl
  split at hrest
  · split at hrest
    · exact refuse (by decide) hrest
    · split at hrest
      · exact refuse (by decide) hrest
      · split at hrest
        · exact refuse (by decide) hrest
        · rename_i hbound
          exact bindClient_cases h hc
            (Option.not_isSome_iff_eq_none.mp hbound) hrest
  · exact refuse (by decide) hrest

/-- What the choice of a game server does. -/
inductive SelectCase (s : AuthState) (c : Addr) (serverIdx : UInt16)
    (oneTimePassword : UInt64) : AuthState -> List Output -> Prop where
  | refused (hnone : (s.clientSessions c).bind ClientSession.clientData =
        none ∨ s.servers.lookup serverIdx = none) :
      SelectCase s c serverIdx oneTimePassword s [Output.abortSession c]
  | handedOver {session : ClientSession} {p g : Addr}
      {clientData : ClientData} (hc : s.clientSessions c = some session)
      (hpointer : session.clientData = some p)
      (hp : s.clientDatas p = some clientData)
      (hg : s.servers.lookup serverIdx = some g) :
      SelectCase s c serverIdx oneTimePassword
        (s.handOver c p g session clientData oneTimePassword)
        [Output.selectServer c oneTimePassword]

theorem onSelectServer_cases {s s' : AuthState} {c : Addr}
    {serverIdx : UInt16} {oneTimePassword : UInt64} {outputs : List Output}
    (hstep : s.onSelectServer c serverIdx oneTimePassword =
      some (s', outputs)) :
    SelectCase s c serverIdx oneTimePassword s' outputs := by
  rcases Option.bind_eq_some_iff.mp hstep with ⟨session, hc, hrest⟩
  split at hrest
  · rename_i hnone
    cases hrest
    exact SelectCase.refused (Or.inl (by rw [hc]; exact hnone))
  · rename_i hnone
    cases hrest
    exact SelectCase.refused (Or.inr hnone)
  · rename_i p g hpointer hg
    rcases Option.bind_eq_some_iff.mp hrest with ⟨switched, hswitch, hpair⟩
    rcases Option.bind_eq_some_iff.mp hswitch with ⟨clientData, hp, hset⟩
    cases hset
    cases hpair
    exact SelectCase.handedOver hc hpointer hp hg

/-- The server once a session gave up the client data that it points at. -/
inductive LeaveCase (s : AuthState) (session : ClientSession) :
    AuthState -> Prop where
  | idle (hnone : session.clientData = none) : LeaveCase s session s
  | owner {p : Addr} {clientData : ClientData}
      (hpointer : session.clientData = some p)
      (hp : s.clientDatas p = some clientData) :
      LeaveCase s session (s.forget p clientData)

theorem removeOwned_cases {s s' : AuthState} (h : Consistent s)
    {session : ClientSession} (hstep : s.removeOwned session = some s') :
    LeaveCase s session s' := by
  unfold removeOwned at hstep
  split at hstep
  · rename_i hnone
    cases hstep
    exact LeaveCase.idle hnone
  · rename_i p hpointer
    rcases removeClient_cases h.indexed hstep with ⟨clientData, hp, heq⟩
    subst heq
    exact LeaveCase.owner hpointer hp

theorem onDisconnected_cases {s s' : AuthState} (h : Consistent s)
    {c : Addr} (hstep : s.onDisconnected c = some s') :
    exists session removed, s.clientSessions c = some session ∧
      LeaveCase s session removed ∧
        s' = removed.setClientSession c
          { session with clientData := none } := by
  rcases Option.bind_eq_some_iff.mp hstep with ⟨session, hc, hrest⟩
  rcases Option.bind_eq_some_iff.mp hrest with ⟨removed, hremove, hpair⟩
  cases hpair
  exact ⟨session, removed, hc, removeOwned_cases h hremove, rfl⟩

theorem deleteClientSession_cases {s s' : AuthState} (h : Consistent s)
    {c : Addr} (hstep : s.deleteClientSession c = some s') :
    exists session removed, s.clientSessions c = some session ∧
      LeaveCase s session removed ∧
        s' = { removed with
          clientSessions :=
            Function.update removed.clientSessions c none } := by
  rcases Option.bind_eq_some_iff.mp hstep with ⟨session, hc, hrest⟩
  rcases Option.bind_eq_some_iff.mp hrest with ⟨removed, hremove, hpair⟩
  cases hpair
  exact ⟨session, removed, hc, removeOwned_cases h hremove, rfl⟩

/-!
## Consistency is kept
-/

theorem consistent_authenticate {s : AuthState} (h : Consistent s)
    {c p : Addr} {session new : ClientSession} {data : AccountData}
    (hc : s.clientSessions c = some session)
    (hnone : session.clientData = none) (hvacant : Vacant s p data)
    (hpointer : new.clientData = some p) :
    Consistent (s.authenticate c p (newClientData (some c) data) new) := by
  have hfree : forall {q found}, s.clientDatas q = some found ->
      found.client ≠ some c := by
    intro q found hq heq
    rcases h.lobby.owner hq heq with ⟨session', hsession, hback⟩
    rw [hc] at hsession
    cases hsession
    rw [hnone] at hback
    cases hback
  have hlobby : Lobby s.clientDatas
      (Function.update s.clientSessions c (some new)) :=
    h.lobby.updateSession hfree
  constructor
  · exact clientIndex_register h.indexed hvacant.free hvacant.id hvacant.name
  · constructor
    · intro q found c' hq hc'
      rcases update_eq_some hq with ⟨heq, hnew⟩ | ⟨-, hsame⟩
      · cases hnew
        cases hc'
        exact ⟨new, Function.update_self _ _ _, heq ▸ hpointer⟩
      · exact hlobby.owner hsame hc'
    · intro q found hq hclient
      rcases update_eq_some hq with ⟨-, hnew⟩ | ⟨-, hsame⟩
      · cases hnew
        cases hclient
      · exact hlobby.server_of_none hsame hclient
    · intro q found g hq hg
      rcases update_eq_some hq with ⟨-, hnew⟩ | ⟨-, hsame⟩
      · cases hnew
        cases hg
      · exact hlobby.none_of_server hsame hg
    · intro q found hq hgame
      rcases update_eq_some hq with ⟨-, hnew⟩ | ⟨-, hsame⟩
      · cases hnew
        cases hgame
      · exact hlobby.server_of_inGame hsame hgame
  · apply h.bound.update
    intro g hg
    cases hg
  · exact h.servers
  · exact h.paired

theorem consistent_handOver {s : AuthState} (h : Consistent s)
    {c p g : Addr} {session : ClientSession} {clientData : ClientData}
    {serverIdx : UInt16} (oneTimePassword : UInt64)
    (hc : s.clientSessions c = some session)
    (hpointer : session.clientData = some p)
    (hp : s.clientDatas p = some clientData)
    (hg : s.servers.lookup serverIdx = some g) :
    Consistent (s.handOver c p g session clientData oneTimePassword) := by
  constructor
  · exact h.clients.update hp rfl rfl
  · constructor
    · intro q found c' hq hc'
      rcases update_eq_some hq with ⟨-, hnew⟩ | ⟨hne, hsame⟩
      · cases hnew
        cases hc'
      · rcases h.lobby.owner hsame hc' with ⟨owner, howner, hback⟩
        -- the session that selects points elsewhere, so it is not the owner
        have hne' : c' ≠ c := by
          intro heq
          subst heq
          rw [hc] at howner
          cases howner
          rw [hpointer] at hback
          cases hback
          exact hne rfl
        exact ⟨owner, (Function.update_of_ne hne' _ _).trans howner, hback⟩
    · intro q found hq hclient
      rcases update_eq_some hq with ⟨-, hnew⟩ | ⟨-, hsame⟩
      · cases hnew
        rfl
      · exact h.lobby.server_of_none hsame hclient
    · intro q found g' hq hg'
      rcases update_eq_some hq with ⟨-, hnew⟩ | ⟨-, hsame⟩
      · cases hnew
        rfl
      · exact h.lobby.none_of_server hsame hg'
    · intro q found hq hgame
      rcases update_eq_some hq with ⟨-, hnew⟩ | ⟨-, hsame⟩
      · cases hnew
        rfl
      · exact h.lobby.server_of_inGame hsame hgame
  · apply h.bound.update
    intro g' hg'
    cases hg'
    rcases h.servers.ofIdx hg with ⟨gameData, hgame, -⟩
    exact ⟨gameData, hgame⟩
  · exact h.servers
  · exact h.paired

theorem consistent_requestKick {s : AuthState} (h : Consistent s) {p : Addr}
    {clientData : ClientData} (hp : s.clientDatas p = some clientData) :
    Consistent (s.requestKick p clientData) := by
  constructor
  · exact h.clients.update hp rfl rfl
  · apply h.lobby.updateClient hp
    · rfl
    · rfl
    · have hgame := h.lobby.server_of_inGame hp
      exact hgame
  · apply h.bound.update
    intro g hg
    exact h.bound.server hp hg
  · exact h.servers
  · exact h.paired

theorem EvictCase.consistent {s s' : AuthState} (h : Consistent s)
    {p : Addr} {old : ClientData} (hp : s.clientDatas p = some old)
    (hcase : EvictCase s p old s') : Consistent s' := by
  cases hcase with
  | kept => exact h
  | removed hserver => exact consistent_forget h hp
  | kickRequested hserver hgame => exact consistent_requestKick h hp

theorem consistent_updateSession {s : AuthState} (h : Consistent s)
    {c : Addr} (new : Option ClientSession)
    (hfree : forall {p clientData}, s.clientDatas p = some clientData ->
      clientData.client ≠ some c) :
    Consistent { s with
      clientSessions := Function.update s.clientSessions c new } := by
  constructor
  · exact h.clients
  · exact h.lobby.updateSession hfree
  · exact h.bound
  · exact h.servers
  · exact h.paired

namespace LeaveCase

variable {s s' : AuthState} {c : Addr} {session : ClientSession}

theorem consistent (h : Consistent s) (hcase : LeaveCase s session s') :
    Consistent s' := by
  cases hcase with
  | idle hnone => exact h
  | owner hpointer hp => exact consistent_forget h hp

theorem clientSessions (hcase : LeaveCase s session s') :
    s'.clientSessions = s.clientSessions := by
  cases hcase with
  | idle hnone => rfl
  | owner hpointer hp => rfl

theorem free (h : Consistent s) (hc : s.clientSessions c = some session)
    (hcase : LeaveCase s session s') {q : Addr} {found : ClientData}
    (hq : s'.clientDatas q = some found) : found.client ≠ some c := by
  intro heq
  cases hcase with
  | idle hnone =>
      rcases h.lobby.owner hq heq with ⟨owner, howner, hback⟩
      rw [hc] at howner
      cases howner
      rw [hnone] at hback
      cases hback
  | owner hpointer hp =>
      rcases forget_clientDatas_eq_some hq with ⟨hne, hold⟩
      rcases h.lobby.owner hold heq with ⟨owner, howner, hback⟩
      rw [hc] at howner
      cases howner
      rw [hpointer] at hback
      cases hback
      exact hne rfl

end LeaveCase

theorem consistent_clientConnected {s s' : AuthState} (h : Consistent s)
    {c : Addr} (hstep : s.clientConnected c = some s') : Consistent s' := by
  unfold clientConnected at hstep
  split at hstep
  · rename_i hfree
    cases hstep
    apply consistent_updateSession h
    intro p clientData hp heq
    rcases h.lobby.owner hp heq with ⟨session, hsession, -⟩
    rw [hfree] at hsession
    cases hsession
  · cases hstep

theorem consistent_clientAuthResult {s s' : AuthState} (h : Consistent s)
    {strictKick : Bool} {c p : Addr} {query : AccountQuery}
    {outputs : List Output}
    (hstep : s.clientAuthResult strictKick c query p =
      some (s', outputs)) :
    Consistent s' := by
  cases clientAuthResult_cases h hstep with
  | refused hrefused => exact h
  | authenticated hc hnone hvacant =>
      exact consistent_authenticate h hc hnone hvacant rfl
  | conflict hq hsame hevict hrefused => exact hevict.consistent h hq

theorem consistent_onSelectServer {s s' : AuthState} (h : Consistent s)
    {c : Addr} {serverIdx : UInt16} {oneTimePassword : UInt64}
    {outputs : List Output}
    (hstep : s.onSelectServer c serverIdx oneTimePassword =
      some (s', outputs)) :
    Consistent s' := by
  cases onSelectServer_cases hstep with
  | refused hnone => exact h
  | handedOver hc hpointer hp hg =>
      exact consistent_handOver h oneTimePassword hc hpointer hp hg

theorem consistent_onDisconnected {s s' : AuthState} (h : Consistent s)
    {c : Addr} (hstep : s.onDisconnected c = some s') : Consistent s' := by
  rcases onDisconnected_cases h hstep with ⟨session, removed, hc, hcase, heq⟩
  subst heq
  exact consistent_updateSession (hcase.consistent h) _ (hcase.free h hc)

theorem consistent_deleteClientSession {s s' : AuthState}
    (h : Consistent s) {c : Addr}
    (hstep : s.deleteClientSession c = some s') : Consistent s' := by
  rcases deleteClientSession_cases h hstep with
    ⟨session, removed, hc, hcase, heq⟩
  subst heq
  exact consistent_updateSession (hcase.consistent h) _ (hcase.free h hc)

end AuthState

end Auth
end Rzu
