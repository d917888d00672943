import Rzu.Auth.Consistency

/-!
# The registry of clients

What adding and removing client data does to a consistent server.
-/

namespace Rzu
namespace Auth

namespace AuthState

/-- Player counts after the client data is gone. -/
def gameDatasWithout (s : AuthState) (clientData : ClientData) :
    Addr -> Option GameData :=
  match clientData.server with
  | some g =>
      if clientData.inGame then
        Function.update s.gameDatas g
          ((s.gameDatas g).map GameData.decPlayerCount)
      else s.gameDatas
  | none => s.gameDatas

def forget (s : AuthState) (p : Addr) (clientData : ClientData) :
    AuthState :=
  { s with
    clientDatas := Function.update s.clientDatas p none
    gameDatas := s.gameDatasWithout clientData
    connectedClients := s.connectedClients.erase clientData.accountId
    connectedClientsByName :=
      s.connectedClientsByName.erase (toLower clientData.account) }

theorem sameServers_without (s : AuthState) (clientData : ClientData) :
    SameServers s.gameDatas (s.gameDatasWithout clientData) := by
  rw [gameDatasWithout]
  split
  · rename_i g _
    split
    · intro g'
      by_cases hg : g' = g
      · subst hg
        rw [Function.update_self, Option.map_map]
        rfl
      · rw [Function.update_of_ne hg]
    · exact SameServers.rfl _
  · exact SameServers.rfl _

theorem forget_clientDatas_of_ne (s : AuthState) {p q : Addr}
    (clientData : ClientData) (h : q ≠ p) :
    (s.forget p clientData).clientDatas q = s.clientDatas q :=
  Function.update_of_ne h _ _

theorem forget_clientDatas_eq_some {s : AuthState} {p q : Addr}
    {clientData found : ClientData}
    (h : (s.forget p clientData).clientDatas q = some found) :
    q ≠ p ∧ s.clientDatas q = some found := by
  rcases update_eq_some h with ⟨-, hnone⟩ | hsome
  · cases hnone
  · exact hsome

theorem destroyClientData_eq {s : AuthState} {clientData : ClientData}
    (hbound : forall g, clientData.server = some g ->
      exists gameData, s.gameDatas g = some gameData) :
    s.destroyClientData clientData =
      some (s.gameDatasWithout clientData) := by
  cases hserver : clientData.server with
  | none => rw [destroyClientData, gameDatasWithout, hserver]
  | some g =>
      rcases hbound g hserver with ⟨gameData, hg⟩
      rw [destroyClientData, gameDatasWithout, hserver]
      cases clientData.inGame with
      | false => rfl
      | true =>
          simp only [hg, if_pos, Option.map_some]

theorem deleteClientData_eq {s : AuthState}
    (hbound : Bound s.clientDatas s.gameDatas) {p : Addr}
    {clientData : ClientData} (hp : s.clientDatas p = some clientData) :
    s.deleteClientData p =
      some { s with
        clientDatas := Function.update s.clientDatas p none
        gameDatas := s.gameDatasWithout clientData } := by
  rw [deleteClientData, hp, Option.bind_eq_bind, Option.bind_some,
    destroyClientData_eq fun g => hbound.server hp]
  rfl

theorem removeClientById_eq {s : AuthState} (h : Indexed s) {p : Addr}
    {clientData : ClientData} (hp : s.clientDatas p = some clientData) :
    s.removeClientById clientData.accountId =
      some (s.forget p clientData) := by
  rw [removeClientById, h.clients.toId hp]
  simp only [hp, Option.bind_eq_bind, Option.bind_some]
  exact deleteClientData_eq (s := { s with
    connectedClients := s.connectedClients.erase clientData.accountId
    connectedClientsByName :=
      s.connectedClientsByName.erase (toLower clientData.account) })
    h.bound hp

theorem removeClient_eq {s : AuthState} (h : Indexed s) {p : Addr}
    {clientData : ClientData} (hp : s.clientDatas p = some clientData) :
    s.removeClient p = some (s.forget p clientData) := by
  rw [removeClient, hp, Option.bind_eq_bind, Option.bind_some,
    removeClientById_eq h hp]

theorem removeClientByName_eq {s : AuthState} (h : Indexed s) {p : Addr}
    {clientData : ClientData} (hp : s.clientDatas p = some clientData) :
    s.removeClientByName clientData.account =
      some (s.forget p clientData) := by
  rw [removeClientByName, h.clients.toName hp]
  simp only [hp, Option.bind_eq_bind, Option.bind_some]
  exact deleteClientData_eq (s := { s with
    connectedClientsByName :=
      s.connectedClientsByName.erase (toLower clientData.account)
    connectedClients := s.connectedClients.erase clientData.accountId })
    h.bound hp

theorem removeClient_cases {s s' : AuthState} (h : Indexed s) {p : Addr}
    (hstep : s.removeClient p = some s') :
    exists clientData, s.clientDatas p = some clientData ∧
      s' = s.forget p clientData := by
  cases hp : s.clientDatas p with
  | none =>
      rw [removeClient, hp] at hstep
      cases hstep
  | some clientData =>
      rw [removeClient_eq h hp] at hstep
      cases hstep
      exact ⟨clientData, rfl, rfl⟩

theorem clientIndex_forget {s : AuthState} (h : Indexed s) {p : Addr}
    {clientData : ClientData} (hp : s.clientDatas p = some clientData) :
    ClientIndex (s.forget p clientData).clientDatas
      (s.forget p clientData).connectedClients
      (s.forget p clientData).connectedClientsByName := by
  constructor
  · intro accountId q hlookup
    have hid : accountId ≠ clientData.accountId := by
      intro heq
      subst heq
      rw [forget, AList.lookup_erase] at hlookup
      cases hlookup
    rw [forget, AList.lookup_erase_ne hid] at hlookup
    rcases h.clients.ofId hlookup with ⟨found, hfound, hkey⟩
    have hq : q ≠ p := by
      intro heq
      subst heq
      rw [hp] at hfound
      cases hfound
      exact hid hkey.symm
    exact ⟨found, (forget_clientDatas_of_ne s clientData hq).trans hfound,
      hkey⟩
  · intro name q hlookup
    have hname : name ≠ toLower clientData.account := by
      intro heq
      subst heq
      rw [forget, AList.lookup_erase] at hlookup
      cases hlookup
    rw [forget, AList.lookup_erase_ne hname] at hlookup
    rcases h.clients.ofName hlookup with ⟨found, hfound, hkey⟩
    have hq : q ≠ p := by
      intro heq
      subst heq
      rw [hp] at hfound
      cases hfound
      exact hname hkey.symm
    exact ⟨found, (forget_clientDatas_of_ne s clientData hq).trans hfound,
      hkey⟩
  · intro q found hq
    rcases forget_clientDatas_eq_some hq with ⟨hne, hfound⟩
    have hold := h.clients.toId hfound
    have hid : found.accountId ≠ clientData.accountId := by
      intro heq
      rw [heq, h.clients.toId hp] at hold
      cases hold
      exact hne rfl
    rw [forget, AList.lookup_erase_ne hid]
    exact hold
  · intro q found hq
    rcases forget_clientDatas_eq_some hq with ⟨hne, hfound⟩
    have hold := h.clients.toName hfound
    have hname : toLower found.account ≠ toLower clientData.account := by
      intro heq
      rw [heq, h.clients.toName hp] at hold
      cases hold
      exact hne rfl
    rw [forget, AList.lookup_erase_ne hname]
    exact hold

theorem indexed_forget {s : AuthState} (h : Indexed s) {p : Addr}
    {clientData : ClientData} (hp : s.clientDatas p = some clientData) :
    Indexed (s.forget p clientData) := by
  constructor
  · exact clientIndex_forget h hp
  · constructor
    intro q found g hq hg
    exact ((s.sameServers_without clientData).bound h.bound).server
      (forget_clientDatas_eq_some hq).right hg

theorem lobby_forget {s : AuthState} (h : Consistent s) (p : Addr)
    (clientData : ClientData) :
    Lobby (s.forget p clientData).clientDatas s.clientSessions := by
  constructor
  · intro q found c hq hc
    exact h.lobby.owner (forget_clientDatas_eq_some hq).right hc
  · intro q found hq
    exact h.lobby.server_of_none (forget_clientDatas_eq_some hq).right
  · intro q found g hq
    exact h.lobby.none_of_server (forget_clientDatas_eq_some hq).right
  · intro q found hq
    exact h.lobby.server_of_inGame (forget_clientDatas_eq_some hq).right

theorem consistent_forget {s : AuthState} (h : Consistent s) {p : Addr}
    {clientData : ClientData} (hp : s.clientDatas p = some clientData) :
    Consistent (s.forget p clientData) := by
  have hsame := s.sameServers_without clientData
  have hindexed := indexed_forget h.indexed hp
  constructor
  · exact hindexed.clients
  · exact lobby_forget h p clientData
  · exact hindexed.bound
  · exact hsame.serverIndex h.servers
  · exact hsame.paired h.paired

/-!
## Adding a client
-/

def register (s : AuthState) (p : Addr) (clientData : ClientData) :
    AuthState :=
  { s with
    clientDatas := Function.update s.clientDatas p (some clientData)
    connectedClients :=
      s.connectedClients.insert clientData.accountId p
    connectedClientsByName :=
      s.connectedClientsByName.insert (toLower clientData.account) p }

/-- Nobody is in the way of an account. -/
structure Vacant (s : AuthState) (p : Addr) (data : AccountData) :
    Prop where
  free : s.clientDatas p = none
  id : s.connectedClients.lookup data.accountId = none
  name : s.connectedClientsByName.lookup (toLower data.account) = none

/-- Client data of an account, before a server or the game is entered. -/
def newClientData (clientInfo : Option Addr) (data : AccountData) :
    ClientData :=
  data.fill (ClientData.create clientInfo)

inductive AddCase (s : AuthState) (p : Addr) (clientInfo : Option Addr)
    (data : AccountData) : AuthState × AddResult -> Prop where
  | added (hvacant : Vacant s p data) :
      AddCase s p clientInfo data
        (s.register p (newClientData clientInfo data), AddResult.added)
  | conflict {oldClient : Addr} {clientData : ClientData}
      (hold : s.clientDatas oldClient = some clientData)
      (hsame : clientData.accountId = data.accountId ∨
        toLower clientData.account = toLower data.account) :
      AddCase s p clientInfo data (s, AddResult.conflict oldClient)

theorem tryAddClient_total {s : AuthState} {p : Addr}
    (hfree : s.clientDatas p = none) (clientInfo : Option Addr)
    (data : AccountData) :
    exists result, s.tryAddClient p clientInfo data = some result := by
  rw [tryAddClient, if_pos hfree]
  split
  · exact ⟨_, rfl⟩
  · split
    · exact ⟨_, rfl⟩
    · exact ⟨_, rfl⟩

theorem tryAddClient_cases {s : AuthState} (h : Indexed s) {p : Addr}
    {clientInfo : Option Addr} {data : AccountData}
    {result : AuthState × AddResult}
    (hstep : s.tryAddClient p clientInfo data = some result) :
    AddCase s p clientInfo data result := by
  unfold tryAddClient at hstep
  split at hstep
  · rename_i hfree
    split at hstep
    · rename_i oldClient hid
      cases hstep
      rcases h.clients.ofId hid with ⟨clientData, hold, hkey⟩
      exact AddCase.conflict hold (Or.inl hkey)
    · rename_i hid
      split at hstep
      · rename_i oldClient hname
        cases hstep
        rcases h.clients.ofName hname with ⟨clientData, hold, hkey⟩
        exact AddCase.conflict hold (Or.inr hkey)
      · rename_i hname
        cases hstep
        exact AddCase.added ⟨hfree, hid, hname⟩
  · cases hstep

theorem clientIndex_register {s : AuthState} (h : Indexed s) {p : Addr}
    {clientData : ClientData} (hfree : s.clientDatas p = none)
    (hid : s.connectedClients.lookup clientData.accountId = none)
    (hname : s.connectedClientsByName.lookup
      (toLower clientData.account) = none) :
    ClientIndex (s.register p clientData).clientDatas
      (s.register p clientData).connectedClients
      (s.register p clientData).connectedClientsByName := by
  have hlive : forall {q found}, s.clientDatas q = some found -> q ≠ p := by
    intro q found hq heq
    rw [heq, hfree] at hq
    cases hq
  constructor
  · intro accountId q hlookup
    by_cases hkey : accountId = clientData.accountId
    · rw [hkey, register, AList.lookup_insert] at hlookup
      cases hlookup
      exact ⟨clientData, Function.update_self _ _ _, hkey.symm⟩
    · rw [register, AList.lookup_insert_ne hkey] at hlookup
      rcases h.clients.ofId hlookup with ⟨found, hfound, hsame⟩
      exact ⟨found,
        (Function.update_of_ne (hlive hfound) _ _).trans hfound, hsame⟩
  · intro name q hlookup
    by_cases hkey : name = toLower clientData.account
    · rw [hkey, register, AList.lookup_insert] at hlookup
      cases hlookup
      exact ⟨clientData, Function.update_self _ _ _, hkey.symm⟩
    · rw [register, AList.lookup_insert_ne hkey] at hlookup
      rcases h.clients.ofName hlookup with ⟨found, hfound, hsame⟩
      exact ⟨found,
        (Function.update_of_ne (hlive hfound) _ _).trans hfound, hsame⟩
  · intro q found hq
    rcases update_eq_some hq with ⟨heq, hnew⟩ | ⟨-, hfound⟩
    · cases hnew
      rw [heq]
      exact AList.lookup_insert _
    · have hold := h.clients.toId hfound
      have hne : found.accountId ≠ clientData.accountId := by
        intro heq
        rw [heq, hid] at hold
        cases hold
      rw [register, AList.lookup_insert_ne hne]
      exact hold
  · intro q found hq
    rcases update_eq_some hq with ⟨heq, hnew⟩ | ⟨-, hfound⟩
    · cases hnew
      rw [heq]
      exact AList.lookup_insert _
    · have hold := h.clients.toName hfound
      have hne : toLower found.account ≠ toLower clientData.account := by
        intro heq
        rw [heq, hname] at hold
        cases hold
      rw [register, AList.lookup_insert_ne hne]
      exact hold

/-!
## Removing the clients of a server
-/

/-- Some clients of a server were removed, one after the other. -/
inductive Forgets (g : Addr) : AuthState -> AuthState -> Prop where
  | refl (s : AuthState) : Forgets g s s
  | step {s s' : AuthState} {p : Addr} {clientData : ClientData}
      (hp : s.clientDatas p = some clientData)
      (hserver : clientData.server = some g)
      (rest : Forgets g (s.forget p clientData) s') : Forgets g s s'

namespace Forgets

variable {g : Addr} {s s' : AuthState}

theorem consistent (h : Forgets g s s') (hs : Consistent s) :
    Consistent s' := by
  induction h with
  | refl s => exact hs
  | step hp hserver rest ih => exact ih (consistent_forget hs hp)

theorem indexed (h : Forgets g s s') (hs : Indexed s) :
    Indexed s' := by
  induction h with
  | refl s => exact hs
  | step hp hserver rest ih => exact ih (indexed_forget hs hp)

theorem clientDatas_eq_some (h : Forgets g s s') {p : Addr}
    {clientData : ClientData} (hp : s'.clientDatas p = some clientData) :
    s.clientDatas p = some clientData := by
  induction h with
  | refl s => exact hp
  | step _ _ rest ih => exact (forget_clientDatas_eq_some (ih hp)).right

theorem clientDatas_of_ne (h : Forgets g s s') {p : Addr}
    {clientData : ClientData} (hp : s.clientDatas p = some clientData)
    (hserver : clientData.server ≠ some g) :
    s'.clientDatas p = some clientData := by
  induction h with
  | refl s => exact hp
  | step hq hbound rest ih =>
      apply ih
      rw [forget_clientDatas_of_ne, hp]
      intro heq
      subst heq
      rw [hp] at hq
      cases hq
      exact hserver hbound

theorem sameServers (h : Forgets g s s') :
    SameServers s.gameDatas s'.gameDatas := by
  induction h with
  | refl s => exact SameServers.rfl _
  | step _ _ rest ih => exact (sameServers_without _ _).trans ih

theorem clientSessions (h : Forgets g s s') :
    s'.clientSessions = s.clientSessions := by
  induction h with
  | refl s => rfl
  | step _ _ rest ih => exact ih

theorem gameSessions (h : Forgets g s s') :
    s'.gameSessions = s.gameSessions := by
  induction h with
  | refl s => rfl
  | step _ _ rest ih => exact ih

theorem servers (h : Forgets g s s') : s'.servers = s.servers := by
  induction h with
  | refl s => rfl
  | step _ _ rest ih => exact ih

end Forgets

theorem removeBoundClient_eq {s : AuthState} (h : Indexed s) {g p : Addr}
    {clientData : ClientData} (hp : s.clientDatas p = some clientData) :
    s.removeBoundClient g clientData.accountId p =
      if clientData.server = some g then some (s.forget p clientData)
      else some s := by
  rw [removeBoundClient, hp, Option.bind_eq_bind, Option.bind_some]
  split
  · exact deleteClientData_eq (s := { s with
      connectedClientsByName :=
        s.connectedClientsByName.erase (toLower clientData.account)
      connectedClients := s.connectedClients.erase clientData.accountId })
      h.bound hp
  · rfl

theorem removeBoundClients_forgets {g : Addr}
    {entries : List (Sigma fun _ : UInt32 => Addr)} {s : AuthState}
    (h : Indexed s) (hnodup : entries.NodupKeys)
    (hentries : forall entry, entry ∈ entries ->
      s.connectedClients.lookup entry.1 = some entry.2) :
    exists s', removeBoundClients g entries s = some s' ∧
      Forgets g s s' ∧
        forall entry, entry ∈ entries -> forall clientData,
          s'.clientDatas entry.2 = some clientData ->
            clientData.server ≠ some g := by
  induction entries generalizing s with
  | nil =>
      refine ⟨s, rfl, Forgets.refl s, ?_⟩
      intro entry hmem
      cases hmem
  | cons first rest ih =>
      rcases List.nodupKeys_cons.mp hnodup with ⟨hfresh, hrest⟩
      rcases h.clients.ofId (hentries first List.mem_cons_self) with
        ⟨clientData, hp, hid⟩
      have heq := removeBoundClient_eq h (g := g) hp
      rw [hid] at heq
      by_cases hserver : clientData.server = some g
      · rw [if_pos hserver] at heq
        have hothers : forall entry, entry ∈ rest ->
            (s.forget first.2 clientData).connectedClients.lookup entry.1 =
              some entry.2 := by
          intro entry hmem
          have hne : entry.1 ≠ clientData.accountId := by
            intro hkey
            apply hfresh
            rw [← hid, ← hkey]
            exact List.mem_map_of_mem hmem
          rw [forget, AList.lookup_erase_ne hne]
          exact hentries entry (List.mem_cons_of_mem _ hmem)
        rcases ih (indexed_forget h hp) hrest hothers with
          ⟨s', hrun, hforgets, hgone⟩
        refine ⟨s', ?_, Forgets.step hp hserver hforgets, ?_⟩
        · rw [removeBoundClients, heq]
          exact hrun
        · intro entry hmem found hfound
          rcases List.mem_cons.mp hmem with hfirst | hlater
          · subst hfirst
            exact absurd rfl (forget_clientDatas_eq_some
              (hforgets.clientDatas_eq_some hfound)).left
          · exact hgone entry hlater found hfound
      · rw [if_neg hserver] at heq
        rcases ih h hrest (fun entry hmem =>
          hentries entry (List.mem_cons_of_mem _ hmem)) with
          ⟨s', hrun, hforgets, hgone⟩
        refine ⟨s', ?_, hforgets, ?_⟩
        · rw [removeBoundClients, heq]
          exact hrun
        · intro entry hmem found hfound
          rcases List.mem_cons.mp hmem with hfirst | hlater
          · subst hfirst
            have hsame := hforgets.clientDatas_eq_some hfound
            rw [hp] at hsame
            cases hsame
            exact hserver
          · exact hgone entry hlater found hfound

theorem removeServer_forgets {s : AuthState} (h : Indexed s) (g : Addr) :
    exists s', s.removeServer g = some s' ∧ Forgets g s s' ∧
      forall p clientData, s'.clientDatas p = some clientData ->
        clientData.server ≠ some g := by
  have hentries : forall entry, entry ∈ s.connectedClients.entries ->
      s.connectedClients.lookup entry.1 = some entry.2 := by
    intro entry hmem
    exact AList.mem_lookup_iff.mpr hmem
  rcases removeBoundClients_forgets h s.connectedClients.nodupKeys hentries
    (g := g) with ⟨s', hrun, hforgets, hgone⟩
  refine ⟨s', hrun, hforgets, ?_⟩
  intro p clientData hp
  have hlookup := h.clients.toId (hforgets.clientDatas_eq_some hp)
  exact hgone ⟨clientData.accountId, p⟩ (AList.mem_lookup_iff.mp hlookup)
    clientData hp

theorem removeServer_cases {s s' : AuthState} (h : Indexed s) {g : Addr}
    (hstep : s.removeServer g = some s') :
    Forgets g s s' ∧ forall p clientData,
      s'.clientDatas p = some clientData -> clientData.server ≠ some g := by
  rcases removeServer_forgets h g with ⟨found, hrun, hforgets, hgone⟩
  rw [hstep] at hrun
  cases hrun
  exact ⟨hforgets, hgone⟩

end AuthState

end Auth
end Rzu
