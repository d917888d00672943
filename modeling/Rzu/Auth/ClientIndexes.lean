import Rzu.Auth.Registry

/-!
# The two indexes of clients

Calls of the functions that change the registry of clients, in any order and
for any account: the two maps hold the same clients all the time.
-/

namespace Rzu
namespace Auth

open Library

/-- `std::unordered_map::insert`: an entry that is there stays. -/
def emplace {key : Type} [DecidableEq key] (map : AList fun _ : key => Addr)
    (k : key) (value : Addr) : (AList fun _ : key => Addr) × Addr × Bool :=
  match map.lookup k with
  | some found => (map, found, false)
  | none => (map.insert k value, value, true)

section Emplace

variable {key : Type} [DecidableEq key] {map : AList fun _ : key => Addr}
variable {k : key}

theorem emplace_of_some {found : Addr} (h : map.lookup k = some found)
    (value : Addr) : emplace map k value = (map, found, false) := by
  rw [emplace, h]

theorem emplace_of_none (h : map.lookup k = none) (value : Addr) :
    emplace map k value = (map.insert k value, value, true) := by
  rw [emplace, h]

theorem erase_insert (h : map.lookup k = none) (value : Addr) :
    (map.insert k value).erase k = map := by
  have hmem : k ∉ map := AList.lookup_eq_none.mp h
  apply AList.ext
  change List.kerase k (map.insert k value).entries = map.entries
  rw [AList.entries_insert_of_notMem hmem]
  exact List.kerase_cons_eq (a := k)
    (s := (⟨k, value⟩ : Sigma fun _ : key => Addr)) rfl

end Emplace

namespace AuthState

/--
`tryAddClient` the way the source does it: a client that gets into the first
map only is taken out of it again.
-/
def insertClient (s : AuthState) (newClient : Addr)
    (clientInfo : Option Addr) (data : AccountData) :
    Option (AuthState × AddResult) :=
  if s.clientDatas newClient = none then
    let allocated := s.setClientData newClient (ClientData.create clientInfo)
    match emplace allocated.connectedClients data.accountId newClient with
    | (_, oldClient, false) =>
        (allocated.deleteClientData newClient).map fun s' =>
          (s', AddResult.conflict oldClient)
    | (byId, _, true) =>
        let filled : AuthState :=
          { allocated.setClientData newClient
              (newClientData clientInfo data) with
            connectedClients := byId }
        match emplace filled.connectedClientsByName (toLower data.account)
          newClient with
        | (_, oldClient, false) =>
            let rolledBack : AuthState :=
              { filled with
                connectedClients :=
                  filled.connectedClients.erase data.accountId }
            (rolledBack.deleteClientData newClient).map fun s' =>
              (s', AddResult.conflict oldClient)
        | (byName, _, true) =>
            some ({ filled with connectedClientsByName := byName },
              AddResult.added)
  else none

theorem deleteClientData_allocated {s : AuthState} {p : Addr}
    (hfree : s.clientDatas p = none) {clientData : ClientData}
    (hserver : clientData.server = none) :
    AuthState.deleteClientData
      { s with
        clientDatas := Function.update s.clientDatas p (some clientData) } p =
      some s := by
  have hheap : Function.update
      (Function.update s.clientDatas p (some clientData)) p none =
        s.clientDatas := by
    rw [Function.update_idem, ← hfree, Function.update_eq_self]
  simp only [deleteClientData, Function.update_self, Option.bind_eq_bind,
    Option.bind_some, destroyClientData, hserver, hheap]
  rfl

/-- Rolling back restores both maps and the heap. -/
theorem insertClient_eq (s : AuthState) (p : Addr) (clientInfo : Option Addr)
    (data : AccountData) :
    s.insertClient p clientInfo data = s.tryAddClient p clientInfo data := by
  unfold insertClient tryAddClient
  split
  · rename_i hfree
    cases hid : s.connectedClients.lookup data.accountId with
    | some oldClient =>
        have hdelete : AuthState.deleteClientData
            { s with
              clientDatas := Function.update s.clientDatas p
                (some (ClientData.create clientInfo)) } p = some s :=
          deleteClientData_allocated hfree rfl
        simp only [setClientData, emplace_of_some hid, hdelete,
          Option.map_some]
    | none =>
        cases hname :
            s.connectedClientsByName.lookup (toLower data.account) with
        | some oldClient =>
            have hdelete : AuthState.deleteClientData
                { s with
                  clientDatas := Function.update s.clientDatas p
                    (some (newClientData clientInfo data)) } p = some s :=
              deleteClientData_allocated hfree rfl
            simp only [setClientData, emplace_of_none hid,
              emplace_of_some hname, Function.update_idem, erase_insert hid,
              hdelete, Option.map_some]
        | none =>
            simp only [setClientData, emplace_of_none hid,
              emplace_of_none hname, Function.update_idem]
            rfl
  · rfl

/-!
## Calls
-/

/-- Who calls, and with what; a new object gets the address `newClient`. -/
inductive RegistryCall where
  | tryAddClient (newClient : Addr) (clientInfo : Option Addr)
      (data : AccountData)
  | removeClientByName (account : CharString)
  | removeClientById (accountId : UInt32)
  | removeClient (p : Addr)
  | removeServer (g : Addr)
  | switchClientToServer (p g : Addr) (oneTimePassword : UInt64)
  | connectedToGame (p : Addr) (now : Int64)

/-- Pointers that are passed point at live objects, new ones at free space. -/
def Callable (s : AuthState) : RegistryCall -> Prop
  | .tryAddClient newClient _ _ => s.clientDatas newClient = none
  | .removeClientByName _ => True
  | .removeClientById _ => True
  | .removeClient p => exists clientData, s.clientDatas p = some clientData
  | .removeServer _ => True
  | .switchClientToServer p g _ =>
      (exists clientData, s.clientDatas p = some clientData) ∧
        exists gameData, s.gameDatas g = some gameData
  | .connectedToGame p _ =>
      exists clientData, s.clientDatas p = some clientData

def call (s : AuthState) : RegistryCall -> Option AuthState
  | .tryAddClient newClient clientInfo data =>
      (s.insertClient newClient clientInfo data).map Prod.fst
  | .removeClientByName account => s.removeClientByName account
  | .removeClientById accountId => s.removeClientById accountId
  | .removeClient p => s.removeClient p
  | .removeServer g => s.removeServer g
  | .switchClientToServer p g oneTimePassword =>
      s.switchClientToServer p g oneTimePassword
  | .connectedToGame p now => s.connectedToGame p now

def CallStep (s : AuthState) (c : RegistryCall) (s' : AuthState) : Prop :=
  s.Callable c ∧ s.call c = some s'

def withServers (gameDatas : Addr -> Option GameData) : AuthState :=
  { AuthState.initial with gameDatas := gameDatas }

theorem indexed_withServers (gameDatas : Addr -> Option GameData) :
    Indexed (withServers gameDatas) := by
  constructor
  · exact consistent_initial.clients
  · constructor
    intro p clientData g h
    cases h

theorem indexed_register {s : AuthState} (h : Indexed s) {p : Addr}
    {clientInfo : Option Addr} {data : AccountData}
    (hvacant : Vacant s p data) :
    Indexed (s.register p (newClientData clientInfo data)) := by
  constructor
  · exact clientIndex_register h hvacant.free hvacant.id hvacant.name
  · apply h.bound.update
    intro g hserver
    cases hserver

theorem removeClientById_cases {s : AuthState} (h : Indexed s)
    (accountId : UInt32) :
    s.removeClientById accountId = some s ∨
      exists p clientData, s.clientDatas p = some clientData ∧
        s.removeClientById accountId = some (s.forget p clientData) := by
  cases hlookup : s.connectedClients.lookup accountId with
  | none =>
      left
      rw [removeClientById, hlookup]
  | some p =>
      right
      rcases h.clients.ofId hlookup with ⟨clientData, hp, hid⟩
      have heq := removeClientById_eq h hp
      rw [hid] at heq
      exact ⟨p, clientData, hp, heq⟩

theorem removeClientByName_cases {s : AuthState} (h : Indexed s)
    (account : CharString) :
    s.removeClientByName account = some s ∨
      exists p clientData, s.clientDatas p = some clientData ∧
        s.removeClientByName account = some (s.forget p clientData) := by
  cases hlookup : s.connectedClientsByName.lookup (toLower account) with
  | none =>
      left
      rw [removeClientByName, hlookup]
  | some p =>
      right
      rcases h.clients.ofName hlookup with ⟨clientData, hp, hname⟩
      have heq := removeClientByName_eq h hp
      rw [removeClientByName, hname] at heq
      exact ⟨p, clientData, hp, heq⟩

theorem indexed_setClientData {s : AuthState} (h : Indexed s) {p : Addr}
    {clientData clientData' : ClientData}
    (hp : s.clientDatas p = some clientData)
    (hid : clientData'.accountId = clientData.accountId)
    (haccount : clientData'.account = clientData.account)
    (hserver : forall g, clientData'.server = some g ->
      exists gameData, s.gameDatas g = some gameData) :
    Indexed (s.setClientData p clientData') :=
  ⟨h.clients.update hp hid haccount, h.bound.update hserver⟩

theorem countPlayer_indexed {s : AuthState} (h : Indexed s)
    {server : Option Addr} (hserver : forall g, server = some g ->
      exists gameData, s.gameDatas g = some gameData) :
    exists counted, s.countPlayer server = some counted ∧ Indexed counted ∧
      counted.clientDatas = s.clientDatas := by
  cases server with
  | none => exact ⟨s, rfl, h, rfl⟩
  | some g =>
      rcases hserver g rfl with ⟨gameData, hg⟩
      refine ⟨s.setGameData g gameData.incPlayerCount, ?_, ?_, rfl⟩
      · rw [countPlayer, hg, Option.map_some]
      · have hsame : SameServers s.gameDatas
            (s.setGameData g gameData.incPlayerCount).gameDatas :=
          SameServers.update hg rfl rfl
        exact ⟨h.clients, hsame.bound h.bound⟩

theorem call_indexed {s : AuthState} (h : Indexed s) {c : RegistryCall}
    (hc : s.Callable c) : exists s', s.call c = some s' ∧ Indexed s' := by
  cases c with
  | tryAddClient newClient clientInfo data =>
      rcases tryAddClient_total hc clientInfo data with ⟨result, hadd⟩
      refine ⟨result.1, ?_, ?_⟩
      · rw [call, insertClient_eq, hadd, Option.map_some]
      · cases tryAddClient_cases h hadd with
        | added hvacant => exact indexed_register h hvacant
        | conflict hold hsame => exact h
  | removeClientByName account =>
      rcases removeClientByName_cases h account with
        heq | ⟨p, clientData, hp, heq⟩
      · exact ⟨s, heq, h⟩
      · exact ⟨_, heq, indexed_forget h hp⟩
  | removeClientById accountId =>
      rcases removeClientById_cases h accountId with
        heq | ⟨p, clientData, hp, heq⟩
      · exact ⟨s, heq, h⟩
      · exact ⟨_, heq, indexed_forget h hp⟩
  | removeClient p =>
      rcases hc with ⟨clientData, hp⟩
      exact ⟨_, removeClient_eq h hp, indexed_forget h hp⟩
  | removeServer g =>
      rcases removeServer_forgets h g with ⟨s', hrun, hforgets, -⟩
      exact ⟨s', hrun, hforgets.indexed h⟩
  | switchClientToServer p g oneTimePassword =>
      rcases hc with ⟨⟨clientData, hp⟩, hg⟩
      have hserver : forall g', some g = some g' ->
          exists gameData, s.gameDatas g' = some gameData := by
        intro g' heq
        cases heq
        exact hg
      have hcall : s.call (.switchClientToServer p g oneTimePassword) =
          some (s.setClientData p
            { clientData with
              oneTimePassword := some oneTimePassword
              client := none
              server := some g }) := by
        rw [call, switchClientToServer, hp]
        rfl
      exact ⟨_, hcall, indexed_setClientData h hp rfl rfl hserver⟩
  | connectedToGame p now =>
      rcases hc with ⟨clientData, hp⟩
      rcases countPlayer_indexed h fun g => h.bound.server hp with
        ⟨counted, hcount, hindexed, hsame⟩
      rw [← hsame] at hp
      have hserver : forall g, clientData.server = some g ->
          exists gameData, counted.gameDatas g = some gameData :=
        fun g => hindexed.bound.server hp
      have hcall : s.call (.connectedToGame p now) =
          some (counted.setClientData p
            { clientData with inGame := true, loginTime := some now }) := by
        rw [call, connectedToGame, ← hsame, hp, Option.bind_eq_bind,
          Option.bind_some, hcount]
        rfl
      exact ⟨_, hcall, indexed_setClientData hindexed hp rfl rfl hserver⟩

theorem callStep_indexed {s s' : AuthState} {c : RegistryCall}
    (h : Indexed s) (hstep : CallStep s c s') : Indexed s' := by
  rcases call_indexed h hstep.left with ⟨found, hfound, hindexed⟩
  rw [hstep.right] at hfound
  cases hfound
  exact hindexed

theorem run_indexed {gameDatas : Addr -> Option GameData}
    {history : List RegistryCall} {s : AuthState}
    (hrun : Run CallStep (withServers gameDatas) history s) : Indexed s :=
  hrun.invariant (indexed_withServers gameDatas) callStep_indexed

/-!
## The indexes agree
-/

/-- A client that both maps hold, under its id and under its name. -/
structure InBoth (s : AuthState) (p : Addr) (clientData : ClientData) :
    Prop where
  live : s.clientDatas p = some clientData
  byId : s.connectedClients.lookup clientData.accountId = some p
  byName :
    s.connectedClientsByName.lookup (toLower clientData.account) = some p

/-- The two maps hold the same clients, under the right keys. -/
structure SameClients (s : AuthState) : Prop where
  ofId : forall accountId p, s.connectedClients.lookup accountId = some p ->
    exists clientData, InBoth s p clientData ∧
      clientData.accountId = accountId
  ofName : forall name p,
    s.connectedClientsByName.lookup name = some p ->
      exists clientData, InBoth s p clientData ∧
        toLower clientData.account = name
  oneById : forall p clientData q other, InBoth s p clientData ->
    InBoth s q other -> clientData.accountId = other.accountId -> p = q
  oneByName : forall p clientData q other, InBoth s p clientData ->
    InBoth s q other ->
      toLower clientData.account = toLower other.account -> p = q

theorem inBoth_of_live {s : AuthState} (h : Indexed s) {p : Addr}
    {clientData : ClientData} (hp : s.clientDatas p = some clientData) :
    InBoth s p clientData :=
  ⟨hp, h.clients.toId hp, h.clients.toName hp⟩

theorem sameClients {s : AuthState} (h : Indexed s) : SameClients s := by
  constructor
  · intro accountId p hlookup
    rcases h.clients.ofId hlookup with ⟨clientData, hp, hid⟩
    exact ⟨clientData, inBoth_of_live h hp, hid⟩
  · intro name p hlookup
    rcases h.clients.ofName hlookup with ⟨clientData, hp, hname⟩
    exact ⟨clientData, inBoth_of_live h hp, hname⟩
  · intro p clientData q other hp hq heq
    have hfirst := hp.byId
    rw [heq, hq.byId] at hfirst
    exact (Option.some.inj hfirst).symm
  · intro p clientData q other hp hq heq
    have hfirst := hp.byName
    rw [heq, hq.byName] at hfirst
    exact (Option.some.inj hfirst).symm

/-- What an attempt to add a client tells, when it fails. -/
def RefusesRightly (s : AuthState) : Prop :=
  forall newClient clientInfo data s' oldClient,
    s.insertClient newClient clientInfo data =
        some (s', AddResult.conflict oldClient) ->
      s'.connectedClients = s.connectedClients ∧
      s'.connectedClientsByName = s.connectedClientsByName ∧
      exists clientData, InBoth s oldClient clientData ∧
        (clientData.accountId = data.accountId ∨
          toLower clientData.account = toLower data.account)

theorem refusesRightly {s : AuthState} (h : Indexed s) :
    RefusesRightly s := by
  intro newClient clientInfo data s' oldClient hadd
  rw [insertClient_eq] at hadd
  generalize hresult : (s', AddResult.conflict oldClient) = result at hadd
  cases tryAddClient_cases h hadd with
  | added hvacant => cases hresult
  | conflict hold hsame =>
      cases hresult
      exact ⟨rfl, rfl, _, inBoth_of_live h hold, hsame⟩

end AuthState

end Auth
end Rzu
