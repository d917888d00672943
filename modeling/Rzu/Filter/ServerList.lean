import Rzu.Filter.Listeners
import Rzu.Library.Run

/-!
# Rewriting server lists

The filter gives each server of a list a listener of its own and puts the
address of that listener into the list.  Ports are handed out by the position
in the sorted list of the moment, and kept for good.
-/

namespace Rzu
namespace Filter

open Library

/-- The fields of `TS_SERVER_INFO` that the filter looks at. -/
structure ServerInfo where
  server_idx : Nat
  server_ip : Text
  server_port : Int
deriving DecidableEq, Repr

/-- Passing an integer as a `uint16_t`. -/
def toUint16 (n : Int) : Nat := (n % 65536).toNat

def ServerInfo.address (server : ServerInfo) : Address where
  serverIp := server.server_ip
  serverPort := toUint16 server.server_port

def nextListenPort (baseListenPort : Nat) : Nat :=
  if baseListenPort ≠ 0 then toUint16 (baseListenPort + 1)
  else baseListenPort

/-- The configuration that the filter rewrites lists with. -/
structure ClientConfig where
  gameExternalIp : Text
  gameBasePort : Int
  uploadBasePort : Int

namespace GameClientSessionManager

variable (host : Host) (config : ClientConfig)

/-- Make sure that there are listeners for some servers, one by one. -/
def ensureAll (m : GameClientSessionManager) (baseListenPort : Nat) :
    List Address -> List Nat × GameClientSessionManager
  | [] => ([], m)
  | address :: rest =>
      let first := m.ensureListening host baseListenPort address
      let later := ensureAll first.2 (nextListenPort baseListenPort) rest
      (first.1 :: later.1, later.2)

def serversOrdered (servers : List ServerInfo) (order : List Nat) :
    List ServerInfo :=
  order.filterMap fun i => servers[i]?

/-- `std::sort` leaves the order of equal indexes open. -/
structure Sorts (servers : List ServerInfo) (order : List Nat) : Prop where
  perm : order.Perm (List.range servers.length)
  sorted : (serversOrdered servers order).Pairwise fun a b =>
    a.server_idx ≤ b.server_idx

def rewriteServer (server : ServerInfo) (listenPort : Nat) : ServerInfo :=
  { server with
    server_ip := config.gameExternalIp
    server_port := listenPort }

/-- Write the addresses of the listeners through the sorted pointers. -/
def rewriteServers (servers : List ServerInfo) :
    List (Nat × Nat) -> List ServerInfo
  | [] => servers
  | (i, listenPort) :: rest =>
      rewriteServers
        (servers.modify i fun server =>
          rewriteServer config server listenPort) rest

/-- The branch of `onPacketReceived` for server lists. -/
def onServerList (m : GameClientSessionManager)
    (servers : List ServerInfo) (order : List Nat) :
    List ServerInfo × GameClientSessionManager :=
  let result := m.ensureAll host (toUint16 config.gameBasePort)
    ((serversOrdered servers order).map ServerInfo.address)
  (rewriteServers config servers (order.zip result.1), result.2)

inductive Event where
  /-- A server list arrives, and is sorted in some order. -/
  | serverList (servers : List ServerInfo) (order : List Nat)
  /-- An upload server is announced. -/
  | uploadServer (uploadBasePort : Nat) (address : Address)
  /-- The stream for an address is closed after it failed to listen. -/
  | connectionClosed (address : Address)
deriving DecidableEq

inductive Step : GameClientSessionManager -> Event ->
    GameClientSessionManager -> Prop where
  | serverList {m : GameClientSessionManager} {servers : List ServerInfo}
      {order : List Nat} (hsorts : Sorts servers order) :
      Step m (Event.serverList servers order)
        (m.onServerList host config servers order).2
  | uploadServer {m : GameClientSessionManager} (uploadBasePort : Nat)
      (address : Address) :
      Step m (Event.uploadServer uploadBasePort address)
        (m.ensureListening host uploadBasePort address).2
  | connectionClosed {m : GameClientSessionManager} (address : Address) :
      Step m (Event.connectionClosed address) (m.connectionClosed address)

/-!
## Ports by position
-/

def slot (baseListenPort : Nat) (position : Nat) : Nat :=
  if baseListenPort = 0 ∨ 65536 ≤ baseListenPort + position then 0
  else baseListenPort + position

theorem toUint16_lt (n : Int) : toUint16 n < 65536 := by
  unfold toUint16
  lia

theorem slot_zero {baseListenPort : Nat} (h : baseListenPort < 65536) :
    slot baseListenPort 0 = baseListenPort := by
  unfold slot
  split <;> lia

theorem nextListenPort_lt {baseListenPort : Nat}
    (h : baseListenPort < 65536) : nextListenPort baseListenPort < 65536 := by
  unfold nextListenPort
  split
  · exact toUint16_lt _
  · exact h

theorem slot_next {baseListenPort : Nat} (h : baseListenPort < 65536)
    (position : Nat) :
    slot (nextListenPort baseListenPort) position =
      slot baseListenPort (position + 1) := by
  unfold slot nextListenPort toUint16
  split <;> split <;> split <;> lia

theorem slot_succ_ne {baseListenPort : Nat} (h : baseListenPort ≠ 0)
    (position : Nat) : slot baseListenPort (position + 1) ≠ baseListenPort := by
  unfold slot
  split <;> lia

/-- Each server listens, or finds the port of its position free. -/
def Placed (m : GameClientSessionManager) (baseListenPort : Nat)
    (addresses : List Address) : Prop :=
  forall position a, addresses[position]? = some a ->
    (exists port, m.Listens a port) ∨
      a ∈ addresses.take position ∨
      (m.socketOf a = ServerSocket.unconnected ∧
        (slot baseListenPort position = 0 ∨
          slot baseListenPort position ∉ m.used))

def FreeFrom (baseListenPort : Nat) : Prop :=
  forall port, baseListenPort ≤ port -> host.taken port = false

variable {host} {m : GameClientSessionManager}

theorem FreeFrom.next {baseListenPort : Nat}
    (h : FreeFrom host baseListenPort) (hlt : baseListenPort < 65536) :
    nextListenPort baseListenPort = 0 ∨
      FreeFrom host (nextListenPort baseListenPort) := by
  unfold nextListenPort toUint16
  split
  · by_cases hwrap : baseListenPort + 1 = 65536
    · left
      lia
    · right
      intro port hport
      apply h
      lia
  · left
    lia

/-- Free ports from the base port on, if there is one. -/
def Available (host : Host) (baseListenPort : Nat) : Prop :=
  baseListenPort = 0 ∨ FreeFrom host baseListenPort

theorem Available.next {baseListenPort : Nat}
    (h : Available host baseListenPort) (hlt : baseListenPort < 65536) :
    Available host (nextListenPort baseListenPort) := by
  rcases h with hzero | hfree
  · left
    rw [hzero]
    rfl
  · exact hfree.next hlt

theorem Available.listen {baseListenPort : Nat} {used : List Nat}
    (h : Available host baseListenPort) :
    (exists port, host.listen used baseListenPort = some port) ↔
      baseListenPort = 0 ∨ baseListenPort ∉ used := by
  unfold Host.listen
  by_cases hzero : baseListenPort = 0
  · rw [if_pos hzero]
    exact ⟨fun _ => Or.inl hzero, fun _ => ⟨_, rfl⟩⟩
  · have hfree : host.taken baseListenPort = false := by
      rcases h with h | h
      · exact absurd h hzero
      · exact h baseListenPort (Nat.le_refl _)
    rw [if_neg hzero]
    by_cases hused : baseListenPort ∈ used
    · rw [if_pos (Or.inr hused)]
      constructor
      · rintro ⟨port, hport⟩
        cases hport
      · rintro (h | h)
        · exact absurd h hzero
        · exact absurd hused h
    · rw [if_neg (by rw [hfree]; simp [hused])]
      exact ⟨fun _ => Or.inr hused, fun _ => ⟨_, rfl⟩⟩

theorem listen_eq {used : List Nat} {baseListenPort port : Nat}
    (h : host.listen used baseListenPort = some port) :
    baseListenPort = 0 ∨ port = baseListenPort := by
  unfold Host.listen at h
  split at h
  · rename_i hzero
    exact Or.inl hzero
  · split at h
    · cases h
    · cases h
      exact Or.inr rfl

theorem ensureListening_ne_zero_iff (hm : m.Consistent)
    {baseListenPort : Nat} (havail : Available host baseListenPort)
    (a : Address) :
    (m.ensureListening host baseListenPort a).1 ≠ 0 ↔
      (exists port, m.Listens a port) ∨
        (m.socketOf a = ServerSocket.unconnected ∧
          (baseListenPort = 0 ∨ baseListenPort ∉ m.used)) := by
  rw [← havail.listen]
  have hcases := ensureListening_cases host m baseListenPort a
  generalize m.ensureListening host baseListenPort a = result at hcases ⊢
  cases hcases with
  | started hlistens =>
      exact ⟨fun _ => Or.inl ⟨_, hlistens⟩, fun _ => hm.positive hlistens⟩
  | closing hclosing =>
      constructor
      · intro h
        exact absurd rfl h
      · rintro (⟨port, hlistens⟩ | ⟨hidle, -⟩)
        · exact absurd (hclosing.symm.trans hlistens) nofun
        · exact absurd (hclosing.symm.trans hidle) nofun
  | listens hidle hlisten =>
      constructor
      · intro _
        exact Or.inr ⟨hidle, _, hlisten⟩
      · intro _
        exact (Host.listen_fresh hlisten).left
  | fails hidle hlisten =>
      constructor
      · intro h
        exact absurd rfl h
      · rintro (⟨port, hlistens⟩ | ⟨-, port, hport⟩)
        · exact absurd (hidle.symm.trans hlistens) nofun
        · exact absurd (hlisten.symm.trans hport) nofun

theorem ensureListening_idle_iff (hm : m.Consistent)
    {baseListenPort : Nat} {a b : Address} (hne : b ≠ a) {port : Nat}
    (hport : port = 0 ∨ port ≠ baseListenPort)
    (hany : baseListenPort = 0 -> port = 0) :
    ((m.ensureListening host baseListenPort a).2.socketOf b =
        ServerSocket.unconnected ∧
      (port = 0 ∨ port ∉ (m.ensureListening host baseListenPort a).2.used)) ↔
        (m.socketOf b = ServerSocket.unconnected ∧
          (port = 0 ∨ port ∉ m.used)) := by
  have hm' : (m.ensureListening host baseListenPort a).2.Consistent :=
    hm.ensureListening baseListenPort a
  have hcases := ensureListening_cases host m baseListenPort a
  generalize m.ensureListening host baseListenPort a = result at hcases hm' ⊢
  have hsame : forall socket, (m.put a socket).socketOf b = m.socketOf b := by
    intro socket
    rw [socketOf_put, if_neg hne]
  have hput : forall {socket}, (m.put a socket).Consistent ->
      (forall q, m.socketOf a ≠ ServerSocket.listening q) ->
      (port ≠ 0 -> socket ≠ ServerSocket.listening port) ->
      (port ∉ (m.put a socket).used ∨ port = 0 ↔
        port ∉ m.used ∨ port = 0) := by
    intro socket hnew hold hsocket
    by_cases hzero : port = 0
    · simp [hzero]
    · simp only [hzero, or_false]
      rw [hnew.mem_used, hm.mem_used, put_otherListeners]
      apply not_congr
      apply or_congr_right
      constructor
      · rintro ⟨c, hc⟩
        refine ⟨c, ?_⟩
        unfold Listens at hc
        rw [socketOf_put] at hc
        split at hc
        · exact absurd hc (hsocket hzero)
        · exact hc
      · rintro ⟨c, hc⟩
        refine ⟨c, ?_⟩
        unfold Listens
        rw [socketOf_put, if_neg]
        · exact hc
        · intro heq
          rw [heq] at hc
          exact hold port hc
  cases hcases with
  | started hlistens => exact Iff.rfl
  | closing hclosing =>
      rw [hsame, or_comm, hput hm' (by rw [hclosing]; exact nofun)
        fun _ => nofun, or_comm]
  | listens hidle hlisten =>
      rw [hsame, or_comm, hput hm' (by rw [hidle]; exact nofun), or_comm]
      intro hzero heq
      cases heq
      rcases listen_eq hlisten with hbase | hbase
      · exact hzero (hany hbase)
      · rcases hport with h | h
        · exact hzero h
        · exact h hbase
  | fails hidle hlisten =>
      rw [hsame, or_comm, hput hm' (by rw [hidle]; exact nofun)
        fun _ => nofun, or_comm]

theorem ensureListening_listens_iff {baseListenPort : Nat}
    {a b : Address} (hne : b ≠ a) {port : Nat} :
    (m.ensureListening host baseListenPort a).2.Listens b port ↔
      m.Listens b port := by
  have hcases := ensureListening_cases host m baseListenPort a
  generalize m.ensureListening host baseListenPort a = result at hcases ⊢
  unfold Listens
  cases hcases with
  | started hlistens => exact Iff.rfl
  | closing hclosing => rw [socketOf_put, if_neg hne]
  | listens hidle hlisten => rw [socketOf_put, if_neg hne]
  | fails hidle hlisten => rw [socketOf_put, if_neg hne]

theorem placed_cons_iff (hm : m.Consistent) {baseListenPort : Nat}
    (havail : Available host baseListenPort) (hlt : baseListenPort < 65536)
    (a : Address) (rest : List Address) :
    Placed m baseListenPort (a :: rest) ↔
      (m.ensureListening host baseListenPort a).1 ≠ 0 ∧
        Placed (m.ensureListening host baseListenPort a).2
          (nextListenPort baseListenPort) rest := by
  have hhead := ensureListening_ne_zero_iff hm havail a
  have hany : forall position, baseListenPort = 0 ->
      slot baseListenPort position = 0 := by
    intro position hzero
    unfold slot
    rw [if_pos (Or.inl hzero)]
  have hslot : forall position,
      slot baseListenPort (position + 1) = 0 ∨
        slot baseListenPort (position + 1) ≠ baseListenPort := by
    intro position
    by_cases hzero : baseListenPort = 0
    · exact Or.inl (hany _ hzero)
    · exact Or.inr (slot_succ_ne hzero position)
  constructor
  · intro h
    have hfirst : (m.ensureListening host baseListenPort a).1 ≠ 0 := by
      apply hhead.mpr
      rcases h 0 a rfl with hlistens | hmem | hidle
      · exact Or.inl hlistens
      · cases hmem
      · rw [slot_zero hlt] at hidle
        exact Or.inr hidle
    refine ⟨hfirst, ?_⟩
    intro position b hb
    by_cases heq : b = a
    · left
      rw [heq]
      exact ⟨_, listens_of_ensureListening hfirst⟩
    · rcases h (position + 1) b hb with ⟨port, hlistens⟩ | hmem | hidle
      · exact Or.inl ⟨port, (ensureListening_listens_iff heq).mpr hlistens⟩
      · rcases List.mem_cons.mp hmem with hba | hmem
        · exact absurd hba heq
        · exact Or.inr (Or.inl hmem)
      · right
        right
        rw [slot_next hlt]
        exact (ensureListening_idle_iff hm heq (hslot position)
          (hany _)).mpr hidle
  · rintro ⟨hfirst, h⟩
    intro position b hb
    cases position with
    | zero =>
        cases hb
        rcases hhead.mp hfirst with hlistens | hidle
        · exact Or.inl hlistens
        · right
          right
          rw [slot_zero hlt]
          exact hidle
    | succ position =>
        by_cases heq : b = a
        · right
          left
          rw [heq, List.take_succ_cons]
          exact List.mem_cons_self
        · rcases h position b hb with ⟨port, hlistens⟩ | hmem | hidle
          · exact Or.inl ⟨port, (ensureListening_listens_iff heq).mp hlistens⟩
          · right
            left
            rw [List.take_succ_cons]
            exact List.mem_cons_of_mem _ hmem
          · right
            right
            rw [slot_next hlt] at hidle
            exact (ensureListening_idle_iff hm heq (hslot position)
              (hany _)).mp hidle

theorem Consistent.ensureAll (hm : m.Consistent) (baseListenPort : Nat)
    (addresses : List Address) :
    (m.ensureAll host baseListenPort addresses).2.Consistent := by
  induction addresses generalizing m baseListenPort with
  | nil => exact hm
  | cons a rest ih => exact ih (hm.ensureListening baseListenPort a) _

theorem Listens.ensureAll {b : Address} {port : Nat}
    (h : m.Listens b port) (baseListenPort : Nat)
    (addresses : List Address) :
    (m.ensureAll host baseListenPort addresses).2.Listens b port := by
  induction addresses generalizing m baseListenPort with
  | nil => exact h
  | cons a rest ih => exact ih (h.ensureListening baseListenPort a) _

theorem ensureAll_length (m : GameClientSessionManager)
    (baseListenPort : Nat) (addresses : List Address) :
    (m.ensureAll host baseListenPort addresses).1.length =
      addresses.length := by
  induction addresses generalizing m baseListenPort with
  | nil => rfl
  | cons a rest ih => exact congrArg (· + 1) (ih _ _)

theorem ensureAll_ne_zero_iff (hm : m.Consistent) {baseListenPort : Nat}
    (havail : Available host baseListenPort) (hlt : baseListenPort < 65536)
    (addresses : List Address) :
    (forall port,
      port ∈ (m.ensureAll host baseListenPort addresses).1 -> port ≠ 0) ↔
        Placed m baseListenPort addresses := by
  induction addresses generalizing m baseListenPort with
  | nil => exact ⟨fun _ => nofun, fun _ => nofun⟩
  | cons a rest ih =>
      rw [placed_cons_iff hm havail hlt, ensureAll,
        ← ih (hm.ensureListening baseListenPort a) (havail.next hlt)
          (nextListenPort_lt hlt)]
      constructor
      · intro h
        refine ⟨h _ List.mem_cons_self, ?_⟩
        intro port hport
        exact h port (List.mem_cons_of_mem _ hport)
      · rintro ⟨hfirst, hrest⟩ port hport
        rcases List.mem_cons.mp hport with heq | hport
        · rw [heq]
          exact hfirst
        · exact hrest port hport

theorem ensureAll_listens {baseListenPort : Nat}
    {addresses : List Address} {position port : Nat} {a : Address}
    (haddress : addresses[position]? = some a)
    (hport : (m.ensureAll host baseListenPort addresses).1[position]? =
      some port) (hne : port ≠ 0) :
    (m.ensureAll host baseListenPort addresses).2.Listens a port := by
  induction addresses generalizing m baseListenPort position with
  | nil => cases haddress
  | cons b rest ih =>
      cases position with
      | zero =>
          cases haddress
          cases hport
          exact (listens_of_ensureListening hne).ensureAll _ _
      | succ position => exact ih haddress hport

/-!
## Writing the addresses back
-/

variable (config : ClientConfig)

theorem rewriteServers_of_notMem (servers : List ServerInfo)
    {ports : List (Nat × Nat)} {i : Nat}
    (h : i ∉ ports.map Prod.fst) :
    (rewriteServers config servers ports)[i]? = servers[i]? := by
  induction ports generalizing servers with
  | nil => rfl
  | cons first rest ih =>
      rw [List.map_cons, List.mem_cons, not_or] at h
      have hne : first.1 ≠ i := fun heq => h.left heq.symm
      rw [rewriteServers, ih _ h.right, List.getElem?_modify_ne _ _ hne]

theorem rewriteServers_of_mem (servers : List ServerInfo)
    {ports : List (Nat × Nat)} (hnodup : (ports.map Prod.fst).Nodup)
    {i port : Nat} (h : (i, port) ∈ ports) :
    (rewriteServers config servers ports)[i]? =
      servers[i]?.map fun server => rewriteServer config server port := by
  induction ports generalizing servers with
  | nil => cases h
  | cons first rest ih =>
      rw [List.map_cons, List.nodup_cons] at hnodup
      rcases List.mem_cons.mp h with heq | hmem
      · cases heq
        rw [rewriteServers, rewriteServers_of_notMem config _ hnodup.left,
          List.getElem?_modify_eq]
        rfl
      · have hne : first.1 ≠ i := by
          intro heq
          apply hnodup.left
          rw [heq]
          exact List.mem_map.mpr ⟨_, hmem, rfl⟩
        rw [rewriteServers, ih _ hnodup.right hmem,
          List.getElem?_modify_ne _ _ hne]

namespace Sorts

variable {servers : List ServerInfo} {order : List Nat}

theorem lt (h : Sorts servers order) {i : Nat} (hi : i ∈ order) :
    i < servers.length :=
  List.mem_range.mp (h.perm.mem_iff.mp hi)

theorem serversOrdered_getElem? (h : Sorts servers order)
    {position i : Nat} (hi : order[position]? = some i) :
    (serversOrdered servers order)[position]? = servers[i]? := by
  have hlt : forall j, j ∈ order -> j < servers.length := fun _ => h.lt
  clear h
  unfold serversOrdered
  induction order generalizing position with
  | nil => cases hi
  | cons first rest ih =>
      have hfirst := hlt first List.mem_cons_self
      rw [List.filterMap_cons, List.getElem?_eq_getElem hfirst]
      cases position with
      | zero =>
          cases hi
          rw [List.getElem?_eq_getElem hfirst]
          rfl
      | succ position =>
          exact ih hi fun j hj => hlt j (List.mem_cons_of_mem _ hj)

theorem length_serversOrdered (h : Sorts servers order) :
    (serversOrdered servers order).length = order.length := by
  have hlt : forall j, j ∈ order -> j < servers.length := fun _ => h.lt
  clear h
  unfold serversOrdered
  induction order with
  | nil => rfl
  | cons first rest ih =>
      have hfirst := hlt first List.mem_cons_self
      rw [List.filterMap_cons, List.getElem?_eq_getElem hfirst]
      exact congrArg (· + 1)
        (ih fun j hj => hlt j (List.mem_cons_of_mem _ hj))

theorem exists_position (h : Sorts servers order) {i : Nat}
    {server : ServerInfo} (hserver : servers[i]? = some server) :
    exists position : Nat, order[position]? = some i := by
  apply List.mem_iff_getElem?.mp
  apply h.perm.mem_iff.mpr
  apply List.mem_range.mpr
  exact (List.getElem?_eq_some_iff.mp hserver).choose

end Sorts

/-- An entry that leads, through a running listener, to its own server. -/
def Served (m : GameClientSessionManager)
    (server rewritten : ServerInfo) : Prop :=
  rewritten.server_port ≠ 0 ∧
    exists key serverFilter port,
      m.gameClientServers.lookup key = some serverFilter ∧
      serverFilter.serverSocket = ServerSocket.listening port ∧
      (port : Int) = rewritten.server_port ∧
      serverFilter.serverParameters.serverIp = server.server_ip ∧
      (serverFilter.serverParameters.serverPort : Int) = server.server_port

structure WellRewritten (m : GameClientSessionManager)
    (servers rewritten : List ServerInfo) : Prop where
  served : forall {i : Nat} {server server' : ServerInfo},
    servers[i]? = some server -> rewritten[i]? = some server' ->
      Served m server server'
  distinct : forall {i j : Nat} {s s' t t' : ServerInfo},
    servers[i]? = some s -> rewritten[i]? = some s' ->
    servers[j]? = some t -> rewritten[j]? = some t' ->
    s'.server_port = t'.server_port ->
      s.server_ip = t.server_ip ∧ s.server_port = t.server_port

/-- Ports that a `uint16_t` can hold. -/
def PortsFit (servers : List ServerInfo) : Prop :=
  forall server, server ∈ servers ->
    0 ≤ server.server_port ∧ server.server_port < 65536

theorem toUint16_of_fits {n : Int} (h : 0 ≤ n ∧ n < 65536) :
    (toUint16 n : Int) = n := by
  unfold toUint16
  lia

theorem Served.listens (hm : m.Consistent) {server rewritten : ServerInfo}
    (h : Served m server rewritten) :
    exists a port, m.Listens a port ∧
      (port : Int) = rewritten.server_port ∧
      a.serverIp = server.server_ip ∧
      (a.serverPort : Int) = server.server_port := by
  rcases h with ⟨-, key, serverFilter, port, hlookup, hsocket, hport, hip,
    hserver⟩
  refine ⟨serverFilter.serverParameters, port, ?_, hport, hip, hserver⟩
  unfold Listens socketOf
  rw [hm.keyed hlookup, hlookup]
  exact hsocket

theorem Listens.served (hm : m.Consistent) {server rewritten : ServerInfo}
    {port : Nat} (h : m.Listens server.address port)
    (hport : (port : Int) = rewritten.server_port)
    (hfits : 0 ≤ server.server_port ∧ server.server_port < 65536) :
    Served m server rewritten := by
  have hpos := hm.positive h
  refine ⟨by lia, ?_⟩
  unfold Listens socketOf at h
  split at h
  · cases h
  · rename_i serverFilter hlookup
    have hparameters := hm.parameters hlookup
    refine ⟨_, serverFilter, port, hlookup, h, hport, ?_, ?_⟩
    · rw [hparameters]
      rfl
    · rw [hparameters]
      exact toUint16_of_fits hfits

/-- The ports that the servers of a sorted list get. -/
def listenPorts (host : Host) (m : GameClientSessionManager)
    (servers : List ServerInfo) (order : List Nat) : List Nat :=
  (m.ensureAll host (toUint16 config.gameBasePort)
    ((serversOrdered servers order).map ServerInfo.address)).1

theorem length_listenPorts (host : Host) (m : GameClientSessionManager)
    {servers : List ServerInfo} {order : List Nat}
    (hsorts : Sorts servers order) :
    (listenPorts config host m servers order).length = order.length := by
  rw [listenPorts, ensureAll_length, List.length_map,
    hsorts.length_serversOrdered]

/-- What happens to the entry at a position of the sorted list. -/
theorem onServerList_getElem? (host : Host)
    (m : GameClientSessionManager) {servers : List ServerInfo}
    {order : List Nat} (hsorts : Sorts servers order) {position i : Nat}
    (hi : order[position]? = some i) :
    exists server port,
      servers[i]? = some server ∧
      (serversOrdered servers order)[position]? = some server ∧
      (listenPorts config host m servers order)[position]? = some port ∧
      (m.onServerList host config servers order).1[i]? =
        some (rewriteServer config server port) := by
  have hlength := length_listenPorts config host m hsorts
  have hposition : position < order.length :=
    (List.getElem?_eq_some_iff.mp hi).choose
  have hserver := List.getElem?_eq_getElem
    (hsorts.lt (List.mem_of_getElem? hi))
  have hport := List.getElem?_eq_getElem (hlength ▸ hposition)
  refine ⟨_, _, hserver, ?_, hport, ?_⟩
  · rw [hsorts.serversOrdered_getElem? hi, hserver]
  · change (rewriteServers config servers
      (order.zip (listenPorts config host m servers order)))[i]? = _
    rw [rewriteServers_of_mem config servers _ (i := i), hserver,
      Option.map_some]
    · apply List.mem_iff_getElem?.mpr
      refine ⟨position, ?_⟩
      rw [List.getElem?_zip_eq_some]
      exact ⟨hi, hport⟩
    · rw [List.map_fst_zip (Nat.le_of_eq hlength.symm)]
      exact hsorts.perm.nodup_iff.mpr List.nodup_range

theorem rewriteServer_port (server : ServerInfo) (port : Nat) :
    (rewriteServer config server port).server_port = port := rfl

/-- A list is rewritten well exactly if all of its servers are placed. -/
theorem onServerList_wellRewritten_iff (hm : m.Consistent)
    (havail : Available host (toUint16 config.gameBasePort))
    {servers : List ServerInfo} {order : List Nat}
    (hsorts : Sorts servers order) :
    WellRewritten (m.onServerList host config servers order).2 servers
        (m.onServerList host config servers order).1 ↔
      Placed m (toUint16 config.gameBasePort)
          ((serversOrdered servers order).map ServerInfo.address) ∧
        PortsFit servers := by
  have hm' : (m.onServerList host config servers order).2.Consistent :=
    hm.ensureAll _ _
  rw [← ensureAll_ne_zero_iff hm havail (toUint16_lt _)]
  change _ ↔ (forall port,
    port ∈ listenPorts config host m servers order -> port ≠ 0) ∧ _
  constructor
  · intro h
    constructor
    · intro port hport
      rcases List.mem_iff_getElem?.mp hport with ⟨position, hposition⟩
      have hlt := (List.getElem?_eq_some_iff.mp hposition).choose
      rw [length_listenPorts config host m hsorts] at hlt
      rcases onServerList_getElem? config host m hsorts
        (List.getElem?_eq_getElem hlt) with
        ⟨server, port', hserver, -, hport', hrewritten⟩
      have hserved := (h.served hserver hrewritten).left
      rw [hposition] at hport'
      cases hport'
      rw [rewriteServer_port] at hserved
      lia
    · intro server hmem
      rcases List.mem_iff_getElem?.mp hmem with ⟨i, hserver⟩
      rcases hsorts.exists_position hserver with ⟨position, hi⟩
      rcases onServerList_getElem? config host m hsorts hi
        with ⟨server', port, hserver', hordered, hport, hrewritten⟩
      rw [hserver] at hserver'
      cases hserver'
      have hserved := h.served hserver hrewritten
      have hne := hserved.left
      rw [rewriteServer_port] at hne
      have haddress : ((serversOrdered servers order).map
          ServerInfo.address)[position]? = some server.address := by
        rw [List.getElem?_map, hordered]
        rfl
      have hlistens := ensureAll_listens haddress hport (by lia)
      rcases hserved.listens hm' with ⟨a, q, ha, hq, -, hserverPort⟩
      rw [rewriteServer_port] at hq
      cases Int.ofNat.inj hq
      cases hm'.distinct ha hlistens
      change ((toUint16 server.server_port : Nat) : Int) = _ at hserverPort
      have hlt := toUint16_lt server.server_port
      lia
  · rintro ⟨hports, hfits⟩
    have hlistens : forall {i : Nat} {server server' : ServerInfo},
        servers[i]? = some server ->
        (m.onServerList host config servers order).1[i]? = some server' ->
        exists port : Nat, (port : Int) = server'.server_port ∧
          (m.onServerList host config servers order).2.Listens
            server.address port := by
      intro i server server' hserver hserver'
      rcases hsorts.exists_position hserver with ⟨position, hi⟩
      rcases onServerList_getElem? config host m hsorts hi
        with ⟨original, port, horiginal, hordered, hport, hrewritten⟩
      rw [hserver] at horiginal
      cases horiginal
      rw [hserver'] at hrewritten
      cases hrewritten
      refine ⟨port, rfl, ensureAll_listens ?_ hport
        (hports port (List.mem_of_getElem? hport))⟩
      rw [List.getElem?_map, hordered]
      rfl
    constructor
    · intro i server server' hserver hserver'
      rcases hlistens hserver hserver' with ⟨port, hport, hlisten⟩
      exact hlisten.served hm' hport
        (hfits server (List.mem_of_getElem? hserver))
    · intro i j s s' t t' hs hs' ht ht' hequal
      rcases hlistens hs hs' with ⟨p, hp, hlistenS⟩
      rcases hlistens ht ht' with ⟨q, hq, hlistenT⟩
      have hpq : p = q := by
        lia
      subst hpq
      have haddress := hm'.distinct hlistenS hlistenT
      have hsFits := toUint16_of_fits
        (hfits s (List.mem_of_getElem? hs))
      have htFits := toUint16_of_fits
        (hfits t (List.mem_of_getElem? ht))
      have hport : toUint16 s.server_port = toUint16 t.server_port :=
        congrArg Address.serverPort haddress
      refine ⟨congrArg Address.serverIp haddress, ?_⟩
      rw [← hsFits, ← htFits, hport]

/-!
## Whole runs
-/

theorem Step.consistent {event : Event} {m' : GameClientSessionManager}
    (hm : m.Consistent) (h : Step host config m event m') :
    m'.Consistent := by
  cases h with
  | serverList hsorts => exact hm.ensureAll _ _
  | uploadServer uploadBasePort address => exact hm.ensureListening _ _
  | connectionClosed address => exact hm.connectionClosed address

/-- If the step rewrites a list, it does so well. -/
def WellServed (host : Host) (config : ClientConfig)
    (m : GameClientSessionManager) (event : Event)
    (m' : GameClientSessionManager) : Prop :=
  match event with
  | Event.serverList servers order =>
      WellRewritten m' servers (m.onServerList host config servers order).1
  | _ => True

/-- If the step rewrites a list, its servers are placed. -/
def WellPlaced (config : ClientConfig) (m : GameClientSessionManager)
    (event : Event) (_ : GameClientSessionManager) : Prop :=
  match event with
  | Event.serverList servers order =>
      Placed m (toUint16 config.gameBasePort)
          ((serversOrdered servers order).map ServerInfo.address) ∧
        PortsFit servers
  | _ => True

theorem Step.wellServed_iff {event : Event} {m' : GameClientSessionManager}
    (hm : m.Consistent)
    (havail : Available host (toUint16 config.gameBasePort))
    (h : Step host config m event m') :
    WellServed host config m event m' ↔ WellPlaced config m event m' := by
  cases h with
  | serverList hsorts =>
      exact onServerList_wellRewritten_iff config hm havail hsorts
  | uploadServer uploadBasePort address => exact Iff.rfl
  | connectionClosed address => exact Iff.rfl

/--
Along a run every list is rewritten well exactly if the servers of every list
listen already or find the port of their position free.
-/
theorem wellServed_iff_wellPlaced {otherListeners : List Nat}
    (havail : Available host (toUint16 config.gameBasePort))
    (history : List Event) :
    AtEachStep (Step host config) (create otherListeners)
        (WellServed host config) history ↔
      AtEachStep (Step host config) (create otherListeners)
        (WellPlaced config) history := by
  have hconsistent : forall {earlier s},
      Run (Step host config) (create otherListeners) earlier s ->
        s.Consistent :=
    fun hrun => hrun.invariant (create_consistent otherListeners)
      fun hs hstep => Step.consistent config hs hstep
  constructor
  · intro h before event after s s' heq hbefore hstep
    exact (hstep.wellServed_iff config (hconsistent hbefore) havail).mp
      (h before event after s s' heq hbefore hstep)
  · intro h before event after s s' heq hbefore hstep
    exact (hstep.wellServed_iff config (hconsistent hbefore) havail).mpr
      (h before event after s s' heq hbefore hstep)

theorem lt_of_mem_foldr {used : List Nat} {port : Nat} (h : port ∈ used) :
    port < used.foldr max 0 + 1 := by
  induction used with
  | nil => cases h
  | cons first rest ih =>
      rw [List.foldr_cons]
      rcases List.mem_cons.mp h with heq | hmem
      · rw [heq]
        lia
      · have hlt := ih hmem
        lia

/-- A machine on which nothing else listens. -/
def idleHost : Host where
  taken _ := false
  ephemeral used := used.foldr max 0 + 1
  ephemeral_pos _ := Nat.succ_ne_zero _
  ephemeral_fresh _ hmem := Nat.lt_irrefl _ (lt_of_mem_foldr hmem)

theorem idleHost_available (baseListenPort : Nat) :
    Available idleHost baseListenPort :=
  Or.inr fun _ _ => rfl

def localConfig : ClientConfig where
  gameExternalIp := "127.0.0.1".toList
  gameBasePort := 5000
  uploadBasePort := 6000

def firstServer : ServerInfo where
  server_idx := 1
  server_ip := "10.0.0.1".toList
  server_port := 4514

/-- A server that comes before the other one in a list. -/
def secondServer : ServerInfo where
  server_idx := 0
  server_ip := "10.0.0.2".toList
  server_port := 4514

theorem wellServed_iff_firstServer :
    AtEachStep (Step idleHost localConfig) (create [4500])
        (WellServed idleHost localConfig)
        [Event.serverList [firstServer] [0]] ↔
      AtEachStep (Step idleHost localConfig) (create [4500])
        (WellPlaced localConfig) [Event.serverList [firstServer] [0]] :=
  wellServed_iff_wellPlaced localConfig (idleHost_available _) _

/-- The first server keeps the port that the second one is meant to get. -/
theorem not_wellServed_secondServer :
    ¬AtEachStep (Step idleHost localConfig) (create [4500])
      (WellServed idleHost localConfig)
      [Event.serverList [firstServer] [0],
        Event.serverList [secondServer, firstServer] [0, 1]] := by
  intro h
  have hfirst : Sorts [firstServer] [0] :=
    ⟨by decide, by decide⟩
  have hsecond : Sorts [secondServer, firstServer] [0, 1] :=
    ⟨by decide, by decide⟩
  have hstep : Step idleHost localConfig (create [4500])
      (Event.serverList [firstServer] [0]) _ := Step.serverList hfirst
  have hserved := h _ _ [] _ _ rfl (Run.snoc Run.nil hstep)
    (Step.serverList hsecond)
  have hentry : (((create [4500]).onServerList idleHost localConfig
      [firstServer] [0]).2.onServerList idleHost localConfig
        [secondServer, firstServer] [0, 1]).1[0]? =
      some
        { secondServer with
          server_ip := "127.0.0.1".toList
          server_port := 0 } := by
    decide +kernel
  exact (hserved.served (i := 0) rfl hentry).left rfl

end GameClientSessionManager

end Filter
end Rzu
