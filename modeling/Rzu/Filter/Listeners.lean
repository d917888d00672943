import Mathlib.Data.List.AList

/-!
# The listeners of the filter

`GameClientSessionManager` keeps a listener for each server that clients reach
through the filter, under the address of the server.  A listener is never
given up once it runs.
-/

namespace Rzu
namespace Filter

/-- The bytes of a string, each of them as a character. -/
abbrev Text := List Char

/-- Where the sessions of a listener connect to. -/
structure Address where
  serverIp : Text
  serverPort : Nat
deriving DecidableEq, Repr

/-- `Utils::convertToString` for numbers that are not negative. -/
def convertToString (n : Nat) : Text :=
  Nat.toDigits 10 n

def Address.key (address : Address) : Text :=
  address.serverIp ++ ':' :: convertToString address.serverPort

inductive ServerSocket where
  | unconnected
  | listening (port : Nat)
  /-- The stream is closed after it failed to listen. -/
  | closing
deriving DecidableEq, Repr

structure ServerFilter where
  serverParameters : Address
  serverSocket : ServerSocket
deriving DecidableEq, Repr

/-- The ports of the machine, apart from the filter's own listeners. -/
structure Host where
  /-- Another program uses the port. -/
  taken : Nat -> Bool
  /-- The port that is given to a listener that asks for none. -/
  ephemeral : List Nat -> Nat
  ephemeral_pos : forall used, ephemeral used ≠ 0
  ephemeral_fresh : forall used, ephemeral used ∉ used

def Host.listen (host : Host) (used : List Nat) (port : Nat) : Option Nat :=
  if port = 0 then some (host.ephemeral used)
  else if host.taken port = true ∨ port ∈ used then none
  else some port

structure GameClientSessionManager where
  /-- The other ports that the program listens on. -/
  otherListeners : List Nat
  gameClientServers : AList fun _ : Text => ServerFilter

def ServerFilter.port? (serverFilter : ServerFilter) : Option Nat :=
  match serverFilter.serverSocket with
  | ServerSocket.listening port => some port
  | _ => none

/-!
## Keys
-/

theorem convertToString_injective {m n : Nat}
    (h : convertToString m = convertToString n) : m = n := by
  have hm := Nat.ofDigitChars_ten_toDigits (n := m)
  have hn := Nat.ofDigitChars_ten_toDigits (n := n)
  rw [← hm, ← hn]
  exact congrArg (fun digits => Nat.ofDigitChars 10 digits 0) h

theorem not_colon_mem_convertToString (n : Nat) :
    ':' ∉ convertToString n := by
  intro hmem
  have hdigit := Nat.isDigit_of_mem_toDigits (b := 10) (by decide)
    (by decide) hmem
  exact absurd hdigit (by decide)

theorem append_colon_injective {xs ys ds es : Text}
    (h : xs ++ ':' :: ds = ys ++ ':' :: es) (hds : ':' ∉ ds)
    (hes : ':' ∉ es) : xs = ys ∧ ds = es := by
  induction xs generalizing ys with
  | nil =>
      cases ys with
      | nil => exact ⟨rfl, (List.cons.inj h).right⟩
      | cons y ys =>
          exfalso
          apply hds
          have htail := (List.cons.inj h).right
          rw [htail]
          exact List.mem_append_right _ List.mem_cons_self
  | cons x xs ih =>
      cases ys with
      | nil =>
          exfalso
          apply hes
          have htail := (List.cons.inj h).right
          rw [← htail]
          exact List.mem_append_right _ List.mem_cons_self
      | cons y ys =>
          rcases List.cons.inj h with ⟨hhead, htail⟩
          rcases ih htail with ⟨hxs, hdes⟩
          exact ⟨by rw [hhead, hxs], hdes⟩

theorem Address.key_injective {a b : Address} (h : a.key = b.key) :
    a = b := by
  rcases append_colon_injective h
    (not_colon_mem_convertToString a.serverPort)
    (not_colon_mem_convertToString b.serverPort) with ⟨hip, hport⟩
  cases a
  cases b
  cases hip
  cases convertToString_injective hport
  rfl

namespace GameClientSessionManager

variable (host : Host)

def create (otherListeners : List Nat) : GameClientSessionManager where
  otherListeners := otherListeners
  gameClientServers := ∅

def used (m : GameClientSessionManager) : List Nat :=
  m.otherListeners ++
    m.gameClientServers.entries.filterMap fun entry => entry.snd.port?

def socketOf (m : GameClientSessionManager) (address : Address) :
    ServerSocket :=
  match m.gameClientServers.lookup address.key with
  | none => ServerSocket.unconnected
  | some serverFilter => serverFilter.serverSocket

def put (m : GameClientSessionManager) (address : Address)
    (serverSocket : ServerSocket) : GameClientSessionManager :=
  { m with
    gameClientServers :=
      m.gameClientServers.insert address.key
        { serverParameters := address
          serverSocket := serverSocket } }

def ensureListening (m : GameClientSessionManager) (listenPort : Nat)
    (address : Address) : Nat × GameClientSessionManager :=
  match m.socketOf address with
  | ServerSocket.listening port => (port, m)
  | ServerSocket.closing =>
      -- the stream is not unconnected, so it refuses to listen
      (0, m.put address ServerSocket.closing)
  | ServerSocket.unconnected =>
      match host.listen m.used listenPort with
      | some port => (port, m.put address (ServerSocket.listening port))
      | none => (0, m.put address ServerSocket.closing)

/-- The handle of a stream that failed to listen is closed. -/
def connectionClosed (m : GameClientSessionManager) (address : Address) :
    GameClientSessionManager :=
  match m.socketOf address with
  | ServerSocket.closing => m.put address ServerSocket.unconnected
  | _ => m

def Listens (m : GameClientSessionManager) (address : Address)
    (port : Nat) : Prop :=
  m.socketOf address = ServerSocket.listening port

@[simp] theorem socketOf_put (m : GameClientSessionManager)
    (address other : Address) (serverSocket : ServerSocket) :
    (m.put address serverSocket).socketOf other =
      if other = address then serverSocket else m.socketOf other := by
  unfold socketOf put
  by_cases heq : other = address
  · rw [heq, if_pos rfl, AList.lookup_insert]
  · have hkey : other.key ≠ address.key := fun h =>
      heq (Address.key_injective h)
    rw [if_neg heq, AList.lookup_insert_ne hkey]

@[simp] theorem put_otherListeners (m : GameClientSessionManager)
    (address : Address) (serverSocket : ServerSocket) :
    (m.put address serverSocket).otherListeners = m.otherListeners := rfl

/-!
## Managers that arise
-/

/-- Listeners are kept under their own address, each on its own port. -/
structure Consistent (m : GameClientSessionManager) : Prop where
  keyed : forall {key serverFilter},
    m.gameClientServers.lookup key = some serverFilter ->
      serverFilter.serverParameters.key = key
  distinct : forall {a b port}, m.Listens a port -> m.Listens b port -> a = b
  positive : forall {a port}, m.Listens a port -> port ≠ 0
  foreign : forall {a port}, m.Listens a port -> port ∉ m.otherListeners

theorem create_consistent (otherListeners : List Nat) :
    (create otherListeners).Consistent where
  keyed h := by
    rw [create, AList.lookup_empty] at h
    cases h
  distinct h := by
    unfold Listens socketOf at h
    rw [create, AList.lookup_empty] at h
    cases h
  positive h := by
    unfold Listens socketOf at h
    rw [create, AList.lookup_empty] at h
    cases h
  foreign h := by
    unfold Listens socketOf at h
    rw [create, AList.lookup_empty] at h
    cases h

variable {m : GameClientSessionManager}

theorem Consistent.parameters (h : m.Consistent) {a : Address}
    {serverFilter : ServerFilter}
    (hlookup : m.gameClientServers.lookup a.key = some serverFilter) :
    serverFilter.serverParameters = a :=
  Address.key_injective (h.keyed hlookup)

theorem Consistent.mem_used (h : m.Consistent) {port : Nat} :
    port ∈ m.used ↔
      port ∈ m.otherListeners ∨ exists a, m.Listens a port := by
  unfold used
  rw [List.mem_append, List.mem_filterMap]
  constructor
  · rintro (hother | ⟨entry, hentry, hport⟩)
    · exact Or.inl hother
    · right
      have hlookup : m.gameClientServers.lookup entry.fst =
          some entry.snd := AList.mem_lookup_iff.mpr hentry
      refine ⟨entry.snd.serverParameters, ?_⟩
      unfold Listens socketOf
      rw [h.keyed hlookup, hlookup]
      change entry.snd.serverSocket = _
      unfold ServerFilter.port? at hport
      split at hport
      · rename_i socket hsocket
        rw [hsocket, Option.some.inj hport]
      · cases hport
  · rintro (hother | ⟨a, ha⟩)
    · exact Or.inl hother
    · right
      unfold Listens socketOf at ha
      split at ha
      · cases ha
      · rename_i serverFilter hlookup
        refine ⟨⟨a.key, serverFilter⟩, AList.mem_lookup_iff.mp hlookup, ?_⟩
        unfold ServerFilter.port?
        rw [ha]

theorem Consistent.put_idle (h : m.Consistent) {a : Address}
    {serverSocket : ServerSocket}
    (hidle : forall port, serverSocket ≠ ServerSocket.listening port) :
    (m.put a serverSocket).Consistent := by
  have hold : forall {b port}, (m.put a serverSocket).Listens b port ->
      m.Listens b port := by
    intro b port hb
    unfold Listens at hb
    rw [socketOf_put] at hb
    split at hb
    · exact absurd hb (hidle port)
    · exact hb
  refine ⟨?_, fun hb hc => h.distinct (hold hb) (hold hc),
    fun hb => h.positive (hold hb), fun hb => h.foreign (hold hb)⟩
  intro key serverFilter hlookup
  change AList.lookup key (AList.insert _ _ _) = _ at hlookup
  by_cases heq : key = a.key
  · rw [heq, AList.lookup_insert] at hlookup
    cases hlookup
    exact heq.symm
  · rw [AList.lookup_insert_ne heq] at hlookup
    exact h.keyed hlookup

theorem Consistent.put_listening (h : m.Consistent) {a : Address}
    {port : Nat} (hpos : port ≠ 0) (hfresh : port ∉ m.used) :
    (m.put a (ServerSocket.listening port)).Consistent := by
  have hunused : forall b, ¬m.Listens b port := by
    intro b hb
    exact hfresh (h.mem_used.mpr (Or.inr ⟨b, hb⟩))
  have hcases : forall {b q},
      (m.put a (ServerSocket.listening port)).Listens b q ->
        (b = a ∧ q = port) ∨ m.Listens b q := by
    intro b q hb
    unfold Listens at hb
    rw [socketOf_put] at hb
    split at hb
    · rename_i heq
      cases hb
      exact Or.inl ⟨heq, rfl⟩
    · exact Or.inr hb
  refine ⟨?_, ?_, ?_, ?_⟩
  · intro key serverFilter hlookup
    change AList.lookup key (AList.insert _ _ _) = _ at hlookup
    by_cases heq : key = a.key
    · rw [heq, AList.lookup_insert] at hlookup
      cases hlookup
      exact heq.symm
    · rw [AList.lookup_insert_ne heq] at hlookup
      exact h.keyed hlookup
  · intro b c q hb hc
    rcases hcases hb with ⟨hba, hq⟩ | hb
    · rcases hcases hc with ⟨hca, -⟩ | hc
      · rw [hba, hca]
      · exact absurd (hq ▸ hc) (hunused c)
    · rcases hcases hc with ⟨-, hq⟩ | hc
      · exact absurd (hq ▸ hb) (hunused b)
      · exact h.distinct hb hc
  · intro b q hb
    rcases hcases hb with ⟨-, hq⟩ | hb
    · rw [hq]
      exact hpos
    · exact h.positive hb
  · intro b q hb
    rcases hcases hb with ⟨-, hq⟩ | hb
    · rw [hq]
      intro hother
      exact hfresh (h.mem_used.mpr (Or.inl hother))
    · exact h.foreign hb

end GameClientSessionManager

theorem Host.listen_fresh {host : Host} {used : List Nat} {port p : Nat}
    (h : host.listen used port = some p) : p ≠ 0 ∧ p ∉ used := by
  unfold Host.listen at h
  split at h
  · cases h
    exact ⟨host.ephemeral_pos used, host.ephemeral_fresh used⟩
  · rename_i hport
    split at h
    · cases h
    · rename_i hfree
      cases h
      exact ⟨hport, fun hmem => hfree (Or.inr hmem)⟩

namespace GameClientSessionManager

variable {host : Host} {m : GameClientSessionManager}

/-- What `ensureListening` can do. -/
inductive Ensured (host : Host) (m : GameClientSessionManager)
    (listenPort : Nat) (a : Address) :
    Nat × GameClientSessionManager -> Prop where
  | started {port : Nat} (hlistens : m.Listens a port) :
      Ensured host m listenPort a (port, m)
  | closing (hclosing : m.socketOf a = ServerSocket.closing) :
      Ensured host m listenPort a (0, m.put a ServerSocket.closing)
  | listens {port : Nat} (hidle : m.socketOf a = ServerSocket.unconnected)
      (hlisten : host.listen m.used listenPort = some port) :
      Ensured host m listenPort a
        (port, m.put a (ServerSocket.listening port))
  | fails (hidle : m.socketOf a = ServerSocket.unconnected)
      (hlisten : host.listen m.used listenPort = none) :
      Ensured host m listenPort a (0, m.put a ServerSocket.closing)

theorem ensureListening_cases (host : Host)
    (m : GameClientSessionManager) (listenPort : Nat) (a : Address) :
    Ensured host m listenPort a (m.ensureListening host listenPort a) := by
  unfold ensureListening
  split
  · rename_i port hlistens
    exact Ensured.started hlistens
  · rename_i hclosing
    exact Ensured.closing hclosing
  · rename_i hidle
    split
    · rename_i port hlisten
      exact Ensured.listens hidle hlisten
    · rename_i hlisten
      exact Ensured.fails hidle hlisten

theorem Consistent.ensureListening (h : m.Consistent) (listenPort : Nat)
    (a : Address) : (m.ensureListening host listenPort a).2.Consistent := by
  have hcases := ensureListening_cases host m listenPort a
  generalize m.ensureListening host listenPort a = result at hcases ⊢
  cases hcases with
  | started hlistens => exact h
  | closing hclosing => exact h.put_idle nofun
  | listens hidle hlisten =>
      rcases Host.listen_fresh hlisten with ⟨hpos, hfresh⟩
      exact h.put_listening hpos hfresh
  | fails hidle hlisten => exact h.put_idle nofun

theorem Listens.ensureListening {b : Address} {port : Nat}
    (h : m.Listens b port) (listenPort : Nat) (a : Address) :
    (m.ensureListening host listenPort a).2.Listens b port := by
  have hkept : forall {socket},
      (forall q, m.socketOf a ≠ ServerSocket.listening q) ->
        (m.put a socket).Listens b port := by
    intro socket hidle
    have hne : b ≠ a := by
      intro heq
      rw [heq] at h
      exact hidle port h
    unfold Listens
    rw [socketOf_put, if_neg hne]
    exact h
  have hcases := ensureListening_cases host m listenPort a
  generalize m.ensureListening host listenPort a = result at hcases ⊢
  cases hcases with
  | started hlistens => exact h
  | closing hclosing =>
      apply hkept
      rw [hclosing]
      exact nofun
  | listens hidle hlisten =>
      apply hkept
      rw [hidle]
      exact nofun
  | fails hidle hlisten =>
      apply hkept
      rw [hidle]
      exact nofun

theorem listens_of_ensureListening {listenPort : Nat} {a : Address}
    (h : (m.ensureListening host listenPort a).1 ≠ 0) :
    (m.ensureListening host listenPort a).2.Listens a
      (m.ensureListening host listenPort a).1 := by
  have hcases := ensureListening_cases host m listenPort a
  generalize m.ensureListening host listenPort a = result at h hcases ⊢
  cases hcases with
  | started hlistens => exact hlistens
  | closing hclosing => exact absurd rfl h
  | listens hidle hlisten =>
      unfold Listens
      rw [socketOf_put, if_pos rfl]
  | fails hidle hlisten => exact absurd rfl h

theorem Consistent.connectionClosed (h : m.Consistent) (a : Address) :
    (m.connectionClosed a).Consistent := by
  unfold GameClientSessionManager.connectionClosed
  split
  · exact h.put_idle nofun
  · exact h

end GameClientSessionManager

end Filter
end Rzu
