import Rzu.Client.SentPasswords
import Rzu.Converter.PaddingCiphers
import Rzu.Library.Trace

/-!
# Agreement about passwords

Over all logins of a process, the server reads the password that a session was
given, whatever the other sessions have left in the buffer that they share.
-/

namespace Rzu
namespace Client

open Library Packet Auth Converter Net

variable {C : LoginCiphers} {versions : Nat -> Version}
variable {past : List Observation}

/-!
## Credentials
-/

def lastGiven (i : Nat) (past : List Observation) :
    Option (Packet.CharString × Packet.CharString) :=
  past.foldl (fun last o =>
    match o with
    | Observation.given j account password =>
        if j = i then some (account, password) else last
    | Observation.checked _ _ _ => last) none

theorem lastGiven_given (i j : Nat) (account password : Packet.CharString) :
    lastGiven i (past ++ [Observation.given j account password]) =
      if j = i then some (account, password) else lastGiven i past := by
  rw [lastGiven, List.foldl_append]
  rfl

theorem lastGiven_checked (i j : Nat) (account : Packet.CharString)
    (password : Option Packet.CharString) :
    lastGiven i (past ++ [Observation.checked j account password]) =
      lastGiven i past := by
  rw [lastGiven, List.foldl_append]
  rfl

/-- A login with DES had a password that was not empty. -/
def DesPasswordSeen (versions : Nat -> Version) (past : List Observation) :
    Prop :=
  exists front i account result back username password,
    past = front ++ Observation.checked i account result :: back ∧
      ¬atLeast EPIC_8_1_1_RSA (versions i) = true ∧
      lastGiven i front = some (username, password) ∧ password ≠ []

/-- What the server makes of a packet is the password that was given. -/
def PasswordAgrees (past : List Observation) : Observation -> Prop
  | Observation.given _ _ _ => True
  | Observation.checked i _ result => exists username password,
      lastGiven i past = some (username, password) ∧ result = some password

/--
With AES, the account `bora` sends a code in place of its password.  With DES,
what the buffer holds before the first password says nothing about an empty one.
-/
def Promised (versions : Nat -> Version) (past : List Observation) (i : Nat)
    (account : Packet.CharString) : Prop :=
  if atLeast EPIC_8_1_1_RSA (versions i) then
    account ≠ "bora".toUTF8.data.toList
  else DesPasswordSeen versions past ∨ exists username password,
    lastGiven i past = some (username, password) ∧ password ≠ []

def PasswordAgreesWherePromised (versions : Nat -> Version)
    (past : List Observation) : Observation -> Prop
  | Observation.given _ _ _ => True
  | Observation.checked i account result =>
      Promised versions past i account ->
        PasswordAgrees past (Observation.checked i account result)

/-- The credentials of an event can be sent. -/
def Event.Fits (versions : Nat -> Version) : Event C -> Prop
  | Event.connect i account password =>
      0 ∉ account ∧ PasswordFits (versions i) password
  | _ => True

theorem desPasswordSeen_given {i : Nat} {account password : Packet.CharString}
    (h : DesPasswordSeen versions
      (past ++ [Observation.given i account password])) :
    DesPasswordSeen versions past := by
  rcases h with ⟨front, j, name, result, back, username, given, heq, hseen⟩
  rcases List.eq_nil_or_concat back with hnil | ⟨init, last, hsnoc⟩
  · subst hnil
    cases (List.append_inj' heq rfl).right
  · rw [hsnoc, List.concat_eq_append, ← List.cons_append,
      ← List.append_assoc] at heq
    exact ⟨front, j, name, result, init, username, given,
      (List.append_inj' heq rfl).left, hseen⟩

theorem desPasswordSeen_checked {i : Nat} {account : Packet.CharString}
    {result : Option Packet.CharString}
    (h : DesPasswordSeen versions
      (past ++ [Observation.checked i account result])) :
    DesPasswordSeen versions past ∨
      (¬atLeast EPIC_8_1_1_RSA (versions i) = true ∧
        exists username password,
          lastGiven i past = some (username, password) ∧ password ≠ []) := by
  rcases h with
    ⟨front, j, name, result', back, username, given, heq, hold, hgiven⟩
  rcases List.eq_nil_or_concat back with hnil | ⟨init, last, hsnoc⟩
  · subst hnil
    rcases List.append_inj' heq rfl with ⟨hfront, hlast⟩
    cases hlast
    subst hfront
    exact Or.inr ⟨hold, username, given, hgiven⟩
  · rw [hsnoc, List.concat_eq_append, ← List.cons_append,
      ← List.append_assoc] at heq
    exact Or.inl ⟨front, j, name, result', init, username, given,
      (List.append_inj' heq rfl).left, hold, hgiven⟩

/-!
## The shared buffer
-/

/--
The buffer holds the password that it was last made for.  Before the first one
it is empty, as is the password that it seems to hold.
-/
structure CacheHolds (versions : Nat -> Version) (past : List Observation)
    (p : Process C) : Prop where
  length : p.cachedPassword.length = 61
  encrypted : p.cachedPasswordStr ≠ [] ∨ DesPasswordSeen versions past ->
    exists size rest,
      Encrypted C p.cachedPassword p.cachedPasswordStr size rest

namespace CacheHolds

variable {p : Process C}

theorem create : CacheHolds versions []
    (Process.create versions : Process C) where
  length := List.length_replicate
  encrypted := by
    rintro (hne | ⟨front, i, account, result, back, username, password, heq, -⟩)
    · exact absurd rfl hne
    · simp at heq

theorem mono (h : CacheHolds versions past p) {later : List Observation}
    {p' : Process C} (hbuf : p'.cachedPassword = p.cachedPassword)
    (hstr : p'.cachedPasswordStr = p.cachedPasswordStr)
    (hseen : DesPasswordSeen versions later ->
      DesPasswordSeen versions past) : CacheHolds versions later p' where
  length := by
    rw [hbuf]
    exact h.length
  encrypted hsome := by
    rw [hbuf, hstr]
    rw [hstr] at hsome
    exact h.encrypted (hsome.imp_right hseen)

theorem cachePassword (h : CacheHolds versions past p) (hC : C.Lawful)
    {version : Version} (hold : ¬atLeast EPIC_8_1_1_RSA version = true)
    {password : Packet.CharString} (hfits : PasswordFits version password) :
    (p.cachePassword version password).cachedPasswordStr = password ∧
    (p.cachePassword version password).cachedPassword.length = 61 ∧
    (password ≠ [] ∨ DesPasswordSeen versions past ->
      exists size rest, Encrypted C
        (p.cachePassword version password).cachedPassword password size
          rest) := by
  rw [Process.cachePassword]
  split
  · have hnew := encrypted_copyOver (C := C) hold hfits h.length
    exact ⟨rfl, hnew.buf_length hC, fun _ => ⟨_, _, hnew⟩⟩
  · rename_i hsame
    have heq : p.cachedPasswordStr = password := not_not.mp hsame
    have hencrypted := h.encrypted
    rw [heq] at hencrypted
    exact ⟨heq, h.length, hencrypted⟩

end CacheHolds

/-!
## Sessions
-/

/-- A session is about to send its password. -/
def Logins.LoggingIn (s : Logins C) (i : Nat) : Prop :=
  (s.process.sessions i).currentState = StreamState.connecting ∨
    s.publicKey i ≠ none

structure HasCredentials (versions : Nat -> Version)
    (past : List Observation) (i : Nat) (session : ClientAuthSession) :
    Prop where
  given : lastGiven i past = some (session.username, session.password)
  username : 0 ∉ session.username
  password : PasswordFits (versions i) session.password
  cipherMethod : session.cipherMethod =
    if atLeast EPIC_8_1_1_RSA (versions i) then AuthCipherMethod.rsaAes
    else AuthCipherMethod.des

structure SessionsHold (versions : Nat -> Version) (past : List Observation)
    (s : Logins C) : Prop where
  version : forall i, (s.process.sessions i).packetVersion = versions i
  credentials : forall i, s.LoggingIn i ->
    HasCredentials versions past i (s.process.sessions i)
  /-- The server has the key of the process. -/
  publicKey : forall i key, s.publicKey i = some key ->
    atLeast EPIC_8_1_1_RSA (versions i) = true ∧
      exists rsa, s.process.rsaCipher = some rsa ∧ key = C.pemPublicKey rsa
  queries : forall i, s.queries i = true ->
    atLeast EPIC_8_1_1_RSA (versions i) = true

/-- Everything but the state of the stream. -/
structure SameLogin (session session' : ClientAuthSession) : Prop where
  packetVersion : session'.packetVersion = session.packetVersion
  username : session'.username = session.username
  password : session'.password = session.password
  cipherMethod : session'.cipherMethod = session.cipherMethod

theorem HasCredentials.same {i : Nat} {session session' : ClientAuthSession}
    (h : HasCredentials versions past i session)
    (hsame : SameLogin session session') {later : List Observation}
    (hgiven : lastGiven i later = lastGiven i past) :
    HasCredentials versions later i session' where
  given := by
    rw [hgiven, hsame.username, hsame.password]
    exact h.given
  username := by
    rw [hsame.username]
    exact h.username
  password := by
    rw [hsame.password]
    exact h.password
  cipherMethod := by
    rw [hsame.cipherMethod]
    exact h.cipherMethod

namespace SessionsHold

variable {s s' : Logins C}

theorem create : SessionsHold versions [] (Logins.create versions : Logins C)
    where
  version _ := rfl
  credentials i hlogging := by
    rcases hlogging with hconnecting | hkey
    · cases hconnecting
    · exact absurd rfl hkey
  publicKey _ _ hkey := nomatch hkey
  queries _ hquery := nomatch hquery

theorem mono (h : SessionsHold versions past s) {later : List Observation}
    (hgiven : forall i, lastGiven i later = lastGiven i past)
    (hversion : forall i, (s'.process.sessions i).packetVersion =
      (s.process.sessions i).packetVersion)
    (hlogging : forall i, s'.LoggingIn i -> s.LoggingIn i ∧
      SameLogin (s.process.sessions i) (s'.process.sessions i))
    (hkey : forall i key, s'.publicKey i = some key ->
      atLeast EPIC_8_1_1_RSA (versions i) = true ∧
        exists rsa, s'.process.rsaCipher = some rsa ∧
          key = C.pemPublicKey rsa)
    (hqueries : forall i, s'.queries i = true ->
      atLeast EPIC_8_1_1_RSA (versions i) = true) :
    SessionsHold versions later s' where
  version i := (hversion i).trans (h.version i)
  credentials i hnew := by
    rcases hlogging i hnew with ⟨hold, hsame⟩
    exact (h.credentials i hold).same hsame (hgiven i)
  publicKey := hkey
  queries := hqueries

end SessionsHold

/-!
## Steps
-/

structure Invariant (versions : Nat -> Version) (past : List Observation)
    (s : Logins C) : Prop where
  cache : CacheHolds versions past s.process
  sessions : SessionsHold versions past s

/-- A step keeps the invariant, and its observations agree. -/
def Keeps (versions : Nat -> Version) (past : List Observation)
    (result : Logins C × List Observation) : Prop :=
  Invariant versions (past ++ result.2) result.1 ∧
    (Justified (PasswordAgreesWherePromised versions) past ->
      Justified (PasswordAgreesWherePromised versions) (past ++ result.2))

namespace Process

variable (p : Process C) (i j : Nat) (state : StreamState)

theorem setSession_sessions (session : ClientAuthSession) :
    (p.setSession i session).sessions j =
      if j = i then session else p.sessions j :=
  Function.update_apply p.sessions i session j

theorem setState_sessions :
    (p.setState i state).sessions j =
      { p.sessions j with
        currentState :=
          if j = i then state else (p.sessions j).currentState } := by
  rw [setState, setSession_sessions]
  split
  · rename_i heq
    rw [heq]
  · rfl

theorem setState_same :
    SameLogin (p.sessions j) ((p.setState i state).sessions j) := by
  rw [setState_sessions]
  exact ⟨rfl, rfl, rfl, rfl⟩

@[simp] theorem cachePassword_sessions (version : Version)
    (password : Packet.CharString) :
    (p.cachePassword version password).sessions = p.sessions := by
  rw [cachePassword]
  split
  all_goals rfl

@[simp] theorem cachePassword_rsaCipher (version : Version)
    (password : Packet.CharString) :
    (p.cachePassword version password).rsaCipher = p.rsaCipher := by
  rw [cachePassword]
  split
  all_goals rfl

variable {p i} {generateKey : Option C.RsaKey} {accountMsg : Record}

theorem onConnected_des
    (h : (p.sessions i).cipherMethod = AuthCipherMethod.des) :
    p.onConnected i generateKey accountMsg =
      (p.cachePassword (p.sessions i).packetVersion (p.sessions i).password,
        Action.account (desAccountMsg accountMsg (p.sessions i).username
          (p.cachePassword (p.sessions i).packetVersion
            (p.sessions i).password).cachedPassword)) := by
  simp only [onConnected, h]

theorem onConnected_key
    (h : (p.sessions i).cipherMethod = AuthCipherMethod.rsaAes)
    {key : C.RsaKey} (hkey : p.rsaCipher.or generateKey = some key) :
    p.onConnected i generateKey accountMsg =
      ({ p with rsaCipher := some key },
        Action.rsaPublicKey (C.pemPublicKey key)) := by
  simp only [onConnected, h, hkey]

theorem onConnected_close
    (h : (p.sessions i).cipherMethod = AuthCipherMethod.rsaAes)
    (hkey : p.rsaCipher.or generateKey = none) :
    p.onConnected i generateKey accountMsg =
      ({ p with rsaCipher := none }, Action.close) := by
  simp only [onConnected, h, hkey]

end Process

section Steps

variable {s : Logins C} {i : Nat} {around : Around}

theorem Invariant.keeps_quiet (h : Invariant versions past s)
    {s' : Logins C}
    (hbuf : s'.process.cachedPassword = s.process.cachedPassword)
    (hstr : s'.process.cachedPasswordStr = s.process.cachedPasswordStr)
    (hsessions : SessionsHold versions past s') :
    Keeps versions past (s', []) := by
  rw [Keeps, List.append_nil]
  exact ⟨⟨h.cache.mono hbuf hstr id, hsessions⟩, id⟩

theorem Invariant.keeps_connect (h : Invariant versions past s)
    {account password : Packet.CharString} (haccount : 0 ∉ account)
    (hpassword : PasswordFits (versions i) password) :
    Keeps versions past
      ({ s with process := s.process.connect i account password },
        [Observation.given i account password]) := by
  have hsession (j : Nat) :
      (s.process.connect i account password).sessions j =
        if j = i then (s.process.sessions i).connect account password
        else s.process.sessions j :=
    Process.setSession_sessions _ _ _ _
  refine ⟨⟨h.cache.mono rfl rfl desPasswordSeen_given, ?_⟩, ?_⟩
  · exact {
      version := by
        intro j
        change ((s.process.connect i account password).sessions
          j).packetVersion = _
        rw [hsession]
        split
        · rename_i heq
          rw [heq]
          exact h.sessions.version i
        · exact h.sessions.version j
      credentials := by
        intro j hlogging
        rw [Logins.LoggingIn] at hlogging
        change HasCredentials versions _ j
          ((s.process.connect i account password).sessions j)
        simp only [hsession] at hlogging ⊢
        by_cases heq : j = i
        · subst heq
          rw [if_pos rfl]
          exact {
            given := by
              rw [lastGiven_given, if_pos rfl]
              rfl
            username := haccount
            password := hpassword
            cipherMethod := by
              rw [← h.sessions.version j]
              rfl }
        · rw [if_neg heq] at hlogging ⊢
          have hhas := h.sessions.credentials j hlogging
          exact { hhas with
            given := by
              rw [lastGiven_given, if_neg fun hsame => heq hsame.symm]
              exact hhas.given }
      publicKey := h.sessions.publicKey
      queries := h.sessions.queries }
  · intro hpast
    exact hpast.snoc trivial

theorem SessionsHold.setState (h : SessionsHold versions past s)
    {state : StreamState} (hstate : state ≠ StreamState.connecting)
    {publicKey : Nat -> Option (List UInt8)}
    (hkey : forall j key, publicKey j = some key ->
      s.publicKey j = some key) :
    SessionsHold versions past
      { s with
        process := s.process.setState i state
        publicKey := publicKey } := by
  apply h.mono (fun _ => rfl)
  · exact fun j => (s.process.setState_same i j state).packetVersion
  · intro j hlogging
    refine ⟨?_, s.process.setState_same i j state⟩
    rcases hlogging with hconnecting | hpublic
    · refine Or.inl ?_
      change ((s.process.setState i state).sessions j).currentState = _
        at hconnecting
      rw [Process.setState_sessions] at hconnecting
      change (if j = i then state else _) = _ at hconnecting
      split at hconnecting
      · exact absurd hconnecting hstate
      · exact hconnecting
    · rcases Option.ne_none_iff_exists'.mp hpublic with ⟨key, hsome⟩
      refine Or.inr ?_
      rw [hkey j key hsome]
      exact Option.some_ne_none key
  · exact fun j key hnew => h.publicKey j key (hkey j key hnew)
  · exact h.queries

theorem Invariant.keeps_onDisconnected (h : Invariant versions past s) :
    Keeps versions past
      ({ s with
        process := s.process.setState i StreamState.unconnected
        publicKey := Function.update s.publicKey i none }, []) := by
  refine h.keeps_quiet rfl rfl (h.sessions.setState (by decide) ?_)
  intro j key hnew
  rw [Function.update_apply] at hnew
  split at hnew
  · cases hnew
  · exact hnew

theorem SessionsHold.rsaCipher (h : SessionsHold versions past s) {j : Nat}
    {key : List UInt8} (hkey : s.publicKey j = some key)
    (generateKey : Option C.RsaKey) :
    exists rsa, s.process.rsaCipher.or generateKey = some rsa ∧
      key = C.pemPublicKey rsa := by
  rcases (h.publicKey j key hkey).right with ⟨rsa, hrsa, hpem⟩
  refine ⟨rsa, ?_, hpem⟩
  rw [hrsa]
  rfl

theorem Invariant.keeps_onConnected_des (h : Invariant versions past s)
    (hC : C.Lawful)
    (hstate : (s.process.sessions i).currentState = StreamState.connecting)
    (hold : ¬atLeast EPIC_8_1_1_RSA (versions i) = true)
    (generateKey : Option C.RsaKey) :
    let result := (s.process.setState i StreamState.connected).onConnected i
      generateKey around.accountMsg
    Keeps versions past
      ({ s with process := result.1 }.perform i around result.2) := by
  have hhas := h.sessions.credentials i (Or.inl hstate)
  have hsame := s.process.setState_same i i StreamState.connected
  have hmethod := hsame.cipherMethod.trans hhas.cipherMethod
  rw [if_neg hold] at hmethod
  have hversion := hsame.packetVersion.trans (h.sessions.version i)
  intro result
  let p := s.process.setState i StreamState.connected
  have hcache : CacheHolds versions past p := h.cache.mono rfl rfl id
  rcases hcache.cachePassword hC hold hhas.password with
    ⟨hstr, hlength, hencrypted⟩
  have hafterwards (account : Packet.CharString)
      (password : Option Packet.CharString) :
      CacheHolds versions (past ++ [Observation.checked i account password])
        (p.cachePassword (versions i) (s.process.sessions i).password) := {
    length := hlength
    encrypted := by
      rw [hstr]
      rintro (hne | hseen)
      · exact hencrypted (Or.inl hne)
      · rcases desPasswordSeen_checked hseen with
          hbefore | ⟨-, username, given, hgiven, hne⟩
        · exact hencrypted (Or.inr hbefore)
        · rw [hhas.given] at hgiven
          cases hgiven
          exact hencrypted (Or.inl hne) }
  have hresult : result =
      (p.cachePassword (versions i) (s.process.sessions i).password,
        Action.account (desAccountMsg around.accountMsg
          (s.process.sessions i).username
          (p.cachePassword (versions i)
            (s.process.sessions i).password).cachedPassword)) := by
    have hdes : result = _ := Process.onConnected_des hmethod
    rw [hversion, hsame.username, hsame.password] at hdes
    exact hdes
  rw [hresult]
  refine ⟨⟨hafterwards _ _, ?_⟩, ?_⟩
  · have hconnected : SessionsHold versions past
        { s with process := p, publicKey := s.publicKey } :=
      h.sessions.setState (by decide) fun _ _ hkey => hkey
    apply hconnected.mono
    · exact fun j => lastGiven_checked j i _ _
    · intro j
      change ((p.cachePassword _ _).sessions j).packetVersion = _
      rw [Process.cachePassword_sessions]
    · intro j hlogging
      change ((p.cachePassword _ _).sessions j).currentState = _ ∨ _
        at hlogging
      rw [Process.cachePassword_sessions] at hlogging
      change _ ∧ SameLogin _ ((p.cachePassword _ _).sessions j)
      rw [Process.cachePassword_sessions]
      exact ⟨hlogging, rfl, rfl, rfl, rfl⟩
    · intro j key hkey
      change _ ∧ exists rsa, (p.cachePassword _ _).rsaCipher = some rsa ∧ _
      rw [Process.cachePassword_rsaCipher]
      exact hconnected.publicKey j key hkey
    · exact h.sessions.queries
  · intro hpast
    refine hpast.snoc fun hpromised => ?_
    rw [Promised, if_neg hold] at hpromised
    have hsome : (s.process.sessions i).password ≠ [] ∨
        DesPasswordSeen versions past := by
      rcases hpromised with hseen | ⟨username, password, hgiven, hne⟩
      · exact Or.inr hseen
      · rw [hhas.given] at hgiven
        cases hgiven
        exact Or.inl hne
    rcases hencrypted hsome with ⟨size, rest, hbuf⟩
    refine ⟨_, _, hhas.given, ?_⟩
    have hafter : ((p.cachePassword (versions i)
        (s.process.sessions i).password).sessions i).packetVersion =
          versions i := by
      rw [Process.cachePassword_sessions]
      exact hversion
    simp only [hafter]
    exact serverPassword_des hC around.accountMsg_unassigned hold
      hhas.username hhas.password hbuf _ _ _

theorem Invariant.keeps_onConnected_rsa (h : Invariant versions past s)
    (hstate : (s.process.sessions i).currentState = StreamState.connecting)
    (hnew : atLeast EPIC_8_1_1_RSA (versions i) = true)
    (generateKey : Option C.RsaKey) :
    let result := (s.process.setState i StreamState.connected).onConnected i
      generateKey around.accountMsg
    Keeps versions past
      ({ s with process := result.1 }.perform i around result.2) := by
  have hhas := h.sessions.credentials i (Or.inl hstate)
  have hsame := s.process.setState_same i i StreamState.connected
  have hmethod := hsame.cipherMethod.trans hhas.cipherMethod
  rw [if_pos hnew] at hmethod
  let p := s.process.setState i StreamState.connected
  have hsessions (j : Nat) : SameLogin (s.process.sessions j)
      (p.sessions j) := s.process.setState_same i j StreamState.connected
  have hconnecting {j : Nat}
      (hstate : (p.sessions j).currentState = StreamState.connecting) :
      (s.process.sessions j).currentState = StreamState.connecting := by
    simp only [p] at hstate
    rw [Process.setState_sessions] at hstate
    change (if j = i then _ else _) = _ at hstate
    split at hstate
    · cases hstate
    · exact hstate
  intro result
  cases hor : s.process.rsaCipher.or generateKey with
  | some key =>
      have hresult : result = _ := Process.onConnected_key hmethod hor
      rw [hresult]
      refine h.keeps_quiet rfl rfl (h.sessions.mono (fun _ => rfl)
        (fun j => (hsessions j).packetVersion) ?_ ?_ h.sessions.queries)
      · intro j hlogging
        refine ⟨?_, hsessions j⟩
        by_cases heq : j = i
        · rw [heq]
          exact Or.inl hstate
        · rcases hlogging with hstate' | hpublic
          · exact Or.inl (hconnecting hstate')
          · refine Or.inr ?_
            change Function.update s.publicKey i _ j ≠ none at hpublic
            rw [Function.update_of_ne heq] at hpublic
            exact hpublic
      · intro j pem hpem
        change Function.update s.publicKey i _ j = _ at hpem
        rw [Function.update_apply] at hpem
        split at hpem
        · rename_i heq
          cases hpem
          rw [heq]
          exact ⟨hnew, key, rfl, rfl⟩
        · rcases h.sessions.rsaCipher hpem generateKey with
            ⟨rsa, hrsa, hpemEq⟩
          rw [hor] at hrsa
          cases hrsa
          exact ⟨(h.sessions.publicKey j pem hpem).left, key, rfl, hpemEq⟩
  | none =>
      have hresult : result = _ := Process.onConnected_close hmethod hor
      rw [hresult]
      have hclosed : SessionsHold versions past
          ({ s with process := { p with rsaCipher := none } } :
            Logins C) := by
        apply h.sessions.mono (fun _ => rfl)
          (fun j => (hsessions j).packetVersion)
        · intro j hlogging
          exact ⟨hlogging.imp_left hconnecting, hsessions j⟩
        · intro j pem hpem
          rcases h.sessions.rsaCipher hpem generateKey with ⟨rsa, hrsa, -⟩
          rw [hor] at hrsa
          cases hrsa
        · exact h.sessions.queries
      exact h.keeps_quiet rfl rfl
        (hclosed.setState (by decide) fun _ _ hkey => hkey)

theorem Process.onPacketAuthPasswordKey_eq {p : Process C} (hC : C.Lawful)
    {rsa : C.RsaKey} (hrsa : p.rsaCipher = some rsa) (aesKey : AesKey)
    (accountMsg : Record)
    (hshort : (p.sessions i).password.length ≤ 63) :
    p.onPacketAuthPasswordKey i
        (C.publicEncrypt (C.pemPublicKey rsa) aesKey.bytes) accountMsg =
      (p.clearPassword i,
        if (p.sessions i).username ≠ "bora".toUTF8.data.toList then
          Action.account (aesAccountMsg (p.sessions i).packetVersion
            accountMsg (p.sessions i).username
            (C.aesEncrypt aesKey.bytes (p.sessions i).password))
        else Action.query (p.sessions i).password) := by
  have hkey := hC.rsa rsa aesKey.bytes aesKey.size
  have hsize := aesKey.size
  have hlength := hC.aes_length aesKey.bytes (p.sessions i).password
  have hfits : ¬(2147483647 < (p.sessions i).password.length ∨
      516 < (C.aesEncrypt aesKey.bytes (p.sessions i).password).length) := by
    lia
  rw [onPacketAuthPasswordKey, hrsa]
  simp only [hkey, hsize, ne_eq, not_true_eq_false, if_false, hfits]
  split
  all_goals rfl

theorem Invariant.keeps_onPacketAuthPasswordKey
    (h : Invariant versions past s) (hC : C.Lawful) {key : List UInt8}
    (hkey : s.publicKey i = some key)
    (hstate : (s.process.sessions i).currentState = StreamState.connected)
    (aesKey : AesKey) :
    let result := s.process.onPacketAuthPasswordKey i
      (C.publicEncrypt key aesKey.bytes) around.accountMsg
    Keeps versions past
      ({ s with
        process := result.1
        publicKey := Function.update s.publicKey i none
        aesKey := Function.update s.aesKey i aesKey.bytes
        }.perform i around result.2) := by
  have hhas := h.sessions.credentials i
    (Or.inr (by rw [hkey]; exact Option.some_ne_none key))
  rcases h.sessions.publicKey i key hkey with ⟨hnew, rsa, hrsa, hpem⟩
  have hshort := hhas.password.right
  rw [if_pos hnew] at hshort
  have hsession (j : Nat) :
      (s.process.clearPassword i).sessions j =
        if j = i then { s.process.sessions i with password := [] }
        else s.process.sessions j :=
    Process.setSession_sessions _ _ _ _
  have hversion (j : Nat) :
      ((s.process.clearPassword i).sessions j).packetVersion =
        (s.process.sessions j).packetVersion := by
    rw [hsession]
    split
    · rename_i heq
      rw [heq]
    · rfl
  have hkeys (j : Nat) (pem : List UInt8)
      (hpem : Function.update s.publicKey i none j = some pem) :
      j ≠ i ∧ s.publicKey j = some pem := by
    rw [Function.update_apply] at hpem
    split at hpem
    · cases hpem
    · rename_i hne
      exact ⟨hne, hpem⟩
  -- the session that was answered does not log in any more
  have hsessions {later : List Observation} {queries : Nat -> Bool}
      (hgiven : forall j, lastGiven j later = lastGiven j past)
      (hqueries : forall j, queries j = true ->
        atLeast EPIC_8_1_1_RSA (versions j) = true) :
      SessionsHold versions later
        { s with
          process := s.process.clearPassword i
          publicKey := Function.update s.publicKey i none
          aesKey := Function.update s.aesKey i aesKey.bytes
          queries := queries } := by
    apply h.sessions.mono hgiven hversion _ _ hqueries
    · intro j hlogging
      have hne : j ≠ i := by
        intro heq
        rw [heq] at hlogging
        rcases hlogging with hconnecting | hpublic
        · change ((s.process.clearPassword i).sessions i).currentState = _
            at hconnecting
          rw [hsession, if_pos rfl] at hconnecting
          change (s.process.sessions i).currentState = _ at hconnecting
          rw [hstate] at hconnecting
          cases hconnecting
        · exact hpublic (Function.update_self i none s.publicKey)
      rw [Logins.LoggingIn] at hlogging
      change ((s.process.clearPassword i).sessions j).currentState = _ ∨
        Function.update s.publicKey i none j ≠ none at hlogging
      rw [hsession, if_neg hne, Function.update_of_ne hne] at hlogging
      change _ ∧ SameLogin _ ((s.process.clearPassword i).sessions j)
      rw [hsession, if_neg hne]
      exact ⟨hlogging, rfl, rfl, rfl, rfl⟩
    · exact fun j pem hpem =>
        h.sessions.publicKey j pem (hkeys j pem hpem).right
  intro result
  subst hpem
  have hresult : result = _ :=
    Process.onPacketAuthPasswordKey_eq hC hrsa aesKey around.accountMsg hshort
  rw [hresult]
  by_cases hname : (s.process.sessions i).username ≠
      "bora".toUTF8.data.toList
  · rw [if_pos hname]
    refine ⟨⟨?_, hsessions (fun j => lastGiven_checked j i _ _)
      h.sessions.queries⟩, ?_⟩
    · refine h.cache.mono rfl rfl ?_
      intro hseen
      rcases desPasswordSeen_checked hseen with hbefore | ⟨hold, -⟩
      · exact hbefore
      · exact absurd hnew hold
    · intro hpast
      refine hpast.snoc fun _ => ⟨_, _, hhas.given, ?_⟩
      simp only [hversion, h.sessions.version, Function.update_self]
      exact serverPassword_aes hC around.accountMsg_unassigned hnew
        hhas.username hhas.password _ _ _
  · rw [if_neg hname]
    refine h.keeps_quiet rfl rfl (hsessions (fun _ => rfl) ?_)
    intro j hquery
    rw [Function.update_apply] at hquery
    split at hquery
    · rename_i heq
      rw [heq]
      exact hnew
    · exact h.sessions.queries j hquery

/-- A code goes out for the account `bora` only. -/
theorem Invariant.keeps_onRedirect (h : Invariant versions past s)
    (hquery : s.queries i = true) (location : Option (List UInt8)) :
    let s' := { s with queries := Function.update s.queries i false }
    Keeps versions past (s', []) ∧
      Keeps versions past (s'.perform i around
        (s.process.onRedirect i location around.accountMsg)) := by
  have hnew := h.sessions.queries i hquery
  have hqueries (j : Nat)
      (hj : Function.update s.queries i false j = true) :
      atLeast EPIC_8_1_1_RSA (versions j) = true := by
    rw [Function.update_apply] at hj
    split at hj
    · cases hj
    · exact h.sessions.queries j hj
  intro s'
  have hsessions {later : List Observation}
      (hgiven : forall j, lastGiven j later = lastGiven j past) :
      SessionsHold versions later s' := by
    refine h.sessions.mono hgiven (fun _ => rfl) ?_ h.sessions.publicKey
      hqueries
    exact fun j hlogging => ⟨hlogging, rfl, rfl, rfl, rfl⟩
  refine ⟨h.keeps_quiet rfl rfl (hsessions fun _ => rfl), ?_⟩
  rw [Process.onRedirect]
  split
  · rename_i code hcode
    refine ⟨⟨?_, hsessions fun j => lastGiven_checked j i _ _⟩, ?_⟩
    · refine h.cache.mono rfl rfl ?_
      intro hseen
      rcases desPasswordSeen_checked hseen with hbefore | ⟨hold, -⟩
      · exact hbefore
      · exact absurd hnew hold
    · intro hpast
      refine hpast.snoc fun hpromised => ?_
      rw [Promised, if_pos hnew, boraAccountMsg, Record.string_setString,
        if_pos rfl] at hpromised
      exact absurd rfl hpromised
  · exact h.keeps_quiet rfl rfl ((hsessions fun _ => rfl).setState (by decide)
      fun _ _ hkey => hkey)

theorem Invariant.step (h : Invariant versions past s) (hC : C.Lawful)
    {l : Event C × List Observation} {s' : Logins C}
    (hfits : l.1.Fits versions) (hstep : Step s l s') :
    Keeps versions past (s', l.2) := by
  rcases l with ⟨event, observed⟩
  rw [Step, Logins.next.eq_def] at hstep
  change Keeps versions past (s', observed)
  cases event with
  | connect i account password =>
      cases hstep
      exact h.keeps_connect hfits.left hfits.right
  | onConnected i generateKey around =>
      dsimp only at hstep
      split at hstep
      · rename_i hstate
        rw [← Option.some.inj hstep]
        by_cases hnew : atLeast EPIC_8_1_1_RSA (versions i) = true
        · exact h.keeps_onConnected_rsa hstate hnew generateKey
        · exact h.keeps_onConnected_des hC hstate hnew generateKey
      · cases hstep
  | onPacketAuthPasswordKey i aesKey around =>
      dsimp only at hstep
      split at hstep
      · rename_i key hkey
        split at hstep
        · rename_i hstate
          rw [← Option.some.inj hstep]
          exact h.keeps_onPacketAuthPasswordKey hC hkey
            (of_decide_eq_true hstate) aesKey
        · cases hstep
      · cases hstep
  | onRedirect i location around =>
      dsimp only at hstep
      split at hstep
      · rename_i hquery
        have hkeeps := @keeps_onRedirect C versions past s i around h hquery
          location
        split at hstep
        · rw [← Option.some.inj hstep]
          exact hkeeps.right
        · rw [← Option.some.inj hstep]
          exact hkeeps.left
      · cases hstep
  | onDisconnected i =>
      cases hstep
      exact h.keeps_onDisconnected

end Steps

/-!
## Runs
-/

/--
In every run of the logins of a process, the server reads the password that a
session was given last in each account packet, where that is promised.
-/
theorem passwords_agree (hC : C.Lawful)
    {history : List (Event C × List Observation)} {s : Logins C}
    (hrun : Run Step (Logins.create versions) history s)
    (hfits : forall l, l ∈ history -> l.1.Fits versions) :
    Justified (PasswordAgreesWherePromised versions) (trace history) := by
  suffices hholds : Invariant versions (trace history) s ∧
      Justified (PasswordAgreesWherePromised versions) (trace history) from
    hholds.right
  induction hrun with
  | nil =>
      exact ⟨⟨CacheHolds.create, SessionsHold.create⟩, Justified.nil⟩
  | snoc before last ih =>
      rename_i earlier mid s' l
      rcases ih fun other hmem => hfits other (List.mem_append_left _ hmem)
        with ⟨hinvariant, hjustified⟩
      have hkeeps := hinvariant.step hC
        (hfits l (List.mem_append_right _ List.mem_cons_self)) last
      rw [trace_snoc]
      exact ⟨hkeeps.left, hkeeps.right hjustified⟩

/-!
## Logins with ciphers that only pad
-/

def paddingLogins : LoginCiphers where
  toCiphers := padding []
  evpDecrypt _ data := if data = [] then none else some (unpad [] data)

theorem paddingLogins_lawful : paddingLogins.Lawful where
  toLawful := padding_lawful []
  evp _ data := by
    change (if pad data = [] then none else some (unpad [] (pad data))) = _
    have hne : pad data ≠ [] := List.cons_ne_nil _ _
    rw [if_neg hne, unpad_pad]

/-- Local packets of zeros. -/
def zeroAround : Around where
  accountMsg := memoryOf []
  packet := memoryOf []
  garbage _ := 0
  accountMsg_unassigned := memoryOf_unassigned [] LoginKind.account
  packet_unassigned := memoryOf_unassigned [] LoginKind.account

def zeroKey : AesKey where
  bytes := List.replicate 32 0
  size := List.length_replicate

def nextStep (s : Logins C) (event : Event C) :
    Option ((Event C × List Observation) × Logins C) :=
  (s.next event).map fun result => ((event, result.2), result.1)

theorem nextStep_step (s : Logins C) (event : Event C)
    (l : Event C × List Observation) (s' : Logins C)
    (h : nextStep s event = some (l, s')) : Step s l s' := by
  rcases Option.map_eq_some_iff.mp h with ⟨result, hnext, hpair⟩
  cases hpair
  exact hnext

theorem replay_events {s s' : Logins C} {events : List (Event C)}
    {history : List (Event C × List Observation)}
    (h : replay nextStep s events = some (history, s')) :
    history.map Prod.fst = events := by
  induction events generalizing s history with
  | nil =>
      cases h
      rfl
  | cons event events ih =>
      rcases Option.bind_eq_some_iff.mp h with ⟨⟨l, mid⟩, hfirst, hrest⟩
      rcases Option.bind_eq_some_iff.mp hrest with
        ⟨⟨later, final⟩, hlater, hpair⟩
      rcases Option.map_eq_some_iff.mp hfirst with ⟨result, -, hlabel⟩
      cases hlabel
      cases hpair
      rw [List.map_cons, ih hlater]

theorem exists_run {events : List (Event C)} {observed : List Observation}
    (hfits : forall event, event ∈ events -> event.Fits versions)
    (h : (replay nextStep (Logins.create versions) events).map
      (fun result => trace result.1) = some observed) :
    exists history s, Run Step (Logins.create versions : Logins C) history s ∧
      (forall l, l ∈ history -> l.1.Fits versions) ∧
      trace history = observed := by
  rcases Option.map_eq_some_iff.mp h with ⟨⟨history, s⟩, heq, htrace⟩
  refine ⟨history, s, replay_run nextStep_step Run.nil heq, ?_, htrace⟩
  intro l hl
  apply hfits
  rw [← replay_events heq]
  exact List.mem_map_of_mem hl

instance (version : Version) (password : Packet.CharString) :
    Decidable (PasswordFits version password) :=
  inferInstanceAs (Decidable (_ ∧ _))

instance (event : Event C) : Decidable (event.Fits versions) :=
  match event with
  | Event.connect i account password =>
      inferInstanceAs
        (Decidable (0 ∉ account ∧ PasswordFits (versions i) password))
  | Event.onConnected _ _ _ => instDecidableTrue
  | Event.onPacketAuthPasswordKey _ _ _ => instDecidableTrue
  | Event.onRedirect _ _ _ => instDecidableTrue
  | Event.onDisconnected _ => instDecidableTrue

/-- A process that meets servers of three versions. -/
def mixedVersions : Nat -> Version
  | 0 => 0x040100
  | 1 => 0x070300
  | _ => 0x090607

def mixedLogins : List (Event paddingLogins) :=
  [Event.connect 0 [98] [97], Event.onConnected 0 none zeroAround,
    Event.connect 1 [98] [97], Event.onConnected 1 none zeroAround,
    Event.onDisconnected 0,
    Event.connect 0 [98] [], Event.onConnected 0 none zeroAround,
    Event.connect 2 [98] [99], Event.onConnected 2 (some ()) zeroAround,
    Event.onPacketAuthPasswordKey 2 zeroKey zeroAround]

theorem passwords_agree_mixed :
    Justified (PasswordAgreesWherePromised mixedVersions)
      [Observation.given 0 [98] [97], Observation.checked 0 [98] (some [97]),
        Observation.given 1 [98] [97], Observation.checked 1 [98] (some [97]),
        Observation.given 0 [98] [], Observation.checked 0 [98] (some []),
        Observation.given 2 [98] [99],
        Observation.checked 2 [98] (some [99])] := by
  have hreplay : (replay nextStep (Logins.create mixedVersions)
      mixedLogins).map (fun result => trace result.1) =
        some [Observation.given 0 [98] [97],
          Observation.checked 0 [98] (some [97]),
          Observation.given 1 [98] [97],
          Observation.checked 1 [98] (some [97]),
          Observation.given 0 [98] [], Observation.checked 0 [98] (some []),
          Observation.given 2 [98] [99],
          Observation.checked 2 [98] (some [99])] := by
    decide +kernel
  rcases exists_run (by decide) hreplay with ⟨history, s, hrun, hfits, htrace⟩
  rw [← htrace]
  exact passwords_agree paddingLogins_lawful hrun hfits

def boraLogin : List (Event paddingLogins) :=
  [Event.connect 2 bora [97], Event.onConnected 2 (some ()) zeroAround,
    Event.onPacketAuthPasswordKey 2 zeroKey zeroAround,
    Event.onRedirect 2 (some ("code=".toUTF8.data.toList ++ [99]))
      zeroAround]

/-- The code of the account `bora` is no password. -/
theorem not_passwords_agree_bora :
    ¬(forall (C : LoginCiphers) (versions : Nat -> Version)
      (history : List (Event C × List Observation)) (s : Logins C),
      C.Lawful -> Run Step (Logins.create versions) history s ->
        (forall l, l ∈ history -> l.1.Fits versions) ->
          Justified PasswordAgrees (trace history)) := by
  intro h
  have hreplay : (replay nextStep (Logins.create mixedVersions)
      boraLogin).map (fun result => trace result.1) =
        some [Observation.given 2 bora [97],
          Observation.checked 2 bora none] := by
    decide +kernel
  rcases exists_run (by decide) hreplay with ⟨history, s, hrun, hfits, htrace⟩
  have hagrees := h paddingLogins mixedVersions history s
    paddingLogins_lawful hrun hfits
  rw [htrace] at hagrees
  rcases hagrees [Observation.given 2 bora [97]]
      (Observation.checked 2 bora none) [] rfl with
    ⟨username, password, -, hnone⟩
  cases hnone

end Client
end Rzu
