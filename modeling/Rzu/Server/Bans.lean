import Rzu.Library.Run
import Rzu.Server.BanManager

/-!
# Bans

A ban is in force while the set of bans holds the host under port 0, which is
what connections are looked up by.  A ban of the peer of a connection gets in
under the port of the peer, and a file that is loaded replaces all the bans.
-/

namespace Rzu
namespace Server

open Library

/-- What can happen to a manager of bans. -/
inductive BanEvent where
  | connection (ip : StreamAddress)
  | closed (ip : StreamAddress)
  | banIp (ip : StreamAddress)
  | loadFile (config : BanConfig) (file : Option (List UInt8))
  | dayExpired
deriving DecidableEq

namespace BanManager

variable {inet : Inet} {m m' : BanManager} {host : Host}

def handle (inet : Inet) (m : BanManager) : BanEvent -> BanManager
  | .connection ip => (m.checkAcceptNewClient ip).2
  | .closed ip => m.closedClient ip
  | .banIp ip => m.banIp ip
  | .loadFile config file => m.loadFile inet config file
  | .dayExpired => m.onTimerExpire

def Step (inet : Inet) (m : BanManager) (e : BanEvent) (m' : BanManager) :
    Prop :=
  m' = m.handle inet e

theorem step_deterministic (inet : Inet) : Deterministic (Step inet) := by
  intro m e m' m'' h h'
  rw [h, h']

def Refuses (m : BanManager) (host : Host) : Prop :=
  forall ip : StreamAddress, ip.host = host ->
    (m.checkAcceptNewClient ip).1 = false

/-- Sessions are closed and days pass. -/
def Quiet (e : BanEvent) : Prop :=
  e = .dayExpired ∨ exists ip, e = .closed ip

/--
Every host that the manager banned is refused, also after any sessions are
closed and days have passed.
-/
def BansStick (inet : Inet) (m : BanManager) : Prop :=
  forall ip, ip ∈ m.announced -> forall later m',
    Run (Step inet) m later m' -> (forall e, e ∈ later -> Quiet e) ->
      m'.Refuses ip.host

/-- Every host that the manager banned is in the set of bans. -/
def InForce (m : BanManager) : Prop :=
  forall ip, ip ∈ m.announced ->
    ({ host := ip.host, port := 0 } : Endpoint) ∈ m.bannedIps

/--
A peer is banned with its port, although it is not banned without it, or a
file is loaded that does not list a host the manager banned.
-/
def Lifts (inet : Inet) (m : BanManager) : BanEvent -> Prop
  | .banIp ip =>
      ip.port ≠ 0 ∧ ({ host := ip.host, port := 0 } : Endpoint) ∉ m.bannedIps
  | .loadFile _ (some file) =>
      exists ip, ip ∈ m.announced ∧
        ({ host := ip.host, port := 0 } : Endpoint) ∉ fileBans inet file
  | _ => False

/-!
## Bans in force
-/

theorem refuses_of_banned
    (h : ({ host := host, port := 0 } : Endpoint) ∈ m.bannedIps) :
    m.Refuses host := by
  intro ip hhost
  subst hhost
  rw [checkAcceptNewClient]
  simp only [h, if_true]

/-- The bans and the hosts that were banned stay the same. -/
structure SameBans (m m' : BanManager) : Prop where
  bannedIps : m'.bannedIps = m.bannedIps
  announced : m'.announced = m.announced

theorem closedClient_sameBans (m : BanManager) (ip : StreamAddress) :
    SameBans m (m.closedClient ip) := by
  rw [closedClient]
  split
  · exact ⟨rfl, rfl⟩
  · split
    · exact ⟨rfl, rfl⟩
    · exact ⟨rfl, rfl⟩

theorem step_sameBans {e : BanEvent} (h : Quiet e)
    (hstep : Step inet m e m') : SameBans m m' := by
  rw [hstep]
  rcases h with heq | ⟨ip, heq⟩
  · subst heq
    exact ⟨rfl, rfl⟩
  · subst heq
    exact m.closedClient_sameBans ip

theorem run_sameBans {later : List BanEvent}
    (hrun : Run (Step inet) m later m')
    (hquiet : forall e, e ∈ later -> Quiet e) : SameBans m m' := by
  induction hrun with
  | nil => exact ⟨rfl, rfl⟩
  | snoc before last ih =>
      have hbefore := ih fun e he => hquiet e (List.mem_append_left _ he)
      have hlast := step_sameBans
        (hquiet _ (List.mem_append_right _ (List.mem_singleton_self _))) last
      exact ⟨hlast.bannedIps.trans hbefore.bannedIps,
        hlast.announced.trans hbefore.announced⟩

theorem InForce.bansStick (h : InForce m) : BansStick inet m := by
  intro ip hip later m' hrun hquiet
  apply refuses_of_banned
  rw [(run_sameBans hrun hquiet).bannedIps]
  exact h ip hip

theorem checkAcceptNewClient_inForce (h : InForce m) (ip : StreamAddress) :
    InForce (m.checkAcceptNewClient ip).2 := by
  have hcheck := m.checkAcceptNewClient_check ip
  generalize m.checkAcceptNewClient ip = result at hcheck
  cases hcheck with
  | banned hbanned => exact h
  | unlimited hfree hday hclients => exact h
  | tooMany hfree hlimit hday =>
      intro other hother
      rcases List.mem_cons.mp hother with heq | hold
      · rw [heq]
        exact List.mem_cons_self
      · exact List.mem_cons_of_mem _ (h other hold)
  | full hfree hlimit hclients => exact h
  | counted hfree hlimited hday hclients => exact h

theorem handle_inForce (h : InForce m) {e : BanEvent}
    (hkeeps : ¬Lifts inet m e) : InForce (m.handle inet e) := by
  cases e with
  | connection ip => exact checkAcceptNewClient_inForce h ip
  | closed ip =>
      have hsame := m.closedClient_sameBans ip
      intro other hother
      rw [handle, hsame.announced] at hother
      rw [handle, hsame.bannedIps]
      exact h other hother
  | banIp ip =>
      intro other hother
      rcases List.mem_cons.mp hother with heq | hold
      · subst heq
        by_cases hport : other.port = 0
        · have hendpoint : other.endpoint =
              { host := other.host, port := 0 } := by
            rw [StreamAddress.endpoint, hport]
          rw [handle, banIp, hendpoint]
          exact List.mem_cons_self
        · by_contra hlost
          exact hkeeps ⟨hport, fun hmem =>
            hlost (List.mem_cons_of_mem _ hmem)⟩
      · exact List.mem_cons_of_mem _ (h other hold)
  | loadFile config file =>
      cases file with
      | none => exact h
      | some file =>
          intro other hother
          by_contra hlost
          exact hkeeps ⟨other, hother, hlost⟩
  | dayExpired => exact h

/-!
## Bans that are lost
-/

theorem accepts_of_idle {ip : StreamAddress}
    (hfree : ({ host := ip.host, port := 0 } : Endpoint) ∉ m.bannedIps)
    (hclients :
      (m.ipData { host := ip.host, port := 0 }).connectedClients ≤ 0)
    (hday : (m.ipData { host := ip.host, port := 0 }).connectionThisDay ≤ 0) :
    (m.checkAcceptNewClient ip).1 = true := by
  rw [checkAcceptNewClient]
  simp only
  rw [if_neg hfree]
  split
  · rfl
  · rw [if_neg (by lia), if_neg (by lia)]

theorem closedClient_counts (m : BanManager) (ip : StreamAddress) :
    ((m.closedClient ip).counts ip.host).connectedClients ≤
        max 0 ((m.counts ip.host).connectedClients - 1) ∧
      ((m.closedClient ip).counts ip.host).connectionThisDay =
        (m.counts ip.host).connectionThisDay := by
  rw [closedClient]
  split
  · rename_i hnone
    rw [counts, ipData, hnone]
    exact ⟨by decide, rfl⟩
  · rename_i data hdata
    have hcounts : m.counts ip.host = data := by
      rw [counts, ipData, hdata, Option.getD_some]
    split
    · rename_i hpos
      rw [hcounts, counts, ipData_setIpData_self]
      exact ⟨Int.le_max_right _ _, rfl⟩
    · rename_i hzero
      rw [hcounts]
      exact ⟨by lia, rfl⟩

theorem exists_idle (inet : Inet) (m : BanManager) (ip : StreamAddress)
    (n : Nat) :
    exists m', Run (Step inet) m
        (.dayExpired :: List.replicate n (.closed ip)) m' ∧
      (m'.counts ip.host).connectedClients ≤
        max 0 ((m.counts ip.host).connectedClients - n) ∧
      (m'.counts ip.host).connectionThisDay = 0 := by
  induction n with
  | zero =>
      refine ⟨m.onTimerExpire, Run.snoc Run.nil rfl, ?_, ?_⟩
      · rw [counts, ipData_onTimerExpire, counts]
        lia
      · rw [counts, ipData_onTimerExpire]
  | succ n ih =>
      rcases ih with ⟨m', hrun, hclients, hday⟩
      have hclosed := m'.closedClient_counts ip
      refine ⟨m'.closedClient ip, ?_, by lia, hclosed.right.trans hday⟩
      rw [List.replicate_succ', ← List.cons_append]
      exact Run.snoc hrun rfl

theorem quiet_idle (ip : StreamAddress) (n : Nat) {e : BanEvent}
    (h : e ∈ BanEvent.dayExpired :: List.replicate n (.closed ip)) :
    Quiet e := by
  rcases List.mem_cons.mp h with heq | hmem
  · exact Or.inl heq
  · exact Or.inr ⟨ip, List.eq_of_mem_replicate hmem⟩

theorem BansStick.inForce (h : BansStick inet m) : InForce m := by
  intro ip hip
  by_contra hlost
  rcases exists_idle inet m ip (m.counts ip.host).connectedClients.toNat with
    ⟨m', hrun, hclients, hday⟩
  have hsame := run_sameBans hrun fun e => quiet_idle ip _
  rw [← hsame.bannedIps] at hlost
  have haccepts : (m'.checkAcceptNewClient ip).1 = true :=
    accepts_of_idle hlost (Int.le_trans hclients (by lia)) (Int.le_of_eq hday)
  have hrefuses := h ip hip _ m' hrun (fun e => quiet_idle ip _) ip rfl
  rw [haccepts] at hrefuses
  cases hrefuses

/-!
## Runs
-/

theorem not_inForce_of_lifts {e : BanEvent} (h : Lifts inet m e) :
    ¬InForce (m.handle inet e) := by
  intro hforce
  cases e with
  | connection ip => exact h
  | closed ip => exact h
  | banIp ip =>
      rcases h with ⟨hport, hfree⟩
      have hmem := hforce ip List.mem_cons_self
      rcases List.mem_cons.mp hmem with heq | hold
      · exact hport (congrArg Endpoint.port heq).symm
      · exact hfree hold
  | loadFile config file =>
      cases file with
      | none => exact h
      | some file =>
          rcases h with ⟨ip, hip, hmissing⟩
          exact hmissing (hforce ip hip)
  | dayExpired => exact h

/--
In a run of the manager all its bans stick exactly if no step bans a peer by
its port only, or loads a file that does not list what the manager banned.
-/
theorem bansStick_iff_avoids_lifts (inet : Inet) (config : BanConfig)
    {history : List BanEvent} (hrun : Run (Step inet) (create config) history m) :
    Throughout (Step inet) (create config) (BansStick inet) history ↔
      Avoids (Step inet) (create config) (Lifts inet) history := by
  apply throughout_iff_avoids (step_deterministic inet) _ _ _ hrun
  · apply InForce.bansStick
    intro ip hip
    exact absurd hip List.not_mem_nil
  · intro history m e m' hbefore hsticks hstep hkeeps
    rw [hstep]
    exact (handle_inForce hsticks.inForce hkeeps).bansStick
  · intro history m e m' hbefore hstep hlifts hsticks
    rw [hstep] at hsticks
    exact not_inForce_of_lifts hlifts hsticks.inForce

/-- No address is written in a way that this one reads. -/
def noInet : Inet where
  pton4 := fun _ => none
  pton6 := fun _ => none

def loopback (port : UInt16) : StreamAddress where
  type := .socketIpv4
  rawAddress := ⟨#[127, 0, 0, 1, 0, 0, 0, 0, 0, 0, 0, 0, 0, 0, 0, 0], rfl⟩
  pipeAddress := []
  port := port

theorem bansStick_iff_avoids_lifts_connection :
    Throughout (Step noInet) (create ⟨0, 0⟩) (BansStick noInet)
        [.connection (loopback 4000)] ↔
      Avoids (Step noInet) (create ⟨0, 0⟩) (Lifts noInet)
        [.connection (loopback 4000)] :=
  bansStick_iff_avoids_lifts noInet ⟨0, 0⟩ (Run.snoc Run.nil rfl)

/-- A peer that was banned is let in again, from its own port even. -/
theorem not_refuses_banned_peer :
    ¬forall (inet : Inet) (config : BanConfig) (history : List BanEvent)
        (m : BanManager), Run (Step inet) (create config) history m ->
        forall ip, ip ∈ m.announced -> m.Refuses ip.host := by
  intro h
  have hrefuses := h noInet ⟨0, 0⟩ [.banIp (loopback 4000)] _
    (Run.snoc Run.nil rfl) (loopback 4000) List.mem_cons_self
    (loopback 4000) rfl
  revert hrefuses
  decide

end BanManager

end Server
end Rzu
