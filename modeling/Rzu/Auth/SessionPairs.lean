import Rzu.Auth.Ownership

/-!
# Sessions and servers stay in pairs

The two setters that call each other come to an end from every state of the
server, whatever the two objects held before, and leave them in pairs.
-/

namespace Rzu
namespace Auth

open Library (Run replay replay_run)

namespace AuthState

/-!
## More depth changes nothing
-/

theorem callOn_mono {call call' : Addr -> AuthState -> Option AuthState}
    (hcall : forall a s s', call a s = some s' -> call' a s = some s')
    (target : Option Addr) {s s' : AuthState}
    (h : callOn call target s = some s') : callOn call' target s = some s' := by
  cases target with
  | none => exact h
  | some a => exact hcall a s s' h

theorem pair_succ {depth : Nat} {call : PairingCall} {s s' : AuthState}
    (h : pair depth call s = some s') : pair (depth + 1) call s = some s' := by
  induction depth generalizing call s s' with
  | zero => cases h
  | succ depth ih =>
      cases call with
      | setGameData x target =>
          rcases Option.bind_eq_some_iff.mp h with ⟨session, hx, hrest⟩
          rw [pair_setGameData _ _ hx]
          split at hrest
          · rename_i hsame
            rw [if_pos hsame]
            exact hrest
          · rename_i hother
            rcases Option.bind_eq_some_iff.mp hrest with
              ⟨detached, hfirst, hsecond⟩
            rw [if_neg hother, Option.bind_eq_some_iff]
            exact ⟨detached, callOn_mono (fun _ _ _ => ih) _ hfirst,
              callOn_mono (fun _ _ _ => ih) _ hsecond⟩
      | setGameServer g target =>
          rcases Option.bind_eq_some_iff.mp h with ⟨gameData, hg, hrest⟩
          rw [pair_setGameServer _ _ hg]
          split at hrest
          · rename_i hsame
            rw [if_pos hsame]
            exact hrest
          · rename_i hother
            rcases Option.bind_eq_some_iff.mp hrest with
              ⟨detached, hfirst, hsecond⟩
            rw [if_neg hother, Option.bind_eq_some_iff]
            exact ⟨detached, callOn_mono (fun _ _ _ => ih) _ hfirst,
              callOn_mono (fun _ _ _ => ih) _ hsecond⟩

theorem pair_mono {depth deeper : Nat} (hle : depth ≤ deeper)
    {call : PairingCall} {s s' : AuthState}
    (h : pair depth call s = some s') : pair deeper call s = some s' := by
  induction hle with
  | refl => exact h
  | step _ ih => exact pair_succ ih

/-!
## What the setters end up with
-/

/-- Session and server let go of each other. -/
def part (s : AuthState) (x g : Addr) (session : GameServerSession)
    (gameData : GameData) : AuthState :=
  (s.setGameSession x { session with gameData := none }).setGameData g
    { gameData with gameServerSession := none }

section Setters

variable {s : AuthState} {x y g g0 : Addr}
variable {session other : GameServerSession} {gameData gameData0 : GameData}

theorem setGameData_move (hx : s.gameSessions x = some session)
    (hold : session.gameData = some g0)
    (hg0 : s.gameDatas g0 = some gameData0)
    (hback0 : gameData0.gameServerSession = some x)
    (hg : s.gameDatas g = some gameData)
    (hback : gameData.gameServerSession = none) (hne : g ≠ g0) :
    pair pairingDepth (PairingCall.setGameData x (some g)) s =
      some ((s.part x g0 session gameData0).attach x g
        session gameData) := by
  simp [pairingDepth, pair_setGameData, pair_setGameServer, hx, hold, callOn,
    setGameSession, hg0, hback0, hg, hback, setGameData, attach, part, hne,
    Function.update_of_ne, Ne.symm hne]

theorem setGameData_moveTakeover (hx : s.gameSessions x = some session)
    (hold : session.gameData = some g0)
    (hg0 : s.gameDatas g0 = some gameData0)
    (hback0 : gameData0.gameServerSession = some x)
    (hg : s.gameDatas g = some gameData)
    (hback : gameData.gameServerSession = some y)
    (hy : s.gameSessions y = some other) (hother : other.gameData = some g)
    (hne : g ≠ g0) (hxy : x ≠ y) :
    pair pairingDepth (PairingCall.setGameData x (some g)) s =
      some (((s.part x g0 session gameData0).part y g other
        gameData).attach x g session gameData) := by
  simp [pairingDepth, pair_setGameData, pair_setGameServer, hx, hold, callOn,
    setGameSession, hg0, hback0, hg, hback, setGameData, attach, part, hne,
    Function.update_of_ne, Ne.symm hne, hy, hother, hxy, Ne.symm hxy]

theorem setGameServer_none (hg : s.gameDatas g = some gameData)
    (hback : gameData.gameServerSession = some x)
    (hx : s.gameSessions x = some session)
    (hold : session.gameData = some g) :
    pair pairingDepth (PairingCall.setGameServer g none) s =
      some (s.part x g session gameData) := by
  simp [pairingDepth, pair_setGameData, pair_setGameServer, hx, hold, callOn,
    setGameSession, hg, hback, setGameData, part]

theorem setGameServer_idle (hg : s.gameDatas g = some gameData)
    (hback : gameData.gameServerSession = none)
    (hx : s.gameSessions x = some session)
    (hold : session.gameData = none) :
    pair pairingDepth (PairingCall.setGameServer g (some x)) s =
      some (s.attach x g session gameData) := by
  simp [pairingDepth, pair_setGameData, pair_setGameServer, hx, hold, callOn,
    setGameSession, hg, hback, setGameData, attach]

theorem setGameServer_take (hg : s.gameDatas g = some gameData)
    (hback : gameData.gameServerSession = none)
    (hx : s.gameSessions x = some session)
    (hold : session.gameData = some g0)
    (hg0 : s.gameDatas g0 = some gameData0)
    (hback0 : gameData0.gameServerSession = some x) (hne : g ≠ g0) :
    pair pairingDepth (PairingCall.setGameServer g (some x)) s =
      some ((s.part x g0 session gameData0).attach x g
        session gameData) := by
  simp [pairingDepth, pair_setGameData, pair_setGameServer, hx, hold, callOn,
    setGameSession, hg0, hback0, hg, hback, setGameData, attach, part, hne,
    Function.update_of_ne, Ne.symm hne]
  rw [Function.update_comm hne, Function.update_idem]

theorem setGameServer_exchange (hg : s.gameDatas g = some gameData)
    (hback : gameData.gameServerSession = some y)
    (hy : s.gameSessions y = some other) (hother : other.gameData = some g)
    (hx : s.gameSessions x = some session)
    (hold : session.gameData = none) (hxy : x ≠ y) :
    pair pairingDepth (PairingCall.setGameServer g (some x)) s =
      some ((s.part y g other gameData).attach x g session gameData) := by
  simp [pairingDepth, pair_setGameData, pair_setGameServer, hx, hold, callOn,
    setGameSession, hg, hback, setGameData, attach, part,
    Function.update_of_ne, hy, hother, hxy, Ne.symm hxy]

theorem setGameServer_exchangeTake (hg : s.gameDatas g = some gameData)
    (hback : gameData.gameServerSession = some y)
    (hy : s.gameSessions y = some other) (hother : other.gameData = some g)
    (hx : s.gameSessions x = some session)
    (hold : session.gameData = some g0)
    (hg0 : s.gameDatas g0 = some gameData0)
    (hback0 : gameData0.gameServerSession = some x)
    (hne : g ≠ g0) (hxy : x ≠ y) :
    pair pairingDepth (PairingCall.setGameServer g (some x)) s =
      some (((s.part x g0 session gameData0).part y g other
        gameData).attach x g session gameData) := by
  simp [pairingDepth, pair_setGameData, pair_setGameServer, hx, hold, callOn,
    setGameSession, hg0, hback0, hg, hback, setGameData, attach, part, hne,
    Function.update_of_ne, Ne.symm hne, hy, hother, hxy, Ne.symm hxy]
  constructor
  · rw [Function.update_comm hne, Function.update_idem]
  · rw [Function.update_comm hxy, Function.update_idem]

end Setters

/-!
## Pairs after a call
-/

/-- A pointer names an object that is alive, if it names one. -/
def Names {object : Type} (heap : Addr -> Option object)
    (target : Option Addr) : Prop :=
  forall a, target = some a -> (heap a).isSome = true

/-- The call comes to an end in pairs, and more depth changes nothing. -/
def EndsPaired (s : AuthState) (call : PairingCall) : Prop :=
  exists s', (forall depth, pairingDepth ≤ depth ->
    pair depth call s = some s') ∧ Paired s'.gameDatas s'.gameSessions

def InPairs (s : AuthState) : Prop := Paired s.gameDatas s.gameSessions

section Pairs

variable {s s' : AuthState} {x y g g0 : Addr}
variable {session other : GameServerSession} {gameData gameData0 : GameData}

theorem EndsPaired.of_pair {call : PairingCall}
    (hpair : pair pairingDepth call s = some s')
    (hpaired : Paired s'.gameDatas s'.gameSessions) : s.EndsPaired call :=
  ⟨s', fun _ hle => pair_mono hle hpair, hpaired⟩

theorem paired_part (h : s.InPairs)
    (hx : s.gameSessions x = some session)
    (hback : session.gameData = some g) (gameData : GameData) :
    InPairs (s.part x g session gameData) :=
  h.part hx hback rfl rfl

theorem paired_attach (h : s.InPairs)
    (hx : (s.gameSessions x).bind GameServerSession.gameData = none)
    (hg : (s.gameDatas g).bind GameData.gameServerSession = none)
    (session : GameServerSession) (gameData : GameData) :
    InPairs (s.attach x g session gameData) :=
  h.join hx hg rfl rfl

theorem part_idle :
    ((s.part x g session gameData).gameSessions x).bind
        GameServerSession.gameData = none ∧
      ((s.part x g session gameData).gameDatas g).bind
        GameData.gameServerSession = none := by
  constructor
  · change (Function.update s.gameSessions x _ x).bind _ = none
    rw [Function.update_self]
    rfl
  · change (Function.update s.gameDatas g _ g).bind _ = none
    rw [Function.update_self]
    rfl

theorem part_others {y g' : Addr} (hy : y ≠ x) (hg : g' ≠ g) :
    (s.part x g session gameData).gameSessions y = s.gameSessions y ∧
      (s.part x g session gameData).gameDatas g' = s.gameDatas g' :=
  ⟨Function.update_of_ne hy _ _, Function.update_of_ne hg _ _⟩

theorem paired_exchange (h : s.InPairs)
    (hx : (s.gameSessions x).bind GameServerSession.gameData = none)
    (hy : s.gameSessions y = some other) (hother : other.gameData = some g)
    (hxy : x ≠ y) (session : GameServerSession) (gameData : GameData) :
    InPairs ((s.part y g other gameData).attach x g session gameData) := by
  apply paired_attach (paired_part h hy hother gameData)
  · change (Function.update s.gameSessions y _ x).bind _ = none
    rw [Function.update_of_ne hxy]
    exact hx
  · exact part_idle.right

theorem paired_move (h : s.InPairs)
    (hx : s.gameSessions x = some session)
    (hold : session.gameData = some g0)
    (hg : (s.gameDatas g).bind GameData.gameServerSession = none)
    (hne : g ≠ g0) (gameData0 gameData : GameData) :
    InPairs ((s.part x g0 session gameData0).attach x g session
      gameData) := by
  apply paired_attach (paired_part h hx hold gameData0) part_idle.left
  change (Function.update s.gameDatas g0 _ g).bind _ = none
  rw [Function.update_of_ne hne]
  exact hg

theorem paired_moveTakeover (h : s.InPairs)
    (hx : s.gameSessions x = some session)
    (hold : session.gameData = some g0)
    (hy : s.gameSessions y = some other) (hother : other.gameData = some g)
    (hne : g ≠ g0) (hxy : x ≠ y) (gameData0 gameData : GameData) :
    InPairs (((s.part x g0 session gameData0).part y g other
      gameData).attach x g session gameData) := by
  have hleft := paired_part h hx hold gameData0
  have hyleft : (s.part x g0 session gameData0).gameSessions y =
      some other :=
    (part_others (Ne.symm hxy) hne).left.trans hy
  exact paired_exchange hleft part_idle.left hyleft hother hxy session
    gameData

theorem bind_gameData (hx : s.gameSessions x = some session) :
    (s.gameSessions x).bind GameServerSession.gameData =
      session.gameData := by
  rw [hx, Option.bind_some]

theorem bind_gameServerSession (hg : s.gameDatas g = some gameData) :
    (s.gameDatas g).bind GameData.gameServerSession =
      gameData.gameServerSession := by
  rw [hg, Option.bind_some]

theorem session_ne (hx : s.gameSessions x = some session)
    (hy : s.gameSessions y = some other) (hother : other.gameData = some g)
    (hne : session.gameData ≠ some g) : x ≠ y := by
  intro heq
  rw [← heq, hx] at hy
  cases hy
  exact hne hother

theorem server_ne (hg : s.gameDatas g = some gameData)
    (hg0 : s.gameDatas g0 = some gameData0)
    (hback0 : gameData0.gameServerSession = some x)
    (hne : gameData.gameServerSession ≠ some x) : g ≠ g0 := by
  intro heq
  rw [← heq, hg] at hg0
  cases hg0
  exact hne hback0

theorem endsPaired_setGameData (h : s.InPairs)
    (hx : s.gameSessions x = some session) {target : Option Addr}
    (htarget : Names s.gameDatas target) :
    s.EndsPaired (PairingCall.setGameData x target) := by
  by_cases hsame : session.gameData = target
  · apply EndsPaired.of_pair _ h
    rw [pairingDepth, pair_setGameData _ _ hx, if_pos hsame]
  cases target with
  | none =>
      rcases Option.ne_none_iff_exists'.mp hsame with ⟨g0, hold⟩
      rcases h.gameData hx hold with ⟨gameData0, hg0, hback0⟩
      exact EndsPaired.of_pair (setGameDataOf_none hx hold hg0 hback0)
        (paired_part h hx hold gameData0)
  | some g =>
      rcases Option.isSome_iff_exists.mp (htarget g rfl) with ⟨gameData, hg⟩
      have hgback := bind_gameServerSession hg
      have hxold := bind_gameData hx
      cases hold : session.gameData with
      | none =>
          rw [hold] at hxold
          cases hback : gameData.gameServerSession with
          | none =>
              rw [hback] at hgback
              exact EndsPaired.of_pair (setGameDataOf_vacant hx hold hg hback)
                (paired_attach h hxold hgback session gameData)
          | some y =>
              rcases h.session hg hback with ⟨other, hy, hother⟩
              have hxy := session_ne hx hy hother hsame
              have hattach := paired_exchange h hxold hy hother hxy session
                gameData
              refine EndsPaired.of_pair
                (setGameDataOf_takeover hx hold hg hback hy hother) ?_
              simpa only [InPairs, attach, part, setGameData, setGameSession,
                Function.update_idem] using hattach
      | some g0 =>
          rcases h.gameData hx hold with ⟨gameData0, hg0, hback0⟩
          have hne : g ≠ g0 := by
            intro heq
            rw [hold, heq] at hsame
            exact hsame rfl
          cases hback : gameData.gameServerSession with
          | none =>
              rw [hback] at hgback
              exact EndsPaired.of_pair
                (setGameData_move hx hold hg0 hback0 hg hback hne)
                (paired_move h hx hold hgback hne gameData0 gameData)
          | some y =>
              rcases h.session hg hback with ⟨other, hy, hother⟩
              have hxy := session_ne hx hy hother hsame
              exact EndsPaired.of_pair
                (setGameData_moveTakeover hx hold hg0 hback0 hg hback hy
                  hother hne hxy)
                (paired_moveTakeover h hx hold hy hother hne hxy gameData0
                  gameData)

theorem endsPaired_setGameServer (h : s.InPairs)
    (hg : s.gameDatas g = some gameData) {target : Option Addr}
    (htarget : Names s.gameSessions target) :
    s.EndsPaired (PairingCall.setGameServer g target) := by
  by_cases hsame : gameData.gameServerSession = target
  · apply EndsPaired.of_pair _ h
    rw [pairingDepth, pair_setGameServer _ _ hg, if_pos hsame]
  cases target with
  | none =>
      rcases Option.ne_none_iff_exists'.mp hsame with ⟨x, hback⟩
      rcases h.session hg hback with ⟨session, hx, hold⟩
      exact EndsPaired.of_pair (setGameServer_none hg hback hx hold)
        (paired_part h hx hold gameData)
  | some x =>
      rcases Option.isSome_iff_exists.mp (htarget x rfl) with ⟨session, hx⟩
      have hgback := bind_gameServerSession hg
      have hxold := bind_gameData hx
      cases hback : gameData.gameServerSession with
      | none =>
          rw [hback] at hgback
          cases hold : session.gameData with
          | none =>
              rw [hold] at hxold
              exact EndsPaired.of_pair (setGameServer_idle hg hback hx hold)
                (paired_attach h hxold hgback session gameData)
          | some g0 =>
              rcases h.gameData hx hold with ⟨gameData0, hg0, hback0⟩
              have hne := server_ne hg hg0 hback0 hsame
              exact EndsPaired.of_pair
                (setGameServer_take hg hback hx hold hg0 hback0 hne)
                (paired_move h hx hold hgback hne gameData0 gameData)
      | some y =>
          rcases h.session hg hback with ⟨other, hy, hother⟩
          have hxy : x ≠ y := by
            intro heq
            rw [hback, heq] at hsame
            exact hsame rfl
          cases hold : session.gameData with
          | none =>
              rw [hold] at hxold
              exact EndsPaired.of_pair
                (setGameServer_exchange hg hback hy hother hx hold hxy)
                (paired_exchange h hxold hy hother hxy session gameData)
          | some g0 =>
              rcases h.gameData hx hold with ⟨gameData0, hg0, hback0⟩
              have hne := server_ne hg hg0 hback0 hsame
              exact EndsPaired.of_pair
                (setGameServer_exchangeTake hg hback hy hother hx hold hg0
                  hback0 hne hxy)
                (paired_moveTakeover h hx hold hy hother hne hxy gameData0
                  gameData)

end Pairs

/-!
## Late disconnections
-/

theorem removeGameData_total {s : AuthState} (h : Consistent s) {g : Addr}
    {gameData : GameData} (hg : s.gameDatas g = some gameData) :
    exists s', s.removeGameData g = some s' := by
  rcases removeServer_forgets h.indexed g with ⟨cleared, hclear, -, -⟩
  rw [removeGameData, hg, Option.bind_eq_bind, Option.bind_some, removeServer,
    removeBoundClients_servers]
  change s.removeServer g = _ at hclear
  rw [removeServer] at hclear
  rw [hclear]
  exact ⟨_, rfl⟩

theorem deleteGameSession_total {s : AuthState} (h : Consistent s) {x : Addr}
    {session : GameServerSession} (hx : s.gameSessions x = some session) :
    exists s', s.deleteGameSession x = some s' := by
  have hleave : exists s', s.leaveServer x session = some s' := by
    unfold leaveServer
    split
    · exact ⟨s, rfl⟩
    · rename_i g hback
      rcases h.paired.gameData hx hback with ⟨gameData, hg, hfront⟩
      rw [hg, Option.bind_eq_bind, Option.bind_some, if_pos hfront]
      split
      · exact ⟨_, setGameDataOf_none hx hback hg hfront⟩
      · exact removeGameData_total h hg
  rcases hleave with ⟨s', hleave⟩
  rw [deleteGameSession, hx, Option.bind_eq_bind, Option.bind_some, hleave]
  exact ⟨_, rfl⟩

theorem deleteGameSession_others {s s' : AuthState} (h : Consistent s)
    {x y g : Addr} {gameData : GameData} (hxy : x ≠ y)
    (hg : s.gameDatas g = some gameData)
    (hback : gameData.gameServerSession = some y)
    (hstep : s.deleteGameSession x = some s') :
    s'.gameSessions y = s.gameSessions y ∧
      exists gameData', s'.gameDatas g = some gameData' ∧
        gameData'.info = gameData.info ∧
          gameData'.gameServerSession = some y := by
  have hother : forall (g' : Addr) (session : GameServerSession),
      s.gameSessions x = some session -> session.gameData = some g' ->
      g ≠ g' := by
    intro g' session hx hold heq
    rcases h.paired.gameData hx hold with ⟨found, hfound, hfront⟩
    rw [← heq, hg] at hfound
    cases hfound
    rw [hback] at hfront
    cases hfront
    exact hxy rfl
  cases deleteGameSession_cases h hstep with
  | idle hx hnone =>
      exact ⟨Function.update_of_ne (Ne.symm hxy) _ _, gameData, hg, rfl,
        hback⟩
  | left hx hold hg' =>
      exact ⟨Function.update_of_ne (Ne.symm hxy) _ _, gameData,
        (Function.update_of_ne (hother _ _ hx hold) _ _).trans hg, rfl, hback⟩
  | closed hx hold hg' hforgets hgone =>
      rcases hforgets.sameServers.exists_some hg with
        ⟨gameData', hsame, hinfo, hsession⟩
      refine ⟨?_, gameData', ?_, hinfo, hsession.trans hback⟩
      · exact (Function.update_of_ne (Ne.symm hxy) _ _).trans
          (congrFun hforgets.gameSessions y)
      · exact (Function.update_of_ne (hother _ _ hx hold) _ _).trans hsame

/-- What holds between the sessions and the servers. -/
structure KeepsPairs (s : AuthState) : Prop where
  paired : Paired s.gameDatas s.gameSessions
  setGameData : forall x target, (s.gameSessions x).isSome = true ->
    Names s.gameDatas target ->
      s.EndsPaired (PairingCall.setGameData x target)
  setGameServer : forall g target, (s.gameDatas g).isSome = true ->
    Names s.gameSessions target ->
      s.EndsPaired (PairingCall.setGameServer g target)
  /-- However late a session disconnects that was replaced. -/
  disconnects : forall x, (s.gameSessions x).isSome = true ->
    exists s', s.deleteGameSession x = some s' ∧
      forall g gameData y, x ≠ y -> s.gameDatas g = some gameData ->
        gameData.gameServerSession = some y ->
          s'.gameSessions y = s.gameSessions y ∧
            exists gameData', s'.gameDatas g = some gameData' ∧
              gameData'.info = gameData.info ∧
                gameData'.gameServerSession = some y

theorem keepsPairs_of_run {strictKick : Bool} {history : List Occurrence}
    {s : AuthState} (hrun : AuthRun strictKick history s) :
    s.KeepsPairs := by
  have h := AuthRun.consistent hrun
  constructor
  · exact h.paired
  · intro x target hx htarget
    rcases Option.isSome_iff_exists.mp hx with ⟨session, hsession⟩
    exact endsPaired_setGameData h.paired hsession htarget
  · intro g target hg htarget
    rcases Option.isSome_iff_exists.mp hg with ⟨gameData, hdata⟩
    exact endsPaired_setGameServer h.paired hdata htarget
  · intro x hx
    rcases Option.isSome_iff_exists.mp hx with ⟨session, hsession⟩
    rcases deleteGameSession_total h hsession with ⟨s', hstep⟩
    refine ⟨s', hstep, ?_⟩
    intro g gameData y hxy hg hback
    exact deleteGameSession_others h hxy hg hback hstep

end AuthState

/-- A game server connects once more while its old connection is open. -/
def takeoverEvents : List Event :=
  [Event.gameConnected 1,
    Event.serverLogin 1 (LoginKind.loginWithLogoutExt (Vector.replicate 16 0))
      (namelessServer 1) 2,
    Event.gameConnected 5,
    Event.serverLogin 5 (LoginKind.loginWithLogoutExt (Vector.replicate 16 0))
      (namelessServer 1) 6]

theorem keepsPairs_of_run_takeover :
    exists history s, AuthRun false history s ∧
      (s.gameDatas 2).bind GameData.gameServerSession = some 5 ∧
        s.KeepsPairs := by
  have hreplay : (replay (nextStep false) AuthState.initial
      takeoverEvents).map (fun result =>
        (result.2.gameDatas 2).bind GameData.gameServerSession) =
          some (some 5) := by
    decide +kernel
  rcases Option.map_eq_some_iff.mp hreplay with ⟨⟨history, s⟩, heq, hback⟩
  have hrun := replay_run (nextStep_step false) Run.nil heq
  exact ⟨history, s, hrun, hback, AuthState.keepsPairs_of_run hrun⟩

end Auth
end Rzu
