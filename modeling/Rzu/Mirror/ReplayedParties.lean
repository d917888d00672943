import Rzu.Mirror.PartyReplay

/-!
# Whether the same party is made

The messages that tell about a party make the same party, unless a name has a
NUL or a player has summons.
-/

namespace Rzu
namespace Mirror

open Library
open Core
open Packet

namespace PartyInfo

/-- The same values, and the same entries whatever order they are kept in. -/
structure Same (party party' : PartyInfo) : Prop where
  partyId : party'.partyId = party.partyId
  partyName : party'.partyName = party.partyName
  leaderDisplayName : party'.leaderDisplayName = party.leaderDisplayName
  shareMode : party'.shareMode = party.shareMode
  maxLevel : party'.maxLevel = party.maxLevel
  minLevel : party'.minLevel = party.minLevel
  partyType : party'.partyType = party.partyType
  members : forall name,
    party'.membersByName.lookup name = party.membersByName.lookup name
  summons : forall handle,
    party'.summonByPlayerHandle.lookup handle =
      party.summonByPlayerHandle.lookup handle

/-- No name is cut at a NUL, and no summons have a player. -/
structure Replayable (party : PartyInfo) : Prop where
  partyName : 0 ∉ party.partyName
  leaderDisplayName : 0 ∉ party.leaderDisplayName
  members : UnorderedMap.Every (fun name _ => 0 ∉ name) party.membersByName
  summons : UnorderedMap.Every (fun playerHandle _ => playerHandle = 0)
    party.summonByPlayerHandle

end PartyInfo

theorem cString_eq_iff {text : CharString} :
    cString text = text ↔ 0 ∉ text := by
  rw [cString, List.takeWhile_eq_self_iff]
  constructor
  · intro h hmem
    exact absurd (h 0 hmem) (by decide)
  · intro h c hc
    exact decide_eq_true fun heq => h (heq ▸ hc)

theorem zero_notMem_cString (text : CharString) : 0 ∉ cString text := by
  intro hmem
  exact absurd (List.mem_takeWhile_imp hmem) (by decide)

section Received

variable {party : PartyInfo} {members : List PartyInfo.MemberEntry}
  {summons : List PartyInfo.SummonEntry}

theorem mem_receiveMembers {name : CharString} :
    name ∈ receiveMembers members ↔
      exists e, e ∈ members ∧ cString e.2.name = name := by
  rw [receiveMembers, UnorderedMap.mem_insertAll]
  exact or_iff_left (AList.notMem_empty name)

theorem lookup_receiveMembers (h : party.Printable)
    (hnames : UnorderedMap.Every (fun name _ => 0 ∉ name) party.membersByName)
    (hmembers : forall e : PartyInfo.MemberEntry,
      e ∈ members ↔ party.membersByName.lookup e.1 = some e.2)
    (name : CharString) :
    (receiveMembers members).lookup name =
      party.membersByName.lookup name := by
  have hkey : forall e, e ∈ members -> cString e.2.name = e.1 ∧
      e.2.received = e.2 := by
    intro e he
    have hlookup := (hmembers e).mp he
    have hname := (h.members e.1 e.2 hlookup).left
    have hwhole : cString e.2.name = e.2.name := by
      rw [cString_eq_iff, hname]
      exact hnames e.1 e.2 hlookup
    refine ⟨hwhole.trans hname, ?_⟩
    rw [MemberInfo.received, hwhole]
  cases hlookup : party.membersByName.lookup name with
  | none =>
      refine AList.lookup_eq_none.mpr fun hmem => ?_
      rcases mem_receiveMembers.mp hmem with ⟨e, he, hname⟩
      rw [(hkey e he).left] at hname
      rw [← hname, (hmembers e).mp he] at hlookup
      cases hlookup
  | some member =>
      have he : (⟨name, member⟩ : PartyInfo.MemberEntry) ∈ members :=
        (hmembers ⟨name, member⟩).mpr hlookup
      refine UnorderedMap.lookup_insertAll (fun e he' hname => ?_)
        (Or.inr ⟨⟨name, member⟩, he, (hkey _ he).left⟩)
      rw [(hkey e he').left] at hname
      have hentry := (hmembers e).mp he'
      rw [hname, hlookup] at hentry
      cases hentry
      exact (hkey e he').right

theorem every_receiveSummon {listed : Int -> Prop}
    (hlisted : forall e, e ∈ summons -> listed e.2.playerHandle)
    {known : UnorderedMap Int SummonInfo}
    (h : UnorderedMap.Every (fun key s => s.playerHandle = 0 ∧ listed key)
      known) :
    UnorderedMap.Every (fun key s => s.playerHandle = 0 ∧ listed key)
      (summons.foldl receiveSummon known) := by
  induction summons generalizing known with
  | nil => exact h
  | cons e summons ih =>
      refine ih (fun e' he' => hlisted e' (List.mem_cons_of_mem e he')) ?_
      refine h.insert ⟨?_, hlisted e List.mem_cons_self⟩
      change ((known.lookup e.2.playerHandle).getD
        SummonInfo.create).playerHandle = 0
      cases hlookup : known.lookup e.2.playerHandle with
      | none => rfl
      | some s => exact (h _ s hlookup).left

theorem lookup_receiveSummons (h : party.Printable)
    (hnobody : UnorderedMap.Every (fun playerHandle _ => playerHandle = 0)
      party.summonByPlayerHandle)
    (hsummons : forall e : PartyInfo.SummonEntry,
      e ∈ summons ↔ party.summonByPlayerHandle.lookup e.1 = some e.2)
    (hnodup : summons.Nodup) (handle : Int) :
    (receiveSummons summons).lookup handle =
      party.summonByPlayerHandle.lookup handle := by
  have hkey : forall e, e ∈ summons ->
      e.1 = 0 ∧ party.summonByPlayerHandle.lookup 0 = some e.2 := by
    intro e he
    have hlookup := (hsummons e).mp he
    have hzero : e.1 = 0 := hnobody e.1 e.2 hlookup
    rw [hzero] at hlookup
    exact ⟨hzero, hlookup⟩
  cases summons with
  | nil =>
      cases hlookup : party.summonByPlayerHandle.lookup handle with
      | none => rfl
      | some s =>
          exact absurd ((hsummons ⟨handle, s⟩).mpr hlookup)
            List.not_mem_nil
  | cons e rest =>
      rcases hkey e List.mem_cons_self with ⟨hzero, hlookup⟩
      have hrest : rest = [] := by
        refine List.eq_nil_iff_forall_not_mem.mpr fun e' he' => ?_
        rcases hkey e' (List.mem_cons_of_mem e he') with ⟨hzero', hlookup'⟩
        rw [hlookup, Option.some_inj] at hlookup'
        have hsame : e' = e :=
          Sigma.ext (hzero'.trans hzero.symm) (heq_of_eq hlookup'.symm)
        rw [hsame] at he'
        exact (List.nodup_cons.mp hnodup).left he'
      have hplayer : e.2.playerHandle = 0 := by
        rcases (h.summons 0 e.2 hlookup).playerHandle with heq | heq
        · exact heq
        · exact heq
      have hself : ({ playerHandle := 0
                      mainSummonHandle := e.2.mainSummonHandle
                      subSummonHandle := e.2.subSummonHandle } : SummonInfo) =
          e.2 := by
        rw [← hplayer]
      have hvalue : receiveSummons [e] =
          (∅ : UnorderedMap Int SummonInfo).insert e.2.playerHandle
            { playerHandle := 0
              mainSummonHandle := e.2.mainSummonHandle
              subSummonHandle := e.2.subSummonHandle } := rfl
      rw [hself, hplayer] at hvalue
      rw [hrest, hvalue, UnorderedMap.lookup_insert_eq]
      by_cases hhandle : handle = 0
      · rw [if_pos hhandle, hhandle, hlookup]
      · rw [if_neg hhandle, AList.lookup_empty]
        cases hother : party.summonByPlayerHandle.lookup handle with
        | none => rfl
        | some s => exact absurd (hnobody handle s hother) hhandle

theorem same_received_iff (h : party.Printable)
    (hmembers : forall e : PartyInfo.MemberEntry,
      e ∈ members ↔ party.membersByName.lookup e.1 = some e.2)
    (hsummons : forall e : PartyInfo.SummonEntry,
      e ∈ summons ↔ party.summonByPlayerHandle.lookup e.1 = some e.2)
    (hnodup : summons.Nodup) :
    PartyInfo.Same party (party.received members summons) ↔
      party.Replayable := by
  constructor
  · intro hsame
    refine ⟨cString_eq_iff.mp hsame.partyName,
      cString_eq_iff.mp hsame.leaderDisplayName, ?_, ?_⟩
    · intro name member hlookup
      have hreceived := hsame.members name
      rw [hlookup] at hreceived
      rcases mem_receiveMembers.mp
        (UnorderedMap.mem_iff_lookup.mpr ⟨member, hreceived⟩) with
        ⟨e, -, hname⟩
      rw [← hname]
      exact zero_notMem_cString e.2.name
    · have hevery : UnorderedMap.Every (fun key s => s.playerHandle = 0 ∧
          exists e, e ∈ summons ∧ e.2.playerHandle = key)
          (receiveSummons summons) :=
        every_receiveSummon (fun e he => ⟨e, he, rfl⟩)
          UnorderedMap.every_empty
      intro key s hlookup
      rcases (hevery key s ((hsame.summons key).trans hlookup)).right with
        ⟨e, he, rfl⟩
      have hentry := (hsummons e).mp he
      exact (hevery e.1 e.2 ((hsame.summons e.1).trans hentry)).left
  · intro hreplayable
    exact
      { partyId := rfl
        partyName := cString_eq_iff.mpr hreplayable.partyName
        leaderDisplayName := cString_eq_iff.mpr hreplayable.leaderDisplayName
        shareMode := rfl
        maxLevel := rfl
        minLevel := rfl
        partyType := rfl
        members := lookup_receiveMembers h hreplayable.members hmembers
        summons := lookup_receiveSummons h hreplayable.summons hsummons
          hnodup }

end Received

namespace LocalPlayerData

/-- The messages about a party make the same party, and no other. -/
def Replays (m : Moment) (playerName : CharString)
    (members : UnorderedMap.Visit CharString MemberInfo)
    (summons : UnorderedMap.Visit Int SummonInfo) (l : LocalPlayerData)
    (party : PartyInfo) : Prop :=
  exists l' party',
    (party.sendPartyInfo (members.order party.membersByName)
      (summons.order party.summonByPlayerHandle)).foldlM
        (hear m playerName) l = Except.ok l' ∧
    (forall key, l'.partyInfoByName.lookup key =
      if key = party.partyName then some party' else none) ∧
    PartyInfo.Same party party'

theorem replays_iff_of_printable {m : Moment} {playerName : CharString}
    {members : UnorderedMap.Visit CharString MemberInfo}
    {summons : UnorderedMap.Visit Int SummonInfo} {empty : LocalPlayerData}
    {party : PartyInfo} (h : party.Printable)
    (hempty : empty.partyInfoByName = ∅) :
    Replays m playerName members summons empty party ↔ party.Replayable := by
  have hmembers : forall e : PartyInfo.MemberEntry,
      e ∈ members.order party.membersByName ↔
        party.membersByName.lookup e.1 = some e.2 :=
    fun _ => UnorderedMap.Visit.mem_order
  have hsummons : forall e : PartyInfo.SummonEntry,
      e ∈ summons.order party.summonByPlayerHandle ↔
        party.summonByPlayerHandle.lookup e.1 = some e.2 :=
    fun _ => UnorderedMap.Visit.mem_order
  have hnodup : (summons.order party.summonByPlayerHandle).Nodup :=
    (summons.perm party.summonByPlayerHandle).nodup_iff.mpr
      party.summonByPlayerHandle.nodupKeys.nodup
  have hheard : Heard m playerName empty
      (party.sendPartyInfo (members.order party.membersByName)
        (summons.order party.summonByPlayerHandle)) _ :=
    heard_sendPartyInfo h
      (fun e he => (h.members e.1 e.2 ((hmembers e).mp he)).right)
      (fun e he => h.summons e.1 e.2 ((hsummons e).mp he)) hempty
  rcases hheard with ⟨l', hok, hparties⟩
  have hlookup : forall key, l'.partyInfoByName.lookup key =
      if key = cString party.partyName then
        some (party.received (members.order party.membersByName)
          (summons.order party.summonByPlayerHandle))
      else none := by
    intro key
    rw [hparties]
    exact UnorderedMap.lookup_insert_eq ∅ _ key _
  rw [← same_received_iff h hmembers hsummons hnodup]
  constructor
  · intro hreplays
    rcases hreplays with ⟨l'', party', hok', hlookup', hsame⟩
    rw [hok] at hok'
    cases hok'
    have hfound := hlookup' party.partyName
    rw [if_pos rfl, hlookup] at hfound
    split at hfound
    · cases hfound
      exact hsame
    · cases hfound
  · intro hsame
    have hname : cString party.partyName = party.partyName := hsame.partyName
    refine ⟨l', _, hok, fun key => ?_, hsame⟩
    rw [hlookup key, hname]

/--
A party that messages have led to is made again by the messages that tell
about it exactly if no name is cut and no summons have a player.
-/
theorem replays_iff {m : Moment} {playerName : CharString}
    {members : UnorderedMap.Visit CharString MemberInfo}
    {summons : UnorderedMap.Visit Int SummonInfo}
    {start l empty : LocalPlayerData} {history : List (Moment × Record)}
    {key : CharString} {party : PartyInfo}
    (hstart : start.partyInfoByName = ∅)
    (hrun : Run (ChatStep playerName) start history l)
    (hparty : l.partyInfoByName.lookup key = some party)
    (hempty : empty.partyInfoByName = ∅) :
    Replays m playerName members summons empty party ↔ party.Replayable :=
  replays_iff_of_printable (printable_of_run hstart hrun key party hparty)
    hempty

theorem replays_partyOfOne :
    exists party, inPartyOfOne.partyInfoByName.lookup (ascii "p") =
        some party ∧
      (Replays Moment.still [] UnorderedMap.Visit.kept UnorderedMap.Visit.kept
        create party ↔ party.Replayable) := by
  have hparty : exists party,
      inPartyOfOne.partyInfoByName.lookup (ascii "p") = some party :=
    ⟨_, rfl⟩
  rcases hparty with ⟨party, hparty⟩
  exact ⟨party, hparty,
    replays_iff rfl (Run.snoc Run.nil chatStep_partyOfOne) hparty rfl⟩

/-- The player with the handle 5 has the summons 6 and 7. -/
def summonsOfOne : Moment × Record :=
  (Moment.still, partyMessage (ascii "MSINFO|1|5|6|7"))

/-- The summons come back, but say that nobody has them. -/
theorem not_replays_summonsOfOne :
    exists history l party, Run (ChatStep []) create history l ∧
      l.partyInfoByName.lookup (ascii "p") = some party ∧
      ¬Replays Moment.still [] UnorderedMap.Visit.kept
        UnorderedMap.Visit.kept create party := by
  have hstep : exists l', ChatStep [] inPartyOfOne summonsOfOne l' ∧
      exists party s, l'.partyInfoByName.lookup (ascii "p") = some party ∧
        party.summonByPlayerHandle.lookup 5 = some s :=
    ⟨_, ⟨[], rfl⟩, _, _, rfl, rfl⟩
  rcases hstep with ⟨l', hstep, party, s, hparty, hsummons⟩
  have hrun : Run (ChatStep []) create [partyOfOne, summonsOfOne] l' :=
    Run.snoc (Run.snoc Run.nil chatStep_partyOfOne) hstep
  refine ⟨_, l', party, hrun, hparty, fun hreplays => ?_⟩
  have hprintable : party.Printable :=
    printable_of_run rfl hrun (ascii "p") party hparty
  have hreplayable := (replays_iff_of_printable hprintable rfl).mp hreplays
  have hzero : (5 : Int) = 0 := hreplayable.summons 5 s hsummons
  cases hzero

end LocalPlayerData

end Mirror
end Rzu
