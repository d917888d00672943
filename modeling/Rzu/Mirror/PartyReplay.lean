import Rzu.Mirror.ClientUpdate
import Rzu.Mirror.PrintableParty

/-!
# Telling about a party again

A client that reconnects is told about a party in the messages that the server
would use, and what it makes of them.
-/

namespace Rzu
namespace Mirror

open Library
open Library.Numeral
open Core
open Packet

/-!
## Messages about a party
-/

/-- `%u|%s|%d|%d|%d|%d|%d|%d|%d|`, without the delimiters. -/
def MemberInfo.fields (member : MemberInfo) : List CharString :=
  [printUnsigned member.handle.toNat, cString member.name,
    print member.level, print member.jobId, print member.hpPercentage,
    print member.mpPercentage, print member.x, print member.y,
    print member.creature]

/-- `%u|%u|%u|`, without the delimiters. -/
def SummonInfo.fields (summons : SummonInfo) : List CharString :=
  [printUnsigned summons.playerHandle.toNat,
    printUnsigned summons.mainSummonHandle.toNat,
    printUnsigned summons.subSummonHandle.toNat]

namespace PartyInfo

abbrev MemberEntry := Sigma fun _ : CharString => MemberInfo
abbrev SummonEntry := Sigma fun _ : Int => SummonInfo

/-- `PINFO|%d|%s|%s|%d|%d|%d|%d|`, without the delimiters. -/
def fields (party : PartyInfo) : List CharString :=
  [ascii "PINFO", print party.partyId, cString party.partyName,
    cString party.leaderDisplayName, print party.shareMode,
    print party.maxLevel, print party.minLevel, print party.partyType]

def minfo (e : MemberEntry) : CharString :=
  terminated bar (ascii "MINFO" :: e.2.fields)

def pinfo (party : PartyInfo) (members : List MemberEntry) : CharString :=
  terminated bar party.fields ++
    members.flatMap fun e => terminated bar e.2.fields

def sinfo (party : PartyInfo) (summons : List SummonEntry) : CharString :=
  terminated bar
    [ascii "SINFO", print party.partyId, print (cInt.cast summons.length)] ++
    summons.flatMap fun e => terminated bar e.2.fields

/-- The messages that are sent, if the entries are visited in some order. -/
def sendPartyInfo (party : PartyInfo) (members : List MemberEntry)
    (summons : List SummonEntry) : List CharString :=
  members.map minfo ++ [party.pinfo members] ++
    (if summons = [] then [] else [party.sinfo summons]) ++
    [ascii "ARENAMODE|-1|0"]

end PartyInfo

namespace LocalPlayerData

/-- Handle a message of the party. -/
def hear (m : Moment) (playerName : CharString) (l : LocalPlayerData)
    (text : CharString) : Except Fault LocalPlayerData := do
  let handled <- l.onChat m playerName (partyMessage text)
  pure handled.1

end LocalPlayerData

/-!
## Reading what was printed
-/

theorem bar_notMem_cString {text : CharString} (h : bar ∉ text) :
    bar ∉ cString text :=
  fun hmem => h (List.takeWhile_subset _ hmem)

theorem bar_notMem_print (n : Int) : bar ∉ print n :=
  notMem_print (by decide) (by decide) n

theorem bar_notMem_printUnsigned (n : Nat) : bar ∉ printUnsigned n :=
  notMem_printUnsigned (by decide) n

/-- What is left of a member whose name is cut at a NUL. -/
def MemberInfo.received (member : MemberInfo) : MemberInfo :=
  { member with name := cString member.name }

theorem MemberInfo.Printable.fields {member : MemberInfo}
    (h : member.Printable) : forall field, field ∈ member.fields ->
      bar ∉ field := by
  simp only [MemberInfo.fields, List.forall_mem_cons, List.not_mem_nil,
    false_implies, implies_true, and_true]
  exact ⟨bar_notMem_printUnsigned _, bar_notMem_cString h.name,
    bar_notMem_print _, bar_notMem_print _, bar_notMem_print _,
    bar_notMem_print _, bar_notMem_print _, bar_notMem_print _,
    bar_notMem_print _⟩

theorem SummonInfo.bar_notMem_fields (summons : SummonInfo) :
    forall field, field ∈ summons.fields -> bar ∉ field := by
  simp only [SummonInfo.fields, List.forall_mem_cons, List.not_mem_nil,
    false_implies, implies_true, and_true]
  exact ⟨bar_notMem_printUnsigned _, bar_notMem_printUnsigned _,
    bar_notMem_printUnsigned _⟩

theorem PartyInfo.Printable.fields {party : PartyInfo} (h : party.Printable) :
    forall field, field ∈ party.fields -> bar ∉ field := by
  have hcommand : bar ∉ ascii "PINFO" := by decide
  simp only [PartyInfo.fields, List.forall_mem_cons, List.not_mem_nil,
    false_implies, implies_true, and_true]
  exact ⟨hcommand, bar_notMem_print _, bar_notMem_cString h.partyName,
    bar_notMem_cString h.leaderDisplayName, bar_notMem_print _,
    bar_notMem_print _, bar_notMem_print _, bar_notMem_print _⟩

theorem length_memberFields (e : PartyInfo.MemberEntry) :
    e.2.fields.length = 9 := rfl

theorem length_summonFields (e : PartyInfo.SummonEntry) :
    e.2.fields.length = 3 := rfl

theorem readMember_congr {args args' : List CharString} {first first' : Nat}
    (h : forall j, j < 9 -> arg args (first + j) = arg args' (first' + j)) :
    readMember args first = readMember args' first' := by
  have h0 : arg args first = arg args' first' := h 0 (by decide)
  rw [readMember, readMember, h0, h 1 (by decide), h 2 (by decide),
    h 3 (by decide), h 4 (by decide), h 5 (by decide), h 6 (by decide),
    h 7 (by decide), h 8 (by decide)]

theorem readMember_fields {member : MemberInfo} (h : member.Printable) :
    readMember member.fields 0 = Except.ok member.received := by
  have hread : readMember member.fields 0 = Except.ok
      { handle := strtouint (printUnsigned member.handle.toNat)
        name := cString member.name
        level := atoi (print member.level)
        jobId := atoi (print member.jobId)
        hpPercentage := atoi (print member.hpPercentage)
        mpPercentage := atoi (print member.mpPercentage)
        x := atoi (print member.x)
        y := atoi (print member.y)
        creature := atoi (print member.creature) } := rfl
  rw [hread, strtouint_toNat h.handle, atoi_print h.level, atoi_print h.jobId,
    atoi_print h.hpPercentage, atoi_print h.mpPercentage, atoi_print h.x,
    atoi_print h.y, atoi_print h.creature]
  rfl

theorem arg_record {record : Type} {f : record -> List CharString}
    {width : Nat} (hwidth : forall r, (f r).length = width)
    {head : List CharString} {records : List record} {i : Nat} {r : record}
    (hr : records[i]? = some r) {j : Nat} (hj : j < width) :
    arg (head ++ records.flatMap f) (head.length + i * width + j) =
      arg (f r) j := by
  have hindex : head.length + i * width + j - head.length = i * width + j := by
    lia
  rw [arg, arg, List.getElem?_append_right (by lia), hindex,
    getElem?_records hwidth hr hj]

def receiveMembers (members : List PartyInfo.MemberEntry) :
    UnorderedMap CharString MemberInfo :=
  UnorderedMap.insertAll (fun e => cString e.2.name) (fun e => e.2.received)
    members ∅

def receiveSummon (known : UnorderedMap Int SummonInfo)
    (e : PartyInfo.SummonEntry) : UnorderedMap Int SummonInfo :=
  known.insert e.2.playerHandle
    { (known.lookup e.2.playerHandle).getD SummonInfo.create with
      mainSummonHandle := e.2.mainSummonHandle
      subSummonHandle := e.2.subSummonHandle }

def receiveSummons (summons : List PartyInfo.SummonEntry) :
    UnorderedMap Int SummonInfo :=
  summons.foldl receiveSummon ∅

def PartyInfo.received (party : PartyInfo) (members : List MemberEntry)
    (summons : List SummonEntry) : PartyInfo :=
  { party with
    partyName := cString party.partyName
    leaderDisplayName := cString party.leaderDisplayName
    membersByName := receiveMembers members
    summonByPlayerHandle := receiveSummons summons }

namespace PartyInfo

theorem foldl_setMember (members : List MemberEntry) (party : PartyInfo) :
    members.foldl (fun party e => party.setMember e.2.received) party =
      { party with
        membersByName := UnorderedMap.insertAll (fun e => cString e.2.name)
          (fun e => e.2.received) members party.membersByName } := by
  induction members generalizing party with
  | nil => rfl
  | cons e members ih =>
      rw [List.foldl_cons, ih]
      rfl

theorem foldl_receiveSummon (summons : List SummonEntry) (party : PartyInfo) :
    summons.foldl (fun party e =>
        { party with
          summonByPlayerHandle :=
            receiveSummon party.summonByPlayerHandle e }) party =
      { party with
        summonByPlayerHandle :=
          summons.foldl receiveSummon party.summonByPlayerHandle } := by
  induction summons generalizing party with
  | nil => rfl
  | cons e summons ih =>
      rw [List.foldl_cons, ih]
      rfl

end PartyInfo

/-!
## Hearing the messages
-/

namespace LocalPlayerData

section Hear

variable {m : Moment} {playerName : CharString} {l : LocalPlayerData}
  {party : PartyInfo} {members : List PartyInfo.MemberEntry}
  {summons : List PartyInfo.SummonEntry}

/-- A message leads to a player in these parties. -/
def Heard (m : Moment) (playerName : CharString) (l : LocalPlayerData)
    (texts : List CharString)
    (parties : UnorderedMap CharString PartyInfo) : Prop :=
  exists l', texts.foldlM (hear m playerName) l = Except.ok l' ∧
    l'.partyInfoByName = parties

theorem Heard.append {texts texts' : List CharString}
    {parties parties' : UnorderedMap CharString PartyInfo}
    (h : Heard m playerName l texts parties)
    (h' : forall l', l'.partyInfoByName = parties ->
      Heard m playerName l' texts' parties') :
    Heard m playerName l (texts ++ texts') parties' := by
  rcases h with ⟨l', hok, hparties⟩
  rcases h' l' hparties with ⟨l'', hok', hparties'⟩
  refine ⟨l'', ?_, hparties'⟩
  rw [List.foldlM_append, hok]
  exact hok'

theorem heard_of_command {text command : CharString} {rest : List CharString}
    {parties : UnorderedMap CharString PartyInfo}
    (htext : stringSplit bar text = command :: rest)
    (hinvite : command ≠ ascii "INVITE")
    (h : forall l' : LocalPlayerData,
      l'.partyInfoByName = l.partyInfoByName ->
      exists l'', l'.onCommand m (command :: rest) playerName command =
        Except.ok l'' ∧ l''.partyInfoByName = parties) :
    Heard m playerName l [text] parties := by
  have hremember : (l.rememberChat (partyMessage text)).partyInfoByName =
      l.partyInfoByName := by
    rw [rememberChat]
    split
    · rfl
    · rfl
  rcases h _ hremember with ⟨l', hok, hparties⟩
  refine ⟨l', ?_, hparties⟩
  have htype : (partyMessage text).integer "type" = CHAT_PARTY_SYSTEM := rfl
  have hmessage : (partyMessage text).string "message" = text := rfl
  rw [List.foldlM_cons, hear, onChat, if_pos (Or.inl htype), hmessage, htext,
    onParty, if_neg hinvite, hok]
  rfl

theorem findPartyByMember_empty (hempty : l.partyInfoByName = ∅)
    (name : CharString) : l.findPartyByMember m name = none := by
  rw [findPartyByMember, hempty]
  exact UnorderedMap.Visit.find?_eq_none.mpr UnorderedMap.every_empty

theorem heard_minfo {e : PartyInfo.MemberEntry} (h : e.2.Printable)
    (hempty : l.partyInfoByName = ∅) :
    Heard m playerName l [PartyInfo.minfo e] ∅ := by
  refine heard_of_command (stringSplit_terminated ?_) (by decide) ?_
  · have hcommand : bar ∉ ascii "MINFO" := by decide
    exact List.forall_mem_cons.mpr ⟨hcommand, h.fields⟩
  · intro l' hsame
    refine ⟨l', ?_, hsame.trans hempty⟩
    have hcommand : l'.onCommand m (ascii "MINFO" :: e.2.fields) playerName
        (ascii "MINFO") = l'.updateFound
          (l'.findPartyByMember m (cString e.2.name)) fun party =>
            readMember (ascii "MINFO" :: e.2.fields) 1 >>= fun member =>
              pure (party.setMember member) := rfl
    rw [hcommand, findPartyByMember_empty (hsame.trans hempty)]
    rfl

theorem heard_members (h : forall e, e ∈ members -> e.2.Printable)
    (hempty : l.partyInfoByName = ∅) :
    Heard m playerName l (members.map PartyInfo.minfo) ∅ := by
  induction members generalizing l with
  | nil => exact ⟨l, rfl, hempty⟩
  | cons e members ih =>
      have hfirst : Heard m playerName l [PartyInfo.minfo e] ∅ :=
        heard_minfo (h e List.mem_cons_self) hempty
      exact hfirst.append fun l' hl' =>
        ih (fun e' he' => h e' (List.mem_cons_of_mem e he')) hl'

theorem readMembers_received (hmembers : forall e, e ∈ members -> e.2.Printable)
    {i : Nat} {e : PartyInfo.MemberEntry} (he : members[i]? = some e)
    (party' : PartyInfo) :
    PartyInfo.readMembers (party.fields ++ members.flatMap fun e => e.2.fields)
      party' i = Except.ok (party'.setMember e.2.received) := by
  have hread : readMember
      (party.fields ++ members.flatMap fun e => e.2.fields) (8 + i * 9) =
        readMember e.2.fields 0 := by
    refine readMember_congr fun j hj => ?_
    rw [Nat.zero_add]
    exact arg_record length_memberFields he hj
  rw [PartyInfo.readMembers, hread,
    readMember_fields (hmembers e (List.mem_of_getElem? he))]
  rfl

theorem onCommand_PINFO {args : List CharString} (h : 8 ≤ args.length) :
    l.onCommand m args playerName (ascii "PINFO") = l.onPINFO args := by
  simp [onCommand, ascii, h]

theorem onCommand_SINFO {args : List CharString} (h : 4 ≤ args.length) :
    l.onCommand m args playerName (ascii "SINFO") = l.onSINFO m args := by
  simp [onCommand, ascii, h]

theorem heard_pinfo (h : party.Printable)
    (hmembers : forall e, e ∈ members -> e.2.Printable)
    (hempty : l.partyInfoByName = ∅) :
    Heard m playerName l [party.pinfo members]
      (AList.insert (cString party.partyName)
        (party.received members []) ∅) := by
  have htext : stringSplit bar (party.pinfo members) =
      party.fields ++ members.flatMap fun e => e.2.fields := by
    rw [PartyInfo.pinfo, ← terminated_flatMap, ← terminated_append]
    refine stringSplit_terminated fun field hfield => ?_
    rcases List.mem_append.mp hfield with hparty | hmember
    · exact h.fields field hparty
    · rcases List.mem_flatMap.mp hmember with ⟨e, he, hfield⟩
      exact (hmembers e he).fields field hfield
  refine heard_of_command htext (by decide) fun l' hsame => ?_
  have hcount : (party.fields ++ members.flatMap fun e => e.2.fields).length =
      8 + members.length * 9 := by
    rw [List.length_append, length_records length_memberFields]
    rfl
  have hmany : ((party.fields ++
      members.flatMap fun e => e.2.fields).length - 8) / 9 =
        members.length := by
    lia
  have hknown : l'.partyInfoByName.lookup (cString party.partyName) = none := by
    rw [hsame, hempty]
    rfl
  have hcommand : l'.onCommand m
      (party.fields ++ members.flatMap fun e => e.2.fields) playerName
        (ascii "PINFO") =
          l'.onPINFO (party.fields ++ members.flatMap fun e => e.2.fields) :=
    onCommand_PINFO (by lia)
  have hread : l'.onPINFO
      (party.fields ++ members.flatMap fun e => e.2.fields) =
        ((List.range (((party.fields ++
          members.flatMap fun e => e.2.fields).length - 8) / 9)).foldlM
            (PartyInfo.readMembers
              (party.fields ++ members.flatMap fun e => e.2.fields))
            { (l'.partyInfoByName.lookup (cString party.partyName)).getD
                PartyInfo.create with
              partyId := atoi (print party.partyId)
              partyName := cString party.partyName
              leaderDisplayName := cString party.leaderDisplayName
              shareMode := atoi (print party.shareMode)
              maxLevel := atoi (print party.maxLevel)
              minLevel := atoi (print party.minLevel)
              partyType := atoi (print party.partyType)
              membersByName := ∅ }) >>= fun party' =>
            pure (l'.setParty (cString party.partyName) party') := rfl
  rw [hmany, foldlM_range (fun i e he party' =>
    readMembers_received hmembers he party'), PartyInfo.foldl_setMember,
    hknown, atoi_print h.partyId, atoi_print h.shareMode,
    atoi_print h.maxLevel, atoi_print h.minLevel,
    atoi_print h.partyType] at hread
  refine ⟨_, hcommand.trans hread, ?_⟩
  rw [← hempty, ← hsame]
  rfl

def summonHead (party : PartyInfo) (summons : List PartyInfo.SummonEntry) :
    List CharString :=
  [ascii "SINFO", print party.partyId, print (cInt.cast summons.length)]

theorem readSummons_received
    (hsummons : forall e, e ∈ summons -> e.2.Printable e.1) {i : Nat}
    {e : PartyInfo.SummonEntry} (he : summons[i]? = some e)
    (party' : PartyInfo) :
    party'.readSummons
        (summonHead party summons ++ summons.flatMap fun e => e.2.fields) i =
      Except.ok
        { party' with
          summonByPlayerHandle :=
            receiveSummon party'.summonByPlayerHandle e } := by
  have hprintable := hsummons e (List.mem_of_getElem? he)
  have hplayer : arg (summonHead party summons ++
      summons.flatMap fun e => e.2.fields) (3 + i * 3) =
        Except.ok (printUnsigned e.2.playerHandle.toNat) :=
    arg_record (j := 0) length_summonFields he (by decide)
  have hmain : arg (summonHead party summons ++
      summons.flatMap fun e => e.2.fields) (4 + i * 3) =
        Except.ok (printUnsigned e.2.mainSummonHandle.toNat) := by
    have hindex : 4 + i * 3 = 3 + i * 3 + 1 := by lia
    rw [hindex]
    exact arg_record length_summonFields he (by decide)
  have hsub : arg (summonHead party summons ++
      summons.flatMap fun e => e.2.fields) (5 + i * 3) =
        Except.ok (printUnsigned e.2.subSummonHandle.toNat) := by
    have hindex : 5 + i * 3 = 3 + i * 3 + 2 := by lia
    rw [hindex]
    exact arg_record length_summonFields he (by decide)
  have howner : cUnsigned.Fits e.2.playerHandle := by
    rcases hprintable.playerHandle with hkey | hnobody
    · rw [hkey]
      exact hprintable.key
    · rw [hnobody]
      decide
  rw [PartyInfo.readSummons, hplayer, hmain, hsub]
  change Except.ok (party'.setSummons
    (strtouint (printUnsigned e.2.playerHandle.toNat))
    { (party'.summonByPlayerHandle.lookup
        (strtouint (printUnsigned e.2.playerHandle.toNat))).getD
          SummonInfo.create with
      mainSummonHandle :=
        strtouint (printUnsigned e.2.mainSummonHandle.toNat)
      subSummonHandle :=
        strtouint (printUnsigned e.2.subSummonHandle.toNat) }) = _
  rw [strtouint_toNat howner, strtouint_toNat hprintable.mainSummonHandle,
    strtouint_toNat hprintable.subSummonHandle]
  rfl

theorem findPartyById_insert {key : CharString} {party' : PartyInfo}
    (hparties : l.partyInfoByName = AList.insert key party' ∅) :
    l.findPartyById m party'.partyId = some ⟨key, party'⟩ := by
  have hlookup : forall key', l.partyInfoByName.lookup key' =
      if key' = key then some party' else none := by
    intro key'
    rw [hparties]
    exact UnorderedMap.lookup_insert_eq ∅ key key' party'
  have hexists : exists e, l.findPartyById m party'.partyId = some e := by
    refine UnorderedMap.Visit.exists_find?.mpr ⟨key, party', ?_, ?_⟩
    · rw [hlookup, if_pos rfl]
    · exact decide_eq_true rfl
  rcases hexists with ⟨e, hfound⟩
  have hentry := finds_findPartyById e hfound
  rw [hlookup] at hentry
  split at hentry
  · rename_i hkey
    rcases e with ⟨key', party''⟩
    cases hkey
    cases hentry
    exact hfound
  · cases hentry

theorem heard_sinfo (h : party.Printable)
    (hsummons : forall e, e ∈ summons -> e.2.Printable e.1)
    (hne : summons ≠ [])
    (hparties : l.partyInfoByName = AList.insert (cString party.partyName)
      (party.received members []) ∅) :
    Heard m playerName l [party.sinfo summons]
      (AList.insert (cString party.partyName)
        (party.received members summons) ∅) := by
  have htext : stringSplit bar (party.sinfo summons) =
      summonHead party summons ++ summons.flatMap fun e => e.2.fields := by
    rw [PartyInfo.sinfo, ← terminated_flatMap, ← terminated_append]
    refine stringSplit_terminated fun field hfield => ?_
    rcases List.mem_append.mp hfield with hhead | hsummon
    · have hcommand : bar ∉ ascii "SINFO" := by decide
      simp only [List.mem_cons, List.not_mem_nil, or_false] at hhead
      rcases hhead with rfl | rfl | rfl
      · exact hcommand
      · exact bar_notMem_print _
      · exact bar_notMem_print _
    · rcases List.mem_flatMap.mp hsummon with ⟨e, -, hfield⟩
      exact e.2.bar_notMem_fields field hfield
  refine heard_of_command htext (by decide) fun l' hsame => ?_
  have hcount : (summonHead party summons ++
      summons.flatMap fun e => e.2.fields).length =
        3 + summons.length * 3 := by
    rw [List.length_append, length_records length_summonFields]
    rfl
  have hmany : ((summonHead party summons ++
      summons.flatMap fun e => e.2.fields).length - 3) / 3 =
        summons.length := by
    lia
  have hpositive : 0 < summons.length := List.length_pos_iff.mpr hne
  have hcommand : l'.onCommand m
      (summonHead party summons ++ summons.flatMap fun e => e.2.fields)
        playerName (ascii "SINFO") =
          l'.onSINFO m (summonHead party summons ++
            summons.flatMap fun e => e.2.fields) :=
    onCommand_SINFO (by lia)
  have hread : l'.onSINFO m (summonHead party summons ++
      summons.flatMap fun e => e.2.fields) =
        l'.updateFound (l'.findPartyById m (atoi (print party.partyId)))
          fun party' => (List.range (((summonHead party summons ++
              summons.flatMap fun e => e.2.fields).length - 3) / 3)).foldlM
            (PartyInfo.readSummons (summonHead party summons ++
              summons.flatMap fun e => e.2.fields))
            { party' with summonByPlayerHandle := ∅ } := rfl
  have hfound : l'.findPartyById m party.partyId =
      some ⟨cString party.partyName, party.received members []⟩ :=
    findPartyById_insert (hsame.trans hparties)
  rw [atoi_print h.partyId, hfound, hmany] at hread
  refine ⟨l'.setParty (cString party.partyName)
    (party.received members summons), hcommand.trans (hread.trans ?_), ?_⟩
  · rw [updateFound, foldlM_range fun i e he party' =>
      readSummons_received hsummons he party', PartyInfo.foldl_receiveSummon]
    rfl
  · change AList.insert (cString party.partyName)
      (party.received members summons) l'.partyInfoByName = _
    have hreplaced : AList.insert (cString party.partyName)
        (party.received members summons)
        (AList.insert (cString party.partyName) (party.received members [])
          (∅ : UnorderedMap CharString PartyInfo)) =
          AList.insert (cString party.partyName)
            (party.received members summons) ∅ := AList.insert_insert ∅
    rw [hsame, hparties, hreplaced]

theorem heard_arenamode :
    Heard m playerName l [ascii "ARENAMODE|-1|0"] l.partyInfoByName := by
  have htext : stringSplit bar (ascii "ARENAMODE|-1|0") =
      [ascii "ARENAMODE", ascii "-1", ascii "0"] := by decide
  exact heard_of_command htext (by decide) fun l' hsame => ⟨l', rfl, hsame⟩

theorem heard_sendPartyInfo (h : party.Printable)
    (hmembers : forall e, e ∈ members -> e.2.Printable)
    (hsummons : forall e, e ∈ summons -> e.2.Printable e.1)
    (hempty : l.partyInfoByName = ∅) :
    Heard m playerName l (party.sendPartyInfo members summons)
      (AList.insert (cString party.partyName)
        (party.received members summons) ∅) := by
  have hstart : Heard m playerName l
      (members.map PartyInfo.minfo ++ [party.pinfo members])
      (AList.insert (cString party.partyName)
        (party.received members []) ∅) :=
    (heard_members hmembers hempty).append fun l' hl' =>
      heard_pinfo h hmembers hl'
  have hall : Heard m playerName l
      (members.map PartyInfo.minfo ++ [party.pinfo members] ++
        (if summons = [] then [] else [party.sinfo summons]))
      (AList.insert (cString party.partyName)
        (party.received members summons) ∅) := by
    refine hstart.append fun l' hl' => ?_
    by_cases hne : summons = []
    · subst hne
      rw [if_pos rfl]
      exact ⟨l', rfl, hl'⟩
    · rw [if_neg hne]
      exact heard_sinfo h hsummons hne hl'
  refine hall.append fun l' hl' => ?_
  rw [← hl']
  exact heard_arenamode

end Hear

end LocalPlayerData

end Mirror
end Rzu
