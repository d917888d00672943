import Mathlib.Algebra.Ring.Nat
import Rzu.Library.Run
import Rzu.Upload.IconServerSession
import Rzu.Upload.References

/-!
# The paths that the upload server opens

Icons are requested by the line of a request or by a packet, and uploads are
written under a name that is made up.  Each path is the upload directory, a
slash and a name.  The check of names lets dots through.
-/

namespace Rzu
namespace Upload

open Auth (Addr CharString convertToString)
open Library

/-!
## Names
-/

/-- What follows the last separator. -/
def lastComponent (urlString : CharString) : CharString :=
  (urlString.reverse.takeWhile fun c =>
    !IconServerSession.isSeparator c).reverse

/-- A name of something in a directory. -/
structure IsComponent (name : CharString) : Prop where
  notEmpty : name ≠ []
  notDot : name ≠ [46]
  notDotDot : name ≠ [46, 46]
  noSeparator : forall c, c ∈ name -> c ≠ 47 ∧ c ≠ 92

def inDirectory (uploadDir name : CharString) : CharString :=
  uploadDir ++ chars "/" ++ name

def Confined (uploadDir path : CharString) : Prop :=
  exists name, path = inDirectory uploadDir name ∧ IsComponent name

theorem confined_iff_component (uploadDir name : CharString) :
    Confined uploadDir (inDirectory uploadDir name) ↔ IsComponent name := by
  constructor
  · rintro ⟨name', hpath, hname⟩
    have hsame : name = name' := List.append_cancel_left hpath
    rw [hsame]
    exact hname
  · intro hname
    exact ⟨name, rfl, hname⟩

theorem not_separator_of_checkName {name : CharString}
    (h : checkName name = true) :
    forall c, c ∈ name -> c ≠ 47 ∧ c ≠ 92 := by
  intro c hc
  have hallowed := List.all_eq_true.mp h c hc
  constructor
  · intro heq
    rw [heq] at hallowed
    exact absurd hallowed (by decide)
  · intro heq
    rw [heq] at hallowed
    exact absurd hallowed (by decide)

theorem component_iff_of_checkName {name : CharString}
    (h : checkName name = true) :
    IsComponent name ↔ ¬(name = [] ∨ name = [46] ∨ name = [46, 46]) := by
  constructor
  · rintro hname (hempty | hdot | hdotDot)
    · exact hname.notEmpty hempty
    · exact hname.notDot hdot
    · exact hname.notDotDot hdotDot
  · intro hnone
    rw [not_or, not_or] at hnone
    exact
      { notEmpty := hnone.left
        notDot := hnone.right.left
        notDotDot := hnone.right.right
        noSeparator := not_separator_of_checkName h }

/-!
## Request lines
-/

namespace IconServerSession

theorem nameBegin_eq {urlString : CharString} {p : Nat}
    (h : p ≤ urlString.length) :
    nameBegin urlString p =
      .ok (p - ((urlString.take p).reverse.takeWhile fun c =>
        !isSeparator c).length) := by
  induction p with
  | zero => rfl
  | succ p ih =>
      have hat : CppString.at? urlString p = .ok urlString[p] := by
        rw [CppString.at?, List.getElem?_eq_getElem h]
      rw [nameBegin, hat, List.take_succ_eq_append_getElem h,
        List.reverse_append, List.reverse_singleton, List.singleton_append,
        List.takeWhile_cons]
      change (if isSeparator urlString[p] = true then
        Except.ok (p + 1) else nameBegin urlString p) = _
      cases isSeparator urlString[p] with
      | true => rfl
      | false =>
          rw [if_neg (by decide), if_pos (by decide),
            ih (Nat.le_of_succ_le h), List.length_cons,
            Nat.add_sub_add_right]

theorem lastComponent_suffix (urlString : CharString) :
    lastComponent urlString <:+ urlString := by
  rw [lastComponent, ← List.reverse_prefix, List.reverse_reverse]
  exact List.takeWhile_prefix _

theorem parseUrl_eq (urlString : CharString) :
    parseUrl urlString =
      .ok (if lastComponent urlString = [] then Reply.notFound
        else if checkName (lastComponent urlString) then
          Reply.sendIcon (lastComponent urlString)
        else Reply.notFound) := by
  have hbegin := nameBegin_eq (Nat.le_refl urlString.length)
  have hsuffix := lastComponent_suffix urlString
  have hlength : (lastComponent urlString).length =
      (urlString.reverse.takeWhile fun c => !isSeparator c).length :=
    List.length_reverse
  rw [List.take_length, ← hlength] at hbegin
  have hle := hsuffix.length_le
  rw [parseUrl, hbegin]
  change (if urlString.length - (lastComponent urlString).length ≥
    urlString.length then Except.ok Reply.notFound else _) = _
  by_cases hempty : lastComponent urlString = []
  · have hzero : (lastComponent urlString).length = 0 := by
      rw [hempty]
      rfl
    rw [if_pos hempty, if_pos (by lia)]
  · have hpos := List.length_pos_iff.mpr hempty
    rw [if_neg (by lia), if_neg hempty, CppString.substr,
      if_neg (by lia)]
    have hdrop : urlString.drop (urlString.length -
        (lastComponent urlString).length) = lastComponent urlString :=
      (List.suffix_iff_eq_drop.mp hsuffix).symm
    change (if checkName (urlString.drop _) = true then
      Except.ok (Reply.sendIcon (urlString.drop _)) else
        Except.ok Reply.notFound) = _
    rw [hdrop]
    split
    · rfl
    · rfl

/-- What `parseUrl` writes. -/
def replyTo (urlString : CharString) : Reply :=
  if lastComponent urlString = [] then Reply.notFound
  else if checkName (lastComponent urlString) then
    Reply.sendIcon (lastComponent urlString)
  else Reply.notFound

theorem httpVersion_length : httpVersion.length = 9 := by decide

theorem answer_append {urlString : CharString}
    (h : (urlString ++ httpVersion).length < 2 ^ 64) :
    answer (urlString ++ httpVersion) = .ok [replyTo urlString] := by
  have hlength : (urlString ++ httpVersion).length =
      urlString.length + 9 := by
    rw [List.length_append, httpVersion_length]
  have hbegin : subSize (urlString ++ httpVersion).length 9 =
      urlString.length := by
    rw [subSize]
    lia
  rw [answer, hbegin, CppString.compare, if_neg (by lia), List.drop_left,
    List.take_left, parseUrl_eq]
  change (if decide (httpVersion = httpVersion) = true then
    Except.ok [replyTo urlString] else Except.ok []) = _
  rw [decide_eq_true rfl, if_pos rfl]

theorem answer_other {line : CharString} (hshort : line.length < 2 ^ 64)
    (hother : ¬exists urlString, line = urlString ++ httpVersion)
    {replies : List Reply} (h : answer line = .ok replies) :
    replies = [] := by
  have hlong : 9 ≤ line.length := by
    have hok := (answer_ok_iff hshort).mp ⟨replies, h⟩
    rw [httpVersion_length] at hok
    exact hok
  have hbegin : subSize line.length 9 = line.length - 9 := by
    rw [subSize]
    lia
  have hdiffers : line.drop (line.length - 9) ≠ httpVersion := by
    intro hdrop
    apply hother
    refine ⟨line.take (line.length - 9), ?_⟩
    rw [← hdrop, List.take_append_drop]
  rw [answer, hbegin, CppString.compare, if_neg (by lia)] at h
  change (if decide (line.drop _ = httpVersion) = true then _
    else Except.ok []) = _ at h
  rw [decide_eq_false hdiffers, if_neg (by decide)] at h
  cases h
  rfl

end IconServerSession

/-- A line as the icon server collects it. -/
structure RequestLine where
  text : CharString
  short : text.length ≤ 255
deriving DecidableEq

namespace IconServerSession

theorem InBounds.scan_short {s : IconServerSession} (h : InBounds s)
    {c : UInt8} {line : CharString} (hline : (s.scan c).2 = some line) :
    line.length ≤ 255 := by
  have hcollected := (h.collect c).right
  rw [scan] at hline
  generalize s.collected c = s' at hcollected hline
  split at hline
  · cases hline
  split at hline
  · split at hline
    · cases hline
      rw [hcollected.length]
      exact Nat.le_of_lt_succ s'.urlLength.toNat_lt
    · cases hline
  · cases hline

theorem InBounds.requestLines_short {s : IconServerSession}
    (h : InBounds s) (data : List UInt8) :
    forall line, line ∈ s.requestLines data -> line.length ≤ 255 := by
  induction data generalizing s with
  | nil =>
      intro line hline
      cases hline
  | cons c data ih =>
      intro line hline
      rw [requestLines, List.mem_append, Option.mem_toList] at hline
      rcases hline with hhere | hlater
      · exact h.scan_short hhere
      · exact ih (h.parseByte c).left line hlater

end IconServerSession

def Reply.filename : Reply -> Option CharString
  | Reply.notFound => none
  | Reply.sendIcon filename => some filename

def RequestLine.opens (line : RequestLine) : List CharString :=
  ((IconServerSession.answer line.text).toOption.getD []).filterMap
    Reply.filename

def RequestLine.Requests (line : RequestLine) (name : CharString) : Prop :=
  exists urlString, line.text = urlString ++ httpVersion ∧
    lastComponent urlString = name

theorem RequestLine.text_lt (line : RequestLine) :
    line.text.length < 2 ^ 64 := by
  have hshort := line.short
  lia

theorem RequestLine.mem_opens_iff (line : RequestLine) (name : CharString) :
    name ∈ line.opens ↔
      line.Requests name ∧ name ≠ [] ∧ checkName name = true := by
  have hsize := line.text_lt
  rw [opens]
  by_cases hversion : exists urlString, line.text = urlString ++ httpVersion
  · rcases hversion with ⟨urlString, htext⟩
    have hrequests : line.Requests name ↔ lastComponent urlString = name := by
      constructor
      · rintro ⟨urlString', htext', hname⟩
        have hsame : urlString = urlString' :=
          List.append_cancel_right (htext.symm.trans htext')
        rw [hsame]
        exact hname
      · intro hname
        exact ⟨urlString, htext, hname⟩
    rw [htext] at hsize ⊢
    rw [IconServerSession.answer_append hsize, hrequests]
    change name ∈ [IconServerSession.replyTo urlString].filterMap
      Reply.filename ↔ _
    rw [IconServerSession.replyTo]
    by_cases hempty : lastComponent urlString = []
    · rw [if_pos hempty]
      refine ⟨fun hmem => absurd hmem List.not_mem_nil, ?_⟩
      rintro ⟨hname, hne, -⟩
      exact absurd (hname.symm.trans hempty) hne
    · rw [if_neg hempty]
      by_cases hcheck : checkName (lastComponent urlString) = true
      · rw [if_pos hcheck]
        change name ∈ [lastComponent urlString] ↔ _
        rw [List.mem_singleton]
        constructor
        · intro hname
          rw [hname]
          exact ⟨rfl, hempty, hcheck⟩
        · rintro ⟨hname, -, -⟩
          exact hname.symm
      · rw [if_neg hcheck]
        refine ⟨fun hmem => absurd hmem List.not_mem_nil, ?_⟩
        rintro ⟨hname, -, hname'⟩
        rw [hname] at hcheck
        exact absurd hname' hcheck
  · have hnone : ¬line.Requests name := by
      rintro ⟨urlString, htext, -⟩
      exact hversion ⟨urlString, htext⟩
    cases hanswer : IconServerSession.answer line.text with
    | error fault =>
        change name ∈ [] ↔ _
        simp only [List.not_mem_nil, hnone, false_and]
    | ok replies =>
        have hempty := IconServerSession.answer_other hsize hversion hanswer
        change name ∈ replies.filterMap Reply.filename ↔ _
        simp only [hempty, List.filterMap_nil, List.not_mem_nil, hnone,
          false_and]

/-!
## Uploads
-/

/-- Neither of the characters that `IsComponent` rules out. -/
def NoSeparator (text : CharString) : Prop :=
  forall c, c ∈ text -> c ≠ 47 ∧ c ≠ 92

theorem noSeparator_of_all {text : CharString}
    (h : text.all (fun c => c != 47 && c != 92) = true) :
    NoSeparator text := by
  intro c hc
  have hboth := List.all_eq_true.mp h c hc
  rw [Bool.and_eq_true, bne_iff_ne, bne_iff_ne] at hboth
  exact hboth

theorem NoSeparator.append {text text' : CharString} (h : NoSeparator text)
    (h' : NoSeparator text') : NoSeparator (text ++ text') := by
  intro c hc
  rcases List.mem_append.mp hc with hmem | hmem
  · exact h c hmem
  · exact h' c hmem

theorem noSeparator_digits (n : Nat) : NoSeparator (chars (toString n)) := by
  intro c hc
  rcases List.mem_map.mp hc with ⟨digit, hdigit, rfl⟩
  have hisDigit := isDigit_of_mem_toString hdigit
  rw [Char.isDigit, Bool.and_eq_true, decide_eq_true_iff,
    decide_eq_true_iff] at hisDigit
  have hrange : 48 ≤ digit.toNat ∧ digit.toNat ≤ 57 := hisDigit
  have hbyte : digit.toNat.toUInt8.toNat = digit.toNat := by
    change digit.toNat % 256 = _
    lia
  constructor
  · intro heq
    rw [heq] at hbyte
    change 47 = _ at hbyte
    lia
  · intro heq
    rw [heq] at hbyte
    change 92 = _ at hbyte
    lia

theorem noSeparator_zeroPadded (width : Nat) (number : Int) :
    NoSeparator (zeroPadded width number) := by
  have hzeros : forall n, NoSeparator (List.replicate n 48) := by
    intro n c hc
    rw [(List.mem_replicate.mp hc).right]
    decide
  have hminus : NoSeparator [45] := by
    intro c hc
    rw [List.mem_singleton.mp hc]
    decide
  rw [zeroPadded]
  split
  · exact hminus.append ((hzeros _).append (noSeparator_digits _))
  · exact (hzeros _).append (noSeparator_digits _)

theorem underscore_mem {name : CharString}
    (h : name.length ≤ filenameSize / 2) (guildId : UInt32)
    (timeinfo : TimeInfo) :
    95 ∈ uploadFilename name guildId timeinfo := by
  have hhalf : filenameSize / 2 = 64 := rfl
  have hlast : filenameSize - 1 = 127 := rfl
  have hunderscore : chars "_" = [95] := rfl
  have hroom : 127 - name.length = 126 - name.length + 1 := by
    lia
  rw [uploadFilename, hlast, hunderscore]
  simp only [List.append_assoc]
  rw [List.take_append, hroom, List.singleton_append, List.take_succ_cons]
  exact List.mem_append_right _ List.mem_cons_self

theorem uploadFilename_component {name : CharString}
    (hcheck : checkName name = true) (h : name.length ≤ filenameSize / 2)
    (guildId : UInt32) (timeinfo : TimeInfo) :
    IsComponent (uploadFilename name guildId timeinfo) := by
  have hmem := underscore_mem h guildId timeinfo
  have hname : NoSeparator name := not_separator_of_checkName hcheck
  have hunderscore : NoSeparator (chars "_") := noSeparator_of_all (by decide)
  have hjpg : NoSeparator (chars ".jpg") := noSeparator_of_all (by decide)
  constructor
  · intro hempty
    rw [hempty] at hmem
    cases hmem
  · intro hdot
    rw [hdot] at hmem
    exact absurd hmem (by decide)
  · intro hdotDot
    rw [hdotDot] at hmem
    exact absurd hmem (by decide)
  · have hall : NoSeparator (name ++ chars "_" ++
        zeroPadded 10 guildId.toInt32.toInt ++ chars "_" ++
        zeroPadded 2 (timeinfo.tmYear.tmod 100) ++
        zeroPadded 2 timeinfo.tmMon ++ zeroPadded 2 timeinfo.tmMday ++
        chars "_" ++ zeroPadded 2 timeinfo.tmHour ++
        zeroPadded 2 timeinfo.tmMin ++ zeroPadded 2 timeinfo.tmSec ++
        chars ".jpg") :=
      (((((((((((hname.append hunderscore).append
        (noSeparator_zeroPadded _ _)).append hunderscore).append
        (noSeparator_zeroPadded _ _)).append
        (noSeparator_zeroPadded _ _)).append
        (noSeparator_zeroPadded _ _)).append hunderscore).append
        (noSeparator_zeroPadded _ _)).append
        (noSeparator_zeroPadded _ _)).append
        (noSeparator_zeroPadded _ _)).append hjpg)
    intro c hc
    exact hall c (List.mem_of_mem_take hc)

namespace UploadState

/-- The name of the file that `ClientSession::onUpload` opens, if any. -/
def uploadTarget (s : UploadState) (c : Addr) (packet : UploadPacket)
    (timeinfo : TimeInfo) : Option CharString := do
  let session <- s.clientSessions c
  let request <- session.currentRequest
  if packet.size.toNat ≠ packet.fileLength.toNat + uploadPacketSize then
    none
  else if 64000 < packet.fileLength then
    none
  else if ¬checkJpegImage packet.fileLength packet.fileContents then
    none
  else do
    let gameServer <- s.gameSessions request.gameServer
    if filenameSize / 2 < gameServer.serverName.length then
      none
    else
      some (uploadFilename gameServer.serverName request.guildSid timeinfo)

/-- The names of game servers have passed the check. -/
def NamesChecked (s : UploadState) : Prop :=
  forall x session, s.gameSessions x = some session ->
    checkName session.serverName = true

variable {s s' : UploadState}

theorem NamesChecked.target (h : s.NamesChecked) {c : Addr}
    {packet : UploadPacket} {timeinfo : TimeInfo} {filename : CharString}
    (htarget : s.uploadTarget c packet timeinfo = some filename) :
    IsComponent filename := by
  rcases Option.bind_eq_some_iff.mp htarget with ⟨session, -, htarget⟩
  rcases Option.bind_eq_some_iff.mp htarget with ⟨request, -, htarget⟩
  split at htarget
  · cases htarget
  split at htarget
  · cases htarget
  split at htarget
  · cases htarget
  rcases Option.bind_eq_some_iff.mp htarget with
    ⟨gameServer, hserver, htarget⟩
  split at htarget
  · cases htarget
  rename_i hlength
  cases htarget
  exact uploadFilename_component (h _ gameServer hserver)
    (Nat.not_lt.mp hlength) _ _

theorem NamesChecked.set (h : s.NamesChecked) (x : Addr)
    {session : GameServerSession}
    (hname : checkName session.serverName = true) :
    (s.setGameSession x session).NamesChecked := by
  intro y session' hsession
  change Function.update s.gameSessions x (some session) y = _ at hsession
  by_cases heq : y = x
  · rw [heq, Function.update_self] at hsession
    cases hsession
    exact hname
  · rw [Function.update_of_ne heq] at hsession
    exact h y session' hsession

theorem NamesChecked.same (h : s.NamesChecked)
    (hsame : s'.gameSessions = s.gameSessions) : s'.NamesChecked := by
  intro x session hsession
  rw [hsame] at hsession
  exact h x session hsession

theorem NamesChecked.serverLogin (h : s.NamesChecked) {x : Addr}
    {rawServerName : Vector UInt8 21} {outputs : List Output}
    (hlogin : s.serverLogin x rawServerName = some (s', outputs)) :
    s'.NamesChecked := by
  rcases Option.bind_eq_some_iff.mp hlogin with ⟨session, -, hlogin⟩
  dsimp only at hlogin
  split at hlogin
  · rename_i hcheck
    split at hlogin
    · cases hlogin
      exact NamesChecked.set (h.same rfl) x hcheck
    · cases hlogin
      exact h
  · cases hlogin
    exact h

theorem NamesChecked.gameDisconnected (h : s.NamesChecked) {x : Addr}
    (hleft : s.gameDisconnected x = some s') : s'.NamesChecked := by
  rcases Option.bind_eq_some_iff.mp hleft with ⟨session, -, hleft⟩
  cases hleft
  intro y session' hsession
  dsimp only at hsession
  by_cases heq : y = x
  · rw [heq, Function.update_self] at hsession
    cases hsession
  · rw [Function.update_of_ne heq] at hsession
    split at hsession
    · exact h y session' hsession
    · exact h y session' hsession

theorem NamesChecked.clientLogin (h : s.NamesChecked) {c : Addr}
    {packet : ClientLogin} {outputs : List Output}
    (hlogin : s.clientLogin c packet = some (s', outputs)) :
    s'.NamesChecked := by
  rcases Option.bind_eq_some_iff.mp hlogin with ⟨session, -, hlogin⟩
  rcases Option.bind_eq_some_iff.mp hlogin with
    ⟨⟨popped, request⟩, hpop, hlogin⟩
  cases hlogin
  rcases popRequest_cases hpop with ⟨rfl, -⟩ | ⟨found, -, -, rfl⟩
  · exact h.same rfl
  · exact h.same rfl

theorem NamesChecked.onUpload (h : s.NamesChecked) {c : Addr}
    {packet : UploadPacket} {timeinfo : TimeInfo} {file : FileOutcome}
    {outputs : List Output}
    (hupload : s.onUpload c packet timeinfo file = some (s', outputs)) :
    s'.NamesChecked := by
  rcases Option.bind_eq_some_iff.mp hupload with ⟨session, -, hupload⟩
  split at hupload
  · cases hupload
    exact h
  · split at hupload
    · cases hupload
      exact h
    split at hupload
    · cases hupload
      exact h
    split at hupload
    · cases hupload
      exact h
    rcases Option.bind_eq_some_iff.mp hupload with ⟨gameServer, -, hupload⟩
    split at hupload
    · cases hupload
      exact h
    · cases hupload
      exact h.same rfl

theorem NamesChecked.step (h : s.NamesChecked) {e : Event}
    (hstep : Step s e s') : s'.NamesChecked := by
  rcases hstep with ⟨outputs, hstep⟩
  cases e with
  | gameConnected x =>
      rcases Option.map_eq_some_iff.mp hstep with ⟨mid, hconnected, heq⟩
      cases heq
      rw [gameConnected] at hconnected
      split at hconnected
      · cases hconnected
        exact h.set x rfl
      · cases hconnected
  | serverLogin x rawServerName => exact h.serverLogin hstep
  | requestUpload x packet now =>
      rcases Option.bind_eq_some_iff.mp hstep with ⟨session, -, hstep⟩
      cases hstep
      exact h.same rfl
  | gameDisconnected x =>
      rcases Option.map_eq_some_iff.mp hstep with ⟨mid, hleft, heq⟩
      cases heq
      exact h.gameDisconnected hleft
  | clientConnected c =>
      rcases Option.map_eq_some_iff.mp hstep with ⟨mid, hconnected, heq⟩
      cases heq
      rw [clientConnected] at hconnected
      split at hconnected
      · cases hconnected
        exact h.same rfl
      · cases hconnected
  | clientLogin c packet => exact h.clientLogin hstep
  | upload c packet timeinfo file => exact h.onUpload hstep
  | clientDisconnected c =>
      rcases Option.map_eq_some_iff.mp hstep with ⟨mid, hleft, heq⟩
      cases heq
      rcases Option.bind_eq_some_iff.mp hleft with ⟨session, -, hleft⟩
      cases hleft
      exact h.same rfl

/-!
## Every path
-/

/-- What makes the server open a file. -/
inductive Access where
  /-- The icon server has a whole line. -/
  | requestLine (line : RequestLine)
  /-- `TS_CU_DOWNLOAD_ICON` -/
  | download (c : Addr) (rawFileName : Vector UInt8 64)
  /-- Anything that the sessions of game servers and clients handle. -/
  | event (e : Event)
deriving DecidableEq

def AccessStep (s : UploadState) (access : Access) (s' : UploadState) :
    Prop :=
  match access with
  | Access.requestLine _ => s' = s
  | Access.download c _ => s.clientSessions c ≠ none ∧ s' = s
  | Access.event e => Step s e s'

theorem accessStep_deterministic : Deterministic AccessStep := by
  intro s access s' s'' h h'
  cases access with
  | requestLine line => exact h.trans h'.symm
  | download c rawFileName => exact h.right.trans h'.right.symm
  | event e => exact step_deterministic s e s' s'' h h'

/-- `ClientSession::onDownload` -/
def downloadName (rawFileName : Vector UInt8 64) : CharString :=
  convertToString rawFileName.toList 63

def opens (s : UploadState) : Access -> List CharString
  | Access.requestLine line => line.opens
  | Access.download _ rawFileName =>
      if checkName (downloadName rawFileName) then [downloadName rawFileName]
      else []
  | Access.event (Event.upload c packet timeinfo _) =>
      (s.uploadTarget c packet timeinfo).toList
  | Access.event _ => []

def openedPaths (uploadDir : CharString) (s : UploadState)
    (access : Access) : List CharString :=
  (s.opens access).map (inDirectory uploadDir)

/-- Every path that an access opens is confined. -/
def OpensConfined (uploadDir : CharString) (s : UploadState)
    (access : Access) (_ : UploadState) : Prop :=
  forall path, path ∈ s.openedPaths uploadDir access ->
    Confined uploadDir path

/-- An icon is asked for by dots, or by nothing at all. -/
def NamesDirectory (_ : UploadState) : Access -> Prop
  | Access.requestLine line => line.Requests [46] ∨ line.Requests [46, 46]
  | Access.download _ rawFileName =>
      downloadName rawFileName = [] ∨ downloadName rawFileName = [46] ∨
        downloadName rawFileName = [46, 46]
  | Access.event _ => False

theorem opensConfined_iff_components (uploadDir : CharString)
    (s : UploadState) (access : Access) (s' : UploadState) :
    s.OpensConfined uploadDir access s' ↔
      forall name, name ∈ s.opens access -> IsComponent name := by
  constructor
  · intro hconfined name hname
    rw [← confined_iff_component uploadDir]
    exact hconfined _ (List.mem_map_of_mem hname)
  · intro hcomponents path hpath
    rcases List.mem_map.mp hpath with ⟨name, hname, rfl⟩
    rw [confined_iff_component]
    exact hcomponents name hname

theorem requestLine_iff (line : RequestLine) :
    (forall name, name ∈ line.opens -> IsComponent name) ↔
      ¬(line.Requests [46] ∨ line.Requests [46, 46]) := by
  constructor
  · rintro hcomponents (hdot | hdotDot)
    · apply (hcomponents [46] _).notDot rfl
      rw [line.mem_opens_iff]
      exact ⟨hdot, by decide, by decide⟩
    · apply (hcomponents [46, 46] _).notDotDot rfl
      rw [line.mem_opens_iff]
      exact ⟨hdotDot, by decide, by decide⟩
  · intro hnone name hname
    rw [line.mem_opens_iff] at hname
    rcases hname with ⟨hrequests, hne, hcheck⟩
    rw [component_iff_of_checkName hcheck]
    rintro (hempty | hdot | hdotDot)
    · exact hne hempty
    · rw [hdot] at hrequests
      exact hnone (Or.inl hrequests)
    · rw [hdotDot] at hrequests
      exact hnone (Or.inr hrequests)

/-- An access from a state whose names are checked. -/
theorem NamesChecked.opensConfined_iff (h : s.NamesChecked)
    (uploadDir : CharString) (access : Access) :
    s.OpensConfined uploadDir access s' ↔ ¬s.NamesDirectory access := by
  rw [opensConfined_iff_components]
  cases access with
  | requestLine line => exact requestLine_iff line
  | download c rawFileName =>
      rw [opens, NamesDirectory]
      by_cases hcheck : checkName (downloadName rawFileName) = true
      · rw [if_pos hcheck, ← component_iff_of_checkName hcheck]
        simp only [List.mem_singleton, forall_eq]
      · rw [if_neg hcheck]
        refine ⟨fun _ => ?_, fun _ name hname =>
          absurd hname List.not_mem_nil⟩
        rintro (hempty | hdot | hdotDot)
        · rw [hempty] at hcheck
          exact hcheck (by decide)
        · rw [hdot] at hcheck
          exact hcheck (by decide)
        · rw [hdotDot] at hcheck
          exact hcheck (by decide)
  | event e =>
      refine ⟨fun _ hnames => hnames, fun _ name hname => ?_⟩
      cases e with
      | upload c packet timeinfo file =>
          exact h.target (Option.mem_toList.mp hname)
      | gameConnected x => cases hname
      | serverLogin x rawServerName => cases hname
      | requestUpload x packet now => cases hname
      | gameDisconnected x => cases hname
      | clientConnected c => cases hname
      | clientLogin c packet => cases hname
      | clientDisconnected c => cases hname

theorem namesChecked_initial : NamesChecked initial := by
  intro x session hsession
  cases hsession

theorem NamesChecked.accessStep (h : s.NamesChecked) {access : Access}
    (hstep : AccessStep s access s') : s'.NamesChecked := by
  cases access with
  | requestLine line =>
      rw [hstep]
      exact h
  | download c rawFileName =>
      rw [hstep.right]
      exact h
  | event e => exact h.step hstep

/-- Whatever happened before, only dots and nothing lead out of bounds. -/
theorem opensConfined_iff_avoids (uploadDir : CharString)
    {history : List Access} {s : UploadState}
    (hrun : Run AccessStep initial history s) :
    AtEachStep AccessStep initial (OpensConfined uploadDir) history ↔
      Avoids AccessStep initial NamesDirectory history := by
  apply atEachStep_iff_avoids accessStep_deterministic namesChecked_initial
    _ _ _ hrun
  · intro s access s' h hstep _
    exact h.accessStep hstep
  · intro s access s' h _ hgood
    exact (h.opensConfined_iff uploadDir access).mpr hgood
  · intro s access s' h _ hbad hconfined
    exact (h.opensConfined_iff uploadDir access).mp hconfined hbad

/-- The line of `GET /a.jpg HTTP/1.1`. -/
def iconLine : RequestLine where
  text := chars "/a.jpg HTTP/1.1"
  short := by decide

theorem opensConfined_iff_avoids_icon :
    AtEachStep AccessStep initial (OpensConfined (chars "upload"))
        [Access.requestLine iconLine] ↔
      Avoids AccessStep initial NamesDirectory
        [Access.requestLine iconLine] := by
  apply opensConfined_iff_avoids (chars "upload")
  exact Run.snoc Run.nil rfl

/-- The line of `GET /.. HTTP/1.1`. -/
def dotsLine : RequestLine where
  text := chars "/.. HTTP/1.1"
  short := by decide

theorem not_opensConfined_dots :
    ¬AtEachStep AccessStep initial (OpensConfined (chars "upload"))
      [Access.requestLine dotsLine] := by
  intro hconfined
  have hopened : OpensConfined (chars "upload") initial
      (Access.requestLine dotsLine) initial :=
    hconfined [] _ [] initial initial rfl Run.nil rfl
  rw [namesChecked_initial.opensConfined_iff] at hopened
  exact hopened (Or.inr ⟨chars "/..", rfl, by decide⟩)

end UploadState

end Upload
end Rzu
