import Mathlib.Data.List.TakeWhile
import Rzu.Library.Run
import Rzu.Library.Search
import Rzu.Upload.OpenedPaths

/-!
# Which requests the icon server finds

The urls that `parseData` passes to `parseUrl`, against those that a search for
the first occurrences finds.  One counter serves both searches of `parseData`,
and a byte at which it starts over is not looked at again.
-/

namespace Rzu
namespace Upload

open Auth (CharString)
open Library

namespace IconServerSession

/-!
## What is passed to `parseUrl`
-/

section Handler

variable {result : Type} (handle : CharString -> Except Fault (List result))

/-- `endHeaders` with what is done for a complete line as a parameter. -/
def endHeadersWith (s : IconServerSession) (c : UInt8) :
    Except Fault (IconServerSession × List result) :=
  if s.status = IconState.retrievingStatusLine ∨
      s.status = IconState.waitEndOfHeaders then do
    let expected <- charAt endHeader s.nextByteToMatch
    if c = expected then
      if s.nextByteToMatch + 1 ≥ 4 then do
        let results <- handle s.url
        pure ({ s with
          status := IconState.waitStatusLine
          nextByteToMatch := 0 }.clearUrl, results)
      else pure ({ s with nextByteToMatch := s.nextByteToMatch + 1 }, [])
    else pure ({ s with nextByteToMatch := 0 }, [])
  else pure (s, [])

def parseByteWith (s : IconServerSession) (c : UInt8) :
    Except Fault (IconServerSession × List result) := do
  let s <- s.collect c
  s.endHeadersWith handle c

def parseDataWith (s : IconServerSession) :
    List UInt8 -> Except Fault (IconServerSession × List result)
  | [] => .ok (s, [])
  | c :: data => do
      let first <- s.parseByteWith handle c
      let later <- first.1.parseDataWith data
      pure (later.1, first.2 ++ later.2)

def receiveWith (s : IconServerSession) :
    List (List UInt8) -> Except Fault (IconServerSession × List result)
  | [] => .ok (s, [])
  | chunk :: chunks => do
      let first <- s.parseDataWith handle chunk
      let later <- first.1.receiveWith chunks
      pure (later.1, first.2 ++ later.2)

end Handler

theorem parseDataWith_answer (s : IconServerSession) (data : List UInt8) :
    s.parseDataWith answer data = s.parseData data := by
  induction data generalizing s with
  | nil => rfl
  | cons c data ih =>
      rw [parseDataWith, parseData]
      have hbyte : s.parseByteWith answer c = s.parseByte c := rfl
      rw [hbyte]
      simp only [ih]

theorem receiveWith_answer (s : IconServerSession)
    (chunks : List (List UInt8)) :
    s.receiveWith answer chunks = s.receive chunks := by
  induction chunks generalizing s with
  | nil => rfl
  | cons chunk chunks ih =>
      rw [receiveWith, receive]
      simp only [parseDataWith_answer, ih]

/-- The url of a line that is passed to `parseUrl`, if any. -/
def passedUrl (urlString : CharString) : Except Fault (List CharString) := do
  let begin := subSize urlString.length 9
  let same <- CppString.compare urlString begin httpVersion
  pure (if same then [urlString.take begin] else [])

theorem answer_eq (urlString : CharString) :
    answer urlString =
      (passedUrl urlString).bind fun urls => urls.mapM parseUrl := by
  have hat : forall begin,
      (do
        let same <- CppString.compare urlString begin httpVersion
        if same then do
          let reply <- parseUrl (urlString.take begin)
          pure [reply]
        else pure []) =
      Except.bind (do
        let same <- CppString.compare urlString begin httpVersion
        pure (if same then [urlString.take begin] else []))
        fun urls => urls.mapM parseUrl := by
    intro begin
    cases CppString.compare urlString begin httpVersion with
    | error fault => rfl
    | ok same =>
        cases same with
        | false => rfl
        | true =>
            change (parseUrl _).bind (fun reply => Except.ok [reply]) =
              List.mapM parseUrl [_]
            rw [List.mapM_cons]
            cases parseUrl (urlString.take begin) with
            | error fault => rfl
            | ok reply => rfl
  exact hat (subSize urlString.length 9)

section Handler

variable {result : Type} (handle : CharString -> Except Fault (List result))

theorem parseDataWith_append (s : IconServerSession)
    (data later : List UInt8) :
    s.parseDataWith handle (data ++ later) = (do
      let first <- s.parseDataWith handle data
      let rest <- first.1.parseDataWith handle later
      pure (rest.1, first.2 ++ rest.2)) := by
  induction data generalizing s with
  | nil =>
      change s.parseDataWith handle later =
        (s.parseDataWith handle later).bind fun rest =>
          .ok (rest.1, [] ++ rest.2)
      cases s.parseDataWith handle later with
      | error fault => rfl
      | ok rest => rfl
  | cons c data ih =>
      simp only [List.cons_append, parseDataWith, ih, bind_assoc, pure_bind,
        List.append_assoc]

theorem receiveWith_eq (s : IconServerSession)
    (chunks : List (List UInt8)) :
    s.receiveWith handle chunks = s.parseDataWith handle chunks.flatten := by
  induction chunks generalizing s with
  | nil => rfl
  | cons chunk chunks ih =>
      simp only [receiveWith, List.flatten_cons, parseDataWith_append, ih]

theorem InBounds.parseByteWith {s : IconServerSession} (h : InBounds s)
    (c : UInt8) :
    s.parseByteWith handle c =
      ((s.scan c).2.elim (Except.ok []) handle).map fun results =>
        ((s.scan c).1, results) := by
  rcases h.collect c with ⟨hcollect, h'⟩
  have hparse : s.parseByteWith handle c =
      (s.collected c).endHeadersWith handle c := by
    rw [IconServerSession.parseByteWith, hcollect]
    rfl
  rw [hparse, endHeadersWith, scan]
  generalize s.collected c = s' at h'
  by_cases hwait : s'.status = IconState.waitStatusLine
  · rw [if_pos hwait, if_neg (by rw [hwait]; simp)]
    rfl
  · have hreads : s'.status = IconState.retrievingStatusLine ∨
        s'.status = IconState.waitEndOfHeaders := by
      cases hstatus : s'.status with
      | waitStatusLine => exact absurd hstatus hwait
      | retrievingStatusLine => exact Or.inl rfl
      | waitEndOfHeaders => exact Or.inr rfl
    have hnext := h'.next
    rw [if_neg hwait, if_pos hreads, h'.endHeader]
    change (if c = _ then _ else _) = _
    by_cases hmatch : c = Upload.endHeader.getD s'.nextByteToMatch 0
    · rw [if_pos hmatch, if_pos hmatch]
      by_cases hlast : s'.nextByteToMatch = 3
      · rw [if_pos hlast, if_pos (by lia)]
        change Except.bind (handle s'.url) _ = Except.map _ (handle s'.url)
        cases handle s'.url with
        | error fault => rfl
        | ok results => rfl
      · rw [if_neg hlast, if_neg (by lia)]
        rfl
    · rw [if_neg hmatch, if_neg hmatch]
      rfl

theorem InBounds.parseDataWith {s : IconServerSession} (h : InBounds s)
    {handled : CharString -> List result} {data : List UInt8}
    (hhandle : forall line, line ∈ s.requestLines data ->
      handle line = .ok (handled line)) :
    exists s', s.parseDataWith handle data =
      .ok (s', (s.requestLines data).flatMap handled) := by
  induction data generalizing s with
  | nil => exact ⟨s, rfl⟩
  | cons c data ih =>
      rw [requestLines] at hhandle ⊢
      have hnext := (h.parseByte c).left
      rcases ih hnext fun line hline =>
        hhandle line (List.mem_append_right _ hline) with ⟨s', hlater⟩
      have hfirst : ((s.scan c).2.elim (Except.ok []) handle) =
          .ok ((s.scan c).2.toList.flatMap handled) := by
        cases hline : (s.scan c).2 with
        | none => rfl
        | some line =>
            have hmem : line ∈ (s.scan c).2.toList ++
                (s.scan c).1.requestLines data := by
              rw [hline]
              exact List.mem_cons_self
            change handle line = _
            rw [hhandle line hmem, Option.toList_some, List.flatMap_singleton]
      refine ⟨s', ?_⟩
      rw [IconServerSession.parseDataWith, h.parseByteWith, hfirst,
        List.flatMap_append]
      change Except.bind ((s.scan c).1.parseDataWith handle data) _ = _
      rw [hlater]
      rfl

end Handler

end IconServerSession

/-!
## The reference
-/

def getText : List UInt8 := chars "GET "

/-- `"\r\n\r\n"` -/
def headersEnd : List UInt8 := [13, 10, 13, 10]

def isPrintable (c : UInt8) : Bool := 32 ≤ c && c ≤ 126

/--
The line behind `GET `, and what the next search begins with: what is behind
the headers, or behind the character that the line has no room for.
-/
def readRequest (text : List UInt8) :
    Option (List CharString × List UInt8) :=
  let line := (text.take 255).takeWhile isPrintable
  match text.drop line.length with
  | [] => none
  | c :: later =>
      if c = 13 ∨ c = 10 then
        (behindFirst headersEnd (c :: later)).map fun behind =>
          ([line], behind)
      else some ([], later)

def nextRequest (data : List UInt8) :
    Option (List CharString × List UInt8) :=
  (behindFirst getText data).bind readRequest

theorem readRequest_length {text : List UInt8}
    {next : List CharString × List UInt8}
    (h : readRequest text = some next) : next.2.length < text.length := by
  unfold readRequest at h
  dsimp only at h
  have hdrop := List.length_drop
    (i := ((text.take 255).takeWhile isPrintable).length) (l := text)
  split at h
  · cases h
  rename_i c later heq
  rw [heq, List.length_cons] at hdrop
  split at h
  · rcases Option.map_eq_some_iff.mp h with ⟨behind, hbehind, hnext⟩
    cases hnext
    have hle := length_behindFirst hbehind
    have hend : headersEnd.length = 4 := rfl
    rw [List.length_cons] at hle
    dsimp only
    lia
  · cases h
    dsimp only
    lia

theorem nextRequest_length {data : List UInt8}
    {next : List CharString × List UInt8}
    (h : nextRequest data = some next) : next.2.length < data.length := by
  rcases Option.bind_eq_some_iff.mp h with ⟨text, htext, hnext⟩
  have hle := length_behindFirst htext
  have hlt := readRequest_length hnext
  lia

/-- The lines of the requests, one search after the other. -/
def referenceLines (data : List UInt8) : List CharString :=
  match _h : nextRequest data with
  | none => []
  | some next => next.1 ++ referenceLines next.2
termination_by data.length
decreasing_by exact nextRequest_length _h

def withoutVersion (line : CharString) : Option CharString :=
  if httpVersion <:+ line then some (line.take (line.length - 9)) else none

def referenceUrls (data : List UInt8) : List CharString :=
  (referenceLines data).filterMap withoutVersion

/-- What a search finds, and what the searches behind it find. -/
def linesFrom : Option (List CharString × List UInt8) -> List CharString
  | none => []
  | some next => next.1 ++ referenceLines next.2

theorem referenceLines_eq (data : List UInt8) :
    referenceLines data = linesFrom (nextRequest data) := by
  rw [referenceLines]
  split
  · rename_i hnone
    rw [hnone]
    rfl
  · rename_i next hnext
    rw [hnext]
    rfl

theorem takeWhile_line {line : CharString} {c : UInt8} {later : List UInt8}
    (hline : forall x, x ∈ line -> isPrintable x = true)
    (hlength : line.length ≤ 255)
    (hstop : isPrintable c = false ∨ line.length = 255) :
    ((line ++ c :: later).take 255).takeWhile isPrintable = line := by
  rw [List.take_append, List.take_of_length_le hlength,
    List.takeWhile_append_of_pos hline]
  rcases hstop with hother | hfull
  · cases hroom : 255 - line.length with
    | zero => exact List.append_nil line
    | succ room =>
        rw [List.take_succ_cons, List.takeWhile_cons_of_neg]
        · exact List.append_nil line
        · rw [hother]
          exact Bool.false_ne_true
  · rw [hfull]
    exact List.append_nil line

theorem readRequest_unfinished {line : CharString}
    (hline : forall x, x ∈ line -> isPrintable x = true)
    (hlength : line.length ≤ 255) : readRequest line = none := by
  have htake : (line.take 255).takeWhile isPrintable = line := by
    rw [List.take_of_length_le hlength]
    exact List.takeWhile_eq_self_iff.mpr hline
  unfold readRequest
  dsimp only
  rw [htake, List.drop_length]

theorem readRequest_line {line : CharString} {c : UInt8}
    {later : List UInt8}
    (hline : forall x, x ∈ line -> isPrintable x = true)
    (hlength : line.length ≤ 255) (hend : c = 13 ∨ c = 10) :
    readRequest (line ++ c :: later) =
      (behindFirst headersEnd (c :: later)).map fun behind =>
        ([line], behind) := by
  have hother : isPrintable c = false := by
    rcases hend with hc | hc
    · rw [hc]
      rfl
    · rw [hc]
      rfl
  unfold readRequest
  dsimp only
  rw [takeWhile_line hline hlength (Or.inl hother), List.drop_left]
  exact if_pos hend

theorem readRequest_dropped {line : CharString} {c : UInt8}
    {later : List UInt8}
    (hline : forall x, x ∈ line -> isPrintable x = true)
    (hlength : line.length ≤ 255) (hend : ¬(c = 13 ∨ c = 10))
    (hstop : isPrintable c = false ∨ line.length = 255) :
    readRequest (line ++ c :: later) = some ([], later) := by
  unfold readRequest
  dsimp only
  rw [takeWhile_line hline hlength hstop, List.drop_left]
  exact if_neg hend

namespace IconServerSession

/-!
## The states of the session
-/

/-- Some of `GET ` has been matched. -/
def waiting (counter : Nat) : IconServerSession where
  status := IconState.waitStatusLine
  nextByteToMatch := counter
  url := []
  urlLength := 0

def reading (line : CharString) : IconServerSession where
  status := IconState.retrievingStatusLine
  nextByteToMatch := 0
  url := line
  urlLength := UInt8.ofNat line.length

/-- Some of the end of the headers has been matched. -/
def skipping (line : CharString) (counter : Nat) : IconServerSession where
  status := IconState.waitEndOfHeaders
  nextByteToMatch := counter
  url := line
  urlLength := UInt8.ofNat line.length

theorem toNat_length {line : CharString} (h : line.length ≤ 255) :
    (UInt8.ofNat line.length).toNat = line.length := by
  rw [UInt8.toNat_ofNat']
  exact Nat.mod_eq_of_lt (Nat.lt_succ_of_le h)

theorem inBounds_waiting {counter : Nat} (h : counter < 4) :
    InBounds (waiting counter) := ⟨h, rfl⟩

theorem inBounds_reading {line : CharString} (h : line.length ≤ 255) :
    InBounds (reading line) := ⟨Nat.zero_lt_succ 3, (toNat_length h).symm⟩

theorem inBounds_skipping {line : CharString} {counter : Nat}
    (h : line.length ≤ 255) (hcounter : counter < 4) :
    InBounds (skipping line counter) := ⟨hcounter, (toNat_length h).symm⟩

section Scan

variable {line : CharString} {counter : Nat} {c : UInt8}

theorem scan_waiting (hcounter : counter < 3)
    (hc : c = beginUrl.getD counter 0) :
    (waiting counter).scan c = (waiting (counter + 1), none) := by
  have hlast : counter ≠ 3 := Nat.ne_of_lt hcounter
  have hcollected : (waiting counter).collected c = waiting (counter + 1) := by
    change (if c = beginUrl.getD counter 0 then
      if counter = 3 then _ else _ else _) = _
    rw [if_pos hc, if_neg hlast]
    rfl
  rw [scan, hcollected]
  exact if_pos rfl

theorem scan_waiting_last :
    (waiting 3).scan 32 = (reading [], none) := by
  decide

theorem scan_waiting_mismatch (hc : c ≠ beginUrl.getD counter 0) :
    (waiting counter).scan c = (waiting 0, none) := by
  have hcollected : (waiting counter).collected c = waiting 0 := by
    change (if c = beginUrl.getD counter 0 then _ else _) = _
    rw [if_neg hc]
    rfl
  rw [scan, hcollected]
  exact if_pos rfl

theorem scan_reading_lineEnd (hc : c = 13 ∨ c = 10) :
    (reading line).scan c = (skipping line 0).scan c := by
  have hcollected : (reading line).collected c = skipping line 0 := by
    change (if c = 13 ∨ c = 10 then _ else _) = _
    rw [if_pos hc]
    rfl
  rw [scan, hcollected]
  rfl

theorem room_iff (hlength : line.length ≤ 255) :
    (reading line).urlLength < 255 ↔ line.length < 255 := by
  have hmax : (255 : UInt8).toNat = 255 := rfl
  rw [UInt8.lt_iff_toNat_lt, hmax]
  change (UInt8.ofNat line.length).toNat < 255 ↔ _
  rw [toNat_length hlength]

theorem printable_iff : isPrintable c = true ↔ 32 ≤ c ∧ c ≤ 126 := by
  rw [isPrintable, Bool.and_eq_true, decide_eq_true_iff, decide_eq_true_iff]

theorem scan_reading (hc : isPrintable c = true)
    (hlength : line.length < 255) :
    (reading line).scan c = (reading (line ++ [c]), none) := by
  have hprintable := printable_iff.mp hc
  have hend : ¬(c = 13 ∨ c = 10) := by
    rintro (hreturn | hfeed)
    · rw [hreturn] at hc
      cases hc
    · rw [hfeed] at hc
      cases hc
  have hroom : 32 ≤ c ∧ c ≤ 126 ∧ (reading line).urlLength < 255 :=
    ⟨hprintable.left, hprintable.right,
      (room_iff (Nat.le_of_lt hlength)).mpr hlength⟩
  have hcollected : (reading line).collected c = reading (line ++ [c]) := by
    change (if c = 13 ∨ c = 10 then _ else
      if 32 ≤ c ∧ c ≤ 126 ∧ (reading line).urlLength < 255 then _
      else _) = _
    rw [if_neg hend, if_pos hroom]
    rw [reading, reading, List.length_append, List.length_singleton,
      UInt8.ofNat_add]
    rfl
  have hfirst : c ≠ endHeader.getD 0 0 := fun heq => hend (Or.inl heq)
  rw [scan, hcollected]
  change (if c = endHeader.getD 0 0 then _ else _) = _
  rw [if_neg hfirst]
  rfl

theorem scan_reading_dropped (hlength : line.length ≤ 255)
    (hend : ¬(c = 13 ∨ c = 10))
    (hstop : isPrintable c = false ∨ line.length = 255) :
    (reading line).scan c = (waiting 0, none) := by
  have hroom : ¬(32 ≤ c ∧ c ≤ 126 ∧ (reading line).urlLength < 255) := by
    rintro ⟨hlow, hhigh, hfits⟩
    rcases hstop with hother | hfull
    · rw [printable_iff.mpr ⟨hlow, hhigh⟩] at hother
      cases hother
    · have hlt := (room_iff hlength).mp hfits
      lia
  have hcollected : (reading line).collected c = waiting 0 := by
    change (if c = 13 ∨ c = 10 then _ else
      if 32 ≤ c ∧ c ≤ 126 ∧ (reading line).urlLength < 255 then _
      else _) = _
    rw [if_neg hend, if_neg hroom]
    rfl
  rw [scan, hcollected]
  exact if_pos rfl

theorem scan_skipping (hcounter : counter < 3)
    (hc : c = endHeader.getD counter 0) :
    (skipping line counter).scan c =
      (skipping line (counter + 1), none) := by
  have hlast : counter ≠ 3 := Nat.ne_of_lt hcounter
  change (if c = endHeader.getD counter 0 then
    if counter = 3 then _ else _ else _) = _
  rw [if_pos hc, if_neg hlast]
  rfl

theorem scan_skipping_last :
    (skipping line 3).scan 10 = (waiting 0, some line) := by
  rfl

theorem scan_skipping_mismatch (hc : c ≠ endHeader.getD counter 0) :
    (skipping line counter).scan c = (skipping line 0, none) := by
  change (if c = endHeader.getD counter 0 then _ else _) = _
  rw [if_neg hc]
  rfl

end Scan

/-!
## Where the counter starts over
-/

/-- The counter starts over at a byte that could begin a match. -/
def StartsOver (s : IconServerSession) (c : UInt8) : Prop :=
  s.status = IconState.waitStatusLine ∧ c = 71 ∧
      c ≠ beginUrl.getD s.nextByteToMatch 0 ∨
    s.status = IconState.waitEndOfHeaders ∧ c = 13 ∧
      c ≠ endHeader.getD s.nextByteToMatch 0

/-- The headers end behind a line that is shorter than the version. -/
def EndsShort (s : IconServerSession) (c : UInt8) : Prop :=
  s.status = IconState.waitEndOfHeaders ∧ s.nextByteToMatch = 3 ∧ c = 10 ∧
    s.url.length < httpVersion.length

def Misreads (s : IconServerSession) (c : UInt8) : Prop :=
  s.StartsOver c ∨ s.EndsShort c

instance (s : IconServerSession) (c : UInt8) : Decidable (s.Misreads c) :=
  inferInstanceAs (Decidable (((_ ∧ _ ∧ _) ∨ (_ ∧ _ ∧ _)) ∨ _ ∧ _ ∧ _ ∧ _))

/-- A byte is parsed without an exception. -/
def step (s : IconServerSession) (c : UInt8) (s' : IconServerSession) :
    Prop :=
  exists replies, s.parseByte c = .ok (s', replies)

theorem onlyFirstRestarts_getText : OnlyFirstRestarts getText := by
  unfold OnlyFirstRestarts
  decide

theorem onlyFirstRestarts_headersEnd : OnlyFirstRestarts headersEnd := by
  unfold OnlyFirstRestarts
  decide

theorem getText_getElem? {counter : Nat} (h : counter < 4) :
    getText[counter]? = some (beginUrl.getD counter 0) := by
  have hall : forall i, i < 4 ->
      getText[i]? = some (beginUrl.getD i 0) := by decide
  exact hall counter h

theorem headersEnd_getElem? {counter : Nat} (h : counter < 4) :
    headersEnd[counter]? = some (endHeader.getD counter 0) := by
  have hall : forall i, i < 4 ->
      headersEnd[i]? = some (endHeader.getD i 0) := by decide
  exact hall counter h

/-- These lines are found, and none of them is too short. -/
def Finds (s : IconServerSession) (data : List UInt8)
    (lines : List CharString) : Prop :=
  s.requestLines data = lines ∧
    forall line, line ∈ lines -> httpVersion.length ≤ line.length

section Steps

variable {s s' : IconServerSession} {c : UInt8} {data : List UInt8}
  {line : CharString} {lines : List CharString}

theorem Finds.later (h : Finds s' data lines)
    (hscan : s.scan c = (s', none)) : Finds s (c :: data) lines := by
  refine ⟨?_, h.right⟩
  rw [requestLines, hscan]
  exact h.left

theorem Finds.found (h : Finds s' data lines)
    (hscan : s.scan c = (s', some line))
    (hlong : httpVersion.length ≤ line.length) :
    Finds s (c :: data) (line :: lines) := by
  constructor
  · rw [requestLines, hscan, h.left]
    rfl
  · intro other hother
    rcases List.mem_cons.mp hother with hfirst | hlater
    · rw [hfirst]
      exact hlong
    · exact h.right other hlater

theorem InBounds.step_of_scan (h : InBounds s)
    (hscan : s.scan c = (s', none)) : step s c s' := by
  have hparse := (h.parseByte c).right.right
  rw [hscan] at hparse
  exact ⟨[], hparse⟩

theorem InBounds.step_of_line (h : InBounds s)
    (hscan : s.scan c = (s', some line))
    (hlong : httpVersion.length ≤ line.length) : step s c s' := by
  rcases h.parseByte c with ⟨-, hsize, hparse⟩
  rw [hscan] at hsize hparse
  rcases (answer_ok_iff (hsize line rfl)).mpr hlong with ⟨replies, hreplies⟩
  refine ⟨replies, ?_⟩
  rw [hparse]
  change Except.map _ (answer line) = _
  rw [hreplies]
  rfl

end Steps

/-- From each of its states the session finds what the reference does. -/
structure FollowsReference (data : List UInt8) : Prop where
  waiting : forall counter, counter < 4 ->
    Avoids step (waiting counter) Misreads data ->
      Finds (waiting counter) data
        (referenceLines (getText.take counter ++ data))
  reading : forall line, (forall x, x ∈ line -> isPrintable x = true) ->
    line.length ≤ 255 -> Avoids step (reading line) Misreads data ->
      Finds (reading line) data (linesFrom (readRequest (line ++ data)))
  skipping : forall line counter, counter < 4 -> line.length ≤ 255 ->
    Avoids step (skipping line counter) Misreads data ->
      Finds (skipping line counter) data
        (linesFrom ((behindFirst headersEnd
          (headersEnd.take counter ++ data)).map fun behind =>
            ([line], behind)))

theorem getText_length : getText.length = 4 := by decide

theorem followsReference_nil : FollowsReference [] where
  waiting counter hcounter _ := by
    have hshort : (getText.take counter ++ []).length < getText.length := by
      rw [List.append_nil, List.length_take, getText_length]
      lia
    refine ⟨?_, ?_⟩
    · rw [referenceLines_eq, nextRequest, behindFirst_short hshort]
      rfl
    · rw [referenceLines_eq, nextRequest, behindFirst_short hshort]
      exact fun line hline => absurd hline List.not_mem_nil
  reading line hline hlength _ := by
    rw [List.append_nil, readRequest_unfinished hline hlength]
    exact ⟨rfl, fun line hline => absurd hline List.not_mem_nil⟩
  skipping line counter hcounter hlength _ := by
    have hshort : (headersEnd.take counter ++ []).length <
        headersEnd.length := by
      have hend : headersEnd.length = 4 := rfl
      rw [List.append_nil, List.length_take, hend]
      lia
    rw [behindFirst_short hshort]
    exact ⟨rfl, fun line hline => absurd hline List.not_mem_nil⟩

theorem FollowsReference.waiting_cons {data : List UInt8}
    (h : FollowsReference data) (c : UInt8) {counter : Nat}
    (hcounter : counter < 4)
    (havoids : Avoids step (IconServerSession.waiting counter) Misreads
      (c :: data)) :
    Finds (IconServerSession.waiting counter) (c :: data)
      (referenceLines (getText.take counter ++ c :: data)) := by
  have hin := inBounds_waiting hcounter
  have hget := getText_getElem? hcounter
  by_cases hc : c = beginUrl.getD counter 0
  · have hdue : getText[counter]? = some c := by
      rw [hget, hc]
    rw [take_append_continue hdue]
    by_cases hlast : counter = 3
    · subst hlast
      have hspace : c = 32 := hc
      subst hspace
      have hall : getText.take (3 + 1) = getText := by decide
      have hrest := h.reading [] (fun x hx => absurd hx List.not_mem_nil)
        (Nat.zero_le _) (havoids.tail (hin.step_of_scan scan_waiting_last))
      rw [hall, referenceLines_eq, nextRequest, behindFirst_occurrence]
      exact hrest.later scan_waiting_last
    · have hscan := scan_waiting (by lia) hc
      have hrest := h.waiting (counter + 1) (by lia)
        (havoids.tail (hin.step_of_scan hscan))
      exact hrest.later hscan
  · have hscan := scan_waiting_mismatch hc
    have hfirst : c ≠ 71 := fun heq =>
      havoids.head (Or.inl (Or.inl ⟨rfl, heq, hc⟩))
    have hloses : LosesNothing getText counter c := by
      apply onlyFirstRestarts_getText.losesNothing hcounter
      · rw [hget]
        exact fun heq => hc (Option.some.inj heq).symm
      · exact fun heq => hfirst (Option.some.inj heq).symm
    have hrest := h.waiting 0 (Nat.zero_lt_succ 3)
      (havoids.tail (hin.step_of_scan hscan))
    rw [referenceLines_eq, nextRequest,
      behindFirst_giveUp hcounter hloses, ← nextRequest,
      ← referenceLines_eq]
    exact hrest.later hscan

/-- Behind the line the end of the headers is looked for. -/
theorem FollowsReference.skipping_cons {data : List UInt8}
    (h : FollowsReference data) {c : UInt8} {line : CharString}
    {counter : Nat} (hcounter : counter < 4) (hlength : line.length ≤ 255)
    {s : IconServerSession} (hin : InBounds s)
    (hsame : s.scan c = (IconServerSession.skipping line counter).scan c)
    (hreads : ¬(IconServerSession.skipping line counter).Misreads c)
    (hlater : forall s', step s c s' -> Avoids step s' Misreads data) :
    Finds s (c :: data)
      (linesFrom ((behindFirst headersEnd
        (headersEnd.take counter ++ c :: data)).map fun behind =>
          ([line], behind))) := by
  have hend := headersEnd_getElem? hcounter
  by_cases hc : c = endHeader.getD counter 0
  · have hdue : headersEnd[counter]? = some c := by
      rw [hend, hc]
    rw [take_append_continue hdue]
    by_cases hlast : counter = 3
    · subst hlast
      have hfeed : c = 10 := hc
      subst hfeed
      have hlong : httpVersion.length ≤ line.length := by
        apply Nat.not_lt.mp
        intro hshort
        exact hreads (Or.inr ⟨rfl, rfl, rfl, hshort⟩)
      have hscan := hsame.trans scan_skipping_last
      have hall : headersEnd.take (3 + 1) = headersEnd := rfl
      have hrest := h.waiting 0 (Nat.zero_lt_succ 3)
        (hlater _ (hin.step_of_line hscan hlong))
      rw [hall, behindFirst_occurrence]
      exact hrest.found hscan hlong
    · have hscan := hsame.trans (scan_skipping (by lia) hc)
      have hrest := h.skipping line (counter + 1) (by lia) hlength
        (hlater _ (hin.step_of_scan hscan))
      exact hrest.later hscan
  · have hscan := hsame.trans (scan_skipping_mismatch hc)
    have hfirst : c ≠ 13 := fun heq => hreads (Or.inl (Or.inr ⟨rfl, heq, hc⟩))
    have hloses : LosesNothing headersEnd counter c := by
      apply onlyFirstRestarts_headersEnd.losesNothing hcounter
      · rw [hend]
        exact fun heq => hc (Option.some.inj heq).symm
      · exact fun heq => hfirst (Option.some.inj heq).symm
    have hrest := h.skipping line 0 (Nat.zero_lt_succ 3) hlength
      (hlater _ (hin.step_of_scan hscan))
    rw [behindFirst_giveUp hcounter hloses]
    exact hrest.later hscan

theorem FollowsReference.reading_cons {data : List UInt8}
    (h : FollowsReference data) (c : UInt8) {line : CharString}
    (hline : forall x, x ∈ line -> isPrintable x = true)
    (hlength : line.length ≤ 255)
    (havoids : Avoids step (IconServerSession.reading line) Misreads
      (c :: data)) :
    Finds (IconServerSession.reading line) (c :: data)
      (linesFrom (readRequest (line ++ c :: data))) := by
  have hin := inBounds_reading hlength
  by_cases hend : c = 13 ∨ c = 10
  · have hreads : ¬(IconServerSession.skipping line 0).Misreads c := by
      rintro ((⟨hwaits, -⟩ | ⟨-, hreturn, hother⟩) | ⟨-, hthree, -⟩)
      · cases hwaits
      · exact hother hreturn
      · cases hthree
    rw [readRequest_line hline hlength hend]
    exact h.skipping_cons (Nat.zero_lt_succ 3) hlength hin
      (scan_reading_lineEnd hend) hreads fun _ hstep => havoids.tail hstep
  by_cases hfits : isPrintable c = true ∧ line.length < 255
  · have hscan := scan_reading hfits.left hfits.right
    have hmore : forall x, x ∈ line ++ [c] -> isPrintable x = true := by
      intro x hx
      rcases List.mem_append.mp hx with hbefore | hlast
      · exact hline x hbefore
      · rw [List.mem_singleton.mp hlast]
        exact hfits.left
    have hroom : (line ++ [c]).length ≤ 255 := by
      rw [List.length_append, List.length_singleton]
      lia
    have hrest := h.reading (line ++ [c]) hmore hroom
      (havoids.tail (hin.step_of_scan hscan))
    rw [List.append_cons]
    exact hrest.later hscan
  · have hstop : isPrintable c = false ∨ line.length = 255 := by
      cases hprintable : isPrintable c with
      | false => exact Or.inl rfl
      | true =>
          apply Or.inr
          have hfull : ¬line.length < 255 := fun hroom =>
            hfits ⟨hprintable, hroom⟩
          lia
    have hscan := scan_reading_dropped hlength hend hstop
    have hrest := h.waiting 0 (Nat.zero_lt_succ 3)
      (havoids.tail (hin.step_of_scan hscan))
    rw [readRequest_dropped hline hlength hend hstop]
    exact hrest.later hscan

theorem followsReference (data : List UInt8) : FollowsReference data := by
  induction data with
  | nil => exact followsReference_nil
  | cons c data ih =>
      constructor
      · intro counter hcounter havoids
        exact ih.waiting_cons c hcounter havoids
      · intro line hline hlength havoids
        exact ih.reading_cons c hline hlength havoids
      · intro line counter hcounter hlength havoids
        exact ih.skipping_cons hcounter hlength
          (inBounds_skipping hlength hcounter) rfl havoids.head
          fun _ hstep => havoids.tail hstep

theorem passedUrl_eq {line : CharString} (hshort : line.length < 2 ^ 64)
    (hlong : httpVersion.length ≤ line.length) :
    passedUrl line = .ok (withoutVersion line).toList := by
  rw [httpVersion_length] at hlong
  have hbegin : subSize line.length 9 = line.length - 9 := by
    rw [subSize]
    lia
  have hsuffix : line.drop (line.length - 9) = httpVersion ↔
      httpVersion <:+ line := by
    rw [List.suffix_iff_eq_drop, httpVersion_length]
    exact eq_comm
  have hcompare : CppString.compare line (line.length - 9) httpVersion =
      .ok (decide (httpVersion <:+ line)) := by
    rw [CppString.compare, if_neg (by lia)]
    exact congrArg Except.ok (decide_eq_decide.mpr hsuffix)
  have hat : forall begin, begin = line.length - 9 ->
      (do
        let same <- CppString.compare line begin httpVersion
        pure (if same then [line.take begin] else [])) =
      Except.ok (withoutVersion line).toList := by
    intro begin heq
    rw [heq, hcompare, withoutVersion]
    by_cases hversion : httpVersion <:+ line
    · rw [if_pos hversion, decide_eq_true hversion]
      rfl
    · rw [if_neg hversion, decide_eq_false hversion]
      rfl
  exact hat (subSize line.length 9) hbegin

/-- Nothing is thrown, and these urls are passed to `parseUrl`. -/
def Passes (chunks : List (List UInt8)) (urls : List CharString) : Prop :=
  exists s, create.receiveWith passedUrl chunks = .ok (s, urls)

def RecognisesExactly (chunks : List (List UInt8)) : Prop :=
  Passes chunks (referenceUrls chunks.flatten)

/--
Whatever chunks a stream is cut into, the urls are those of the reference, if
the counter nowhere starts over at a byte that could begin a match, and no
headers end behind a line that is too short.
-/
theorem recognisesExactly_of_avoids {chunks : List (List UInt8)}
    (havoids : Avoids step create Misreads chunks.flatten) :
    RecognisesExactly chunks := by
  have hfinds := (followsReference chunks.flatten).waiting 0
    (Nat.zero_lt_succ 3) havoids
  have hlines : create.requestLines chunks.flatten =
      referenceLines chunks.flatten := hfinds.left
  have hpassed : forall line,
      line ∈ create.requestLines chunks.flatten ->
        passedUrl line = .ok (withoutVersion line).toList := by
    intro line hline
    apply passedUrl_eq
    · have hle := inBounds_create.requestLines_short _ line hline
      lia
    · apply hfinds.right
      rw [hlines] at hline
      exact hline
  rcases inBounds_create.parseDataWith passedUrl hpassed with ⟨s, hdata⟩
  refine ⟨s, ?_⟩
  rw [receiveWith_eq, hdata, hlines, referenceUrls,
    List.filterMap_eq_flatMap_toList]

/-- Whether no byte of a stream is misread. -/
def readsAll (s : IconServerSession) : List UInt8 -> Bool
  | [] => true
  | c :: data => !decide (s.Misreads c) && readsAll (s.scan c).1 data

theorem InBounds.avoids_of_readsAll {s : IconServerSession}
    (h : InBounds s) {data : List UInt8} (hall : s.readsAll data = true) :
    Avoids step s Misreads data := by
  induction data generalizing s with
  | nil =>
      intro before c after mid heq
      exact absurd heq (by simp)
  | cons c data ih =>
      rw [readsAll, Bool.and_eq_true, Bool.not_eq_true',
        decide_eq_false_iff_not] at hall
      apply Avoids.cons hall.left
      rintro s' ⟨replies, hreplies⟩
      rcases h.parseByte c with ⟨hnext, -, hparse⟩
      have hsame : s' = (s.scan c).1 := by
        rw [hparse] at hreplies
        cases hline : (s.scan c).2 with
        | none =>
            rw [hline] at hreplies
            cases hreplies
            rfl
        | some line =>
            rw [hline] at hreplies
            change Except.map _ (answer line) = _ at hreplies
            cases hanswer : answer line with
            | error fault =>
                rw [hanswer] at hreplies
                cases hreplies
            | ok first =>
                rw [hanswer] at hreplies
                cases hreplies
                rfl
      rw [hsame]
      exact ih hnext hall.right

/-- `GET /a HTTP/1.1` -/
def slashA : List UInt8 := chars "GET /a HTTP/1.1" ++ headersEnd

theorem recognisesExactly_slashA :
    RecognisesExactly [slashA.take 5, slashA.drop 5] := by
  apply recognisesExactly_of_avoids
  apply inBounds_create.avoids_of_readsAll
  decide +kernel

/-- A `G` in front of the request keeps it from being found. -/
theorem not_recognisesExactly_twice :
    ¬RecognisesExactly [71 :: slashA] := by
  rintro ⟨s, hpasses⟩
  have hnone : create.receiveWith passedUrl [71 :: slashA] =
      .ok (create, []) := by decide +kernel
  have hfinds : referenceUrls [71 :: slashA].flatten = [chars "/a"] := by
    decide +kernel
  rw [hnone, hfinds] at hpasses
  cases hpasses

end IconServerSession

end Upload
end Rzu
