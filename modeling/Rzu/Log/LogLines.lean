import Rzu.Library.Run
import Rzu.Library.Terminated
import Rzu.Log.LogDecoding
import Rzu.Upload.UploadServer

/-!
# The lines of a log

The session of a game server that logs: it takes the name of the server from
one of its packets, opens a file for every hour, and formats each packet into
a line.  The name of the file and the line are written to arrays of a fixed
size.
-/

namespace Rzu
namespace Log

open Auth (CharString)
open Library
open Upload (TimeInfo chars zeroPadded length_zeroPadded)

/-- `SQL_TIMESTAMP_STRUCT`, without the fraction, which no line has. -/
structure LogDate where
  year : Int16
  month : UInt16
  day : UInt16
  hour : UInt16
  minute : UInt16
  second : UInt16
deriving DecidableEq

def LogDate.ofTime (date : TimeInfo) : LogDate where
  year := Int16.ofInt date.tmYear
  month := UInt16.ofInt date.tmMon
  day := UInt16.ofInt date.tmMday
  hour := UInt16.ofInt date.tmHour
  minute := UInt16.ofInt date.tmMin
  second := UInt16.ofInt date.tmSec

structure FileDate where
  year : UInt16
  month : UInt8
  day : UInt8
  hour : UInt8
deriving DecidableEq

def FileDate.ofTime (date : TimeInfo) : FileDate where
  year := UInt16.ofInt date.tmYear
  month := UInt8.ofInt date.tmMon
  day := UInt8.ofInt date.tmMday
  hour := UInt8.ofInt date.tmHour

/-- `"%s_%04d-%02d-%02d %02d.txt"` -/
def logFilename (serverName : CharString) (fileDate : FileDate) :
    CharString :=
  serverName ++ chars "_" ++ zeroPadded 4 fileDate.year.toNat ++ chars "-" ++
    zeroPadded 2 fileDate.month.toNat ++ chars "-" ++
    zeroPadded 2 fileDate.day.toNat ++ chars " " ++
    zeroPadded 2 fileDate.hour.toNat ++ chars ".txt"

/-- `"%04d-%02d-%02d %02d:%02d:%02d.%03d\t"` -/
def dateText (date : LogDate) (msec : Nat) : CharString :=
  zeroPadded 4 date.year.toInt ++ chars "-" ++
    zeroPadded 2 date.month.toNat ++ chars "-" ++
    zeroPadded 2 date.day.toNat ++ chars " " ++
    zeroPadded 2 date.hour.toNat ++ chars ":" ++
    zeroPadded 2 date.minute.toNat ++ chars ":" ++
    zeroPadded 2 date.second.toNat ++ chars "." ++
    zeroPadded 3 msec ++ chars "\t"

/-- `"%d\t"`, once for each number. -/
def numbersText (numbers : List Int) : CharString :=
  numbers.flatMap fun number => zeroPadded 0 number ++ chars "\t"

/-- The numbers of a line; `%d` reads the thread as a signed number. -/
def LogData.numbers (data : LogData) : List Int :=
  data.threadId.toInt32.toInt :: (data.id.toNat : Int) ::
    data.n.toList.map Int64.toInt

/-- What `sprintf` makes of a packet, without the terminating zero. -/
def lineText (date : LogDate) (msec : Nat) (data : LogData) : CharString :=
  dateText date msec ++ numbersText data.numbers ++ data.s1 ++ chars "\t" ++
    data.s2 ++ chars "\t" ++ data.s3 ++ chars "\t" ++ data.s4 ++ chars "\n"

/-- `sizeof(filename)` -/
def filenameSize : Nat := 512

/-- `sizeof(lineBuffer)` -/
def lineBufferSize : Nat := 20 + 20 * 13 + 255 * 4 + 18

namespace Message

def stringStart (message : Message) : Nat -> Int
  | 0 => fixedSize
  | i + 1 => message.stringStart i + message.len i

/--
The addresses that `std::find` looks at, up to the first zero; the copy reads
them again.
-/
def addressesRead (message : Message) (outside : Int -> UInt8) (i : Nat) :
    List Int :=
  ((List.range (message.len i).toNat).map fun k : Nat =>
    message.stringStart i + (k : Int)).take
      ((message.stringAt outside (message.stringStart i)
        (message.len i)).length + 1)

/-- `packet->size` -/
def size (message : Message) : Int :=
  ((MiniHeader.ofBytes message).size.toNat : Int)

end Message

/-- `ClientSession` of the log server. -/
structure ClientSession where
  /-- Whether a file is open. -/
  file : Bool
  serverName : CharString
  fileDate : FileDate
deriving DecidableEq

/-- What a packet meets: the clock, the file system, the memory around it. -/
structure PacketEvent where
  message : Message
  outside : Int -> UInt8
  date : TimeInfo
  timemsec : UInt64
  opens : Bool

structure Handled where
  session : ClientSession
  reads : List Int
  filename : Option CharString
  line : Option CharString

namespace ClientSession

def create : ClientSession where
  file := false
  serverName := []
  fileDate := { year := 0, month := 0, day := 0, hour := 0 }

def isDateNeedNewFile (s : ClientSession) (date : TimeInfo) : Bool :=
  !(date.tmYear == s.fileDate.year.toNat &&
    date.tmMon == s.fileDate.month.toNat &&
    date.tmMday == s.fileDate.day.toNat &&
    date.tmHour == s.fileDate.hour.toNat)

def checkName (name : CharString) : Bool :=
  name.all fun c =>
    (48 ≤ c && c ≤ 57) || (65 ≤ c && c ≤ 90) || (97 ≤ c && c ≤ 122) ||
      c == 95 || c == 46

/-- Whether the name of a file is made up. -/
def needsFile (s : ClientSession) (date : TimeInfo) : Bool :=
  !s.serverName.isEmpty && (!s.file || s.isDateNeedNewFile date)

def updateOpenedFile (s : ClientSession) (date : TimeInfo) (opens : Bool) :
    ClientSession × Option CharString :=
  if s.needsFile date then
    ({ file := opens
       serverName := s.serverName
       fileDate := FileDate.ofTime date },
      some (logFilename s.serverName (FileDate.ofTime date)))
  else (s, none)

/-- A packet whose id is 101 names the server. -/
def login (s : ClientSession) (data : LogData) : ClientSession :=
  if data.id = 101 then
    if !s.serverName.isEmpty then s
    else if !checkName data.s4 then s
    else { s with serverName := data.s4 }
  else s

/-- `onPacketReceived` -/
def onPacketReceived (s : ClientSession) (event : PacketEvent) : Handled :=
  match event.message.decode event.outside with
  | none =>
      { session := s
        reads := []
        filename := none
        line := none }
  | some data =>
      let updated := (s.login data).updateOpenedFile event.date event.opens
      { session := updated.1
        reads := (List.range 4).flatMap
          (event.message.addressesRead event.outside)
        filename := updated.2
        line :=
          if updated.1.file then
            some (lineText (LogDate.ofTime event.date)
              (event.timemsec.toNat % 1000) data)
          else none }

def step (s : ClientSession) (event : PacketEvent) (s' : ClientSession) :
    Prop :=
  (s.onPacketReceived event).session = s'

end ClientSession

/-- Text and its terminating zero fit an array. -/
def FitsArray (text : Option CharString) (size : Nat) : Prop :=
  forall written, text = some written -> written.length + 1 ≤ size

/-- Nothing that a packet leads to leaves the array or the packet it is in. -/
structure Handled.Fits (handled : Handled) (message : Message) : Prop where
  reads : forall address, address ∈ handled.reads ->
    0 ≤ address ∧ address < message.size
  filename : FitsArray handled.filename filenameSize
  line : FitsArray handled.line lineBufferSize

/-!
## When it does not fit
-/

/--
A string leaves the packet if it begins outside of it, or is longer than what
is left of it and no zero is left.
-/
def Message.StringLeaves (message : Message) (outside : Int -> UInt8)
    (i : Nat) : Prop :=
  0 < message.len i ∧
    (message.stringStart i < 0 ∨ message.size ≤ message.stringStart i ∨
      message.size < message.stringStart i + message.len i ∧
        forall address, message.stringStart i ≤ address ->
          address < message.size -> message.memoryAt outside address ≠ 0)

def filenameLength (serverName : CharString) (fileDate : FileDate) : Nat :=
  serverName.length + max 4 (digitCount fileDate.year.toNat) +
    max 2 (digitCount fileDate.month.toNat) +
    max 2 (digitCount fileDate.day.toNat) +
    max 2 (digitCount fileDate.hour.toNat) + 8

def dateLength (date : LogDate) (msec : Nat) : Nat :=
  max 4 (signedDigitCount date.year.toInt) +
    max 2 (digitCount date.month.toNat) + max 2 (digitCount date.day.toNat) +
    max 2 (digitCount date.hour.toNat) +
    max 2 (digitCount date.minute.toNat) +
    max 2 (digitCount date.second.toNat) + max 3 (digitCount msec) + 7

def lineLength (date : LogDate) (msec : Nat) (data : LogData) : Nat :=
  dateLength date msec + (data.numbers.map signedDigitCount).sum +
    data.s1.length + data.s2.length + data.s3.length + data.s4.length + 17

namespace ClientSession

/--
An accepted packet overflows if one of its strings leaves it, if the name of
the server is too long for the name of a file, or if a file is open and the
line is too long.
-/
def Overflows (s : ClientSession) (event : PacketEvent) : Prop :=
  exists data, event.message.decode event.outside = some data ∧
    ((exists i, i < 4 ∧ event.message.StringLeaves event.outside i) ∨
      (s.login data).needsFile event.date = true ∧
        filenameSize ≤ filenameLength (s.login data).serverName
          (FileDate.ofTime event.date) ∨
      ((s.login data).updateOpenedFile event.date event.opens).1.file =
          true ∧
        lineBufferSize ≤ lineLength (LogDate.ofTime event.date)
          (event.timemsec.toNat % 1000) data)

end ClientSession

/-!
## How long the texts are
-/

theorem logFilename_length (serverName : CharString) (fileDate : FileDate) :
    (logFilename serverName fileDate).length =
      filenameLength serverName fileDate := by
  have hunderscore : (chars "_").length = 1 := rfl
  have hdash : (chars "-").length = 1 := rfl
  have hspace : (chars " ").length = 1 := rfl
  have htxt : (chars ".txt").length = 4 := rfl
  simp only [logFilename, filenameLength, List.length_append,
    length_zeroPadded, signedDigitCount_natCast, hunderscore, hdash, hspace,
    htxt]
  lia

theorem dateText_length (date : LogDate) (msec : Nat) :
    (dateText date msec).length = dateLength date msec := by
  have hdash : (chars "-").length = 1 := rfl
  have hspace : (chars " ").length = 1 := rfl
  have hcolon : (chars ":").length = 1 := rfl
  have hdot : (chars ".").length = 1 := rfl
  have htab : (chars "\t").length = 1 := rfl
  simp only [dateText, dateLength, List.length_append, length_zeroPadded,
    signedDigitCount_natCast, hdash, hspace, hcolon, hdot, htab]
  lia

theorem numbersText_length (numbers : List Int) :
    (numbersText numbers).length =
      (numbers.map signedDigitCount).sum + numbers.length := by
  have htab : (chars "\t").length = 1 := rfl
  induction numbers with
  | nil => rfl
  | cons number numbers ih =>
      rw [numbersText] at ih
      rw [numbersText, List.flatMap_cons, List.length_append, ih,
        List.length_append, length_zeroPadded, htab, List.map_cons,
        List.sum_cons, List.length_cons]
      lia

theorem numbers_length (data : LogData) : data.numbers.length = 13 := by
  rw [LogData.numbers, List.length_cons, List.length_cons, List.length_map,
    Vector.length_toList]

theorem lineText_length (date : LogDate) (msec : Nat) (data : LogData) :
    (lineText date msec data).length = lineLength date msec data := by
  have htab : (chars "\t").length = 1 := rfl
  have hend : (chars "\n").length = 1 := rfl
  simp only [lineText, lineLength, List.length_append, dateText_length,
    numbersText_length, numbers_length, htab, hend]
  lia

theorem fitsArray_some_iff (text : CharString) (size : Nat) :
    FitsArray (some text) size ↔ ¬size ≤ text.length := by
  rw [FitsArray, Nat.not_le]
  constructor
  · intro h
    exact h text rfl
  · intro h written heq
    cases heq
    exact h

theorem fitsArray_none (size : Nat) : FitsArray none size := by
  intro written heq
  cases heq

/-!
## Where the strings are read
-/

namespace Message

variable {message : Message} {outside : Int -> UInt8} {i : Nat}

theorem mem_addressesRead_iff (address : Int) :
    address ∈ message.addressesRead outside i ↔
      exists k : Nat, address = message.stringStart i + (k : Int) ∧
        k < (message.len i).toNat ∧
        k ≤ (message.stringAt outside (message.stringStart i)
          (message.len i)).length := by
  rw [addressesRead, ← List.map_take, List.take_range, List.mem_map]
  constructor
  · rintro ⟨k, hk, rfl⟩
    rw [List.mem_range] at hk
    exact ⟨k, rfl, by lia, by lia⟩
  · rintro ⟨k, rfl, hlen, hstop⟩
    refine ⟨k, ?_, rfl⟩
    rw [List.mem_range]
    lia

theorem stringStart_mem (hlen : 0 < message.len i) :
    message.stringStart i ∈ message.addressesRead outside i := by
  rw [mem_addressesRead_iff]
  exact ⟨0, by lia, by lia, Nat.zero_le _⟩

theorem size_mem (hstart : message.stringStart i < message.size)
    (hlong : message.size < message.stringStart i + message.len i)
    (hnone : forall address, message.stringStart i ≤ address ->
      address < message.size -> message.memoryAt outside address ≠ 0) :
    message.size ∈ message.addressesRead outside i := by
  rw [mem_addressesRead_iff]
  refine ⟨(message.size - message.stringStart i).toNat, by lia, by lia, ?_⟩
  rw [stringAt]
  apply le_takeWhile_range_length (by lia)
  intro k hk
  exact hnone _ (by lia) (by lia)

theorem reads_inside_iff :
    (forall address, address ∈ message.addressesRead outside i ->
      0 ≤ address ∧ address < message.size) ↔
      ¬message.StringLeaves outside i := by
  constructor
  · intro hinside hleaves
    rcases hleaves with ⟨hlen, hwhere⟩
    have hstart := hinside _ (stringStart_mem hlen)
    rcases hwhere with hbefore | hbehind | ⟨hlong, hnone⟩
    · lia
    · lia
    · have hend := hinside _ (size_mem hstart.right hlong hnone)
      lia
  · intro hkeeps address hread
    rw [mem_addressesRead_iff] at hread
    rcases hread with ⟨k, rfl, hk, hstop⟩
    have hwhere : ¬(message.stringStart i < 0 ∨
        message.size ≤ message.stringStart i ∨
        message.size < message.stringStart i + message.len i ∧
          forall address, message.stringStart i ≤ address ->
            address < message.size -> message.memoryAt outside address ≠ 0) :=
      fun hwhere => hkeeps ⟨by lia, hwhere⟩
    rw [not_or, not_or, not_and_or] at hwhere
    rcases hwhere with ⟨hbefore, hbehind, hshort | hzero⟩
    · exact ⟨by lia, by lia⟩
    · push Not at hzero
      rcases hzero with ⟨address, hfrom, hto, hzero⟩
      refine ⟨by lia, ?_⟩
      -- A zero further on than the string is long stops nothing.
      by_cases hlast : address < message.stringStart i + message.len i
      · have hle : (message.stringAt outside (message.stringStart i)
            (message.len i)).length ≤
              (address - message.stringStart i).toNat := by
          rw [stringAt]
          apply takeWhile_range_length_le (by lia)
          have haddress : message.stringStart i +
              ((address - message.stringStart i).toNat : Int) = address := by
            lia
          rw [haddress]
          exact hzero
        lia
      · lia

end Message

namespace ClientSession

variable {s : ClientSession} {event : PacketEvent}

theorem reads_iff :
    (forall address, address ∈ (List.range 4).flatMap
        (event.message.addressesRead event.outside) ->
      0 ≤ address ∧ address < event.message.size) ↔
      ¬exists i, i < 4 ∧ event.message.StringLeaves event.outside i := by
  constructor
  · rintro hinside ⟨i, hi, hleaves⟩
    apply Message.reads_inside_iff.mp _ hleaves
    intro address hread
    apply hinside
    rw [List.mem_flatMap]
    exact ⟨i, List.mem_range.mpr hi, hread⟩
  · intro hkeeps address hread
    rcases List.mem_flatMap.mp hread with ⟨i, hi, hread⟩
    apply Message.reads_inside_iff.mpr _ address hread
    intro hleaves
    exact hkeeps ⟨i, List.mem_range.mp hi, hleaves⟩

theorem filename_iff (date : TimeInfo) (opens : Bool) :
    FitsArray (s.updateOpenedFile date opens).2 filenameSize ↔
      ¬(s.needsFile date = true ∧
        filenameSize ≤
          filenameLength s.serverName (FileDate.ofTime date)) := by
  rw [updateOpenedFile]
  split
  · rename_i hneeds
    rw [fitsArray_some_iff, logFilename_length]
    simp only [hneeds, true_and]
  · rename_i hneeds
    simp only [fitsArray_none, hneeds, Bool.false_eq_true, false_and,
      not_false_eq_true]

theorem line_iff (file : Bool) (date : LogDate) (msec : Nat)
    (data : LogData) :
    FitsArray (if file then some (lineText date msec data) else none)
        lineBufferSize ↔
      ¬(file = true ∧ lineBufferSize ≤ lineLength date msec data) := by
  cases file with
  | false =>
      simp only [fitsArray_none, Bool.false_eq_true, if_false, false_and,
        not_false_eq_true]
  | true =>
      rw [if_pos rfl, fitsArray_some_iff, lineText_length]
      simp only [true_and]

theorem handled_iff (s : ClientSession) (event : PacketEvent) :
    (s.onPacketReceived event).Fits event.message ↔ ¬s.Overflows event := by
  cases hdecode : event.message.decode event.outside with
  | none =>
      have hkeeps : ¬s.Overflows event := by
        rintro ⟨data, hdata, -⟩
        rw [hdecode] at hdata
        cases hdata
      refine ⟨fun _ => hkeeps, fun _ => ?_⟩
      rw [onPacketReceived, hdecode]
      exact
        { reads := fun address hread => absurd hread List.not_mem_nil
          filename := fitsArray_none _
          line := fitsArray_none _ }
  | some data =>
      have hoverflows : s.Overflows event ↔
          (exists i, i < 4 ∧ event.message.StringLeaves event.outside i) ∨
            (s.login data).needsFile event.date = true ∧
              filenameSize ≤ filenameLength (s.login data).serverName
                (FileDate.ofTime event.date) ∨
            ((s.login data).updateOpenedFile event.date event.opens).1.file =
                true ∧
              lineBufferSize ≤ lineLength (LogDate.ofTime event.date)
                (event.timemsec.toNat % 1000) data := by
        rw [Overflows, hdecode]
        constructor
        · rintro ⟨data', heq, hover⟩
          cases heq
          exact hover
        · intro hover
          exact ⟨data, rfl, hover⟩
      rw [hoverflows, not_or, not_or, ← reads_iff, ← filename_iff,
        ← line_iff, onPacketReceived, hdecode]
      constructor
      · intro hfits
        exact ⟨hfits.reads, hfits.filename, hfits.line⟩
      · rintro ⟨hreads, hfilename, hline⟩
        exact
          { reads := hreads
            filename := hfilename
            line := hline }

/-- The packets of a session fit exactly if none of them overflows. -/
theorem allFit_iff (history : List PacketEvent) :
    AtEachStep step create
        (fun s event _ => (s.onPacketReceived event).Fits event.message)
        history ↔
      Avoids step create Overflows history := by
  constructor
  · intro hfits before event after mid heq hmid
    exact (handled_iff mid event).mp
      (hfits before event after mid _ heq hmid rfl)
  · intro havoids before event after mid next heq hmid hstep
    exact (handled_iff mid event).mpr (havoids before event after mid heq hmid)

def longText : CharString := List.replicate lineBufferSize 97

theorem longText_length : longText.length = 1318 := List.length_replicate

theorem longText_terminated : 0 ∉ longText := by
  intro hmem
  cases (List.mem_replicate.mp hmem).right

/-- A packet that names the server `x`. -/
def longMessage : LogMessage where
  id := 101
  type := 1
  threadId := 0
  n := Vector.replicate 11 0
  str1 := longText
  str2 := []
  str3 := []
  str4 := [120]

def longEvent : PacketEvent where
  message := longMessage.written
  outside _ := 0
  date :=
    { tmYear := 2020
      tmMon := 1
      tmMday := 1
      tmHour := 0
      tmMin := 0
      tmSec := 0 }
  timemsec := 1577836800000
  opens := true

theorem decode_longMessage :
    longEvent.message.decode longEvent.outside = some longMessage.data := by
  have hlength : longMessage.str1.length = 1318 := longText_length
  have hfits : longMessage.Fits := by
    rw [LogMessage.Fits, hlength]
    decide
  have hshort : longMessage.Short :=
    { str1 := by
        rw [hlength]
        decide
      str2 := by decide
      str3 := by decide
      str4 := by decide }
  have hterminated : longMessage.Terminated :=
    { str1 := longText_terminated
      str2 := by decide
      str3 := by decide
      str4 := by decide }
  have hframe : Message.frame longMessage.written = longMessage.frame := by
    have h := hfits.headFrame []
    rw [List.append_nil] at h
    exact h
  exact (received_of_frame hfits hframe).decode_of_short hfits hshort
    hterminated longEvent.outside

theorem not_allFit_long :
    ¬AtEachStep step create
        (fun s event _ => (s.onPacketReceived event).Fits event.message)
        [longEvent] := by
  intro hfits
  have hfirst := hfits [] longEvent [] create _ rfl Run.nil rfl
  apply (handled_iff create longEvent).mp hfirst
  refine ⟨longMessage.data, decode_longMessage, Or.inr (Or.inr ⟨rfl, ?_⟩)⟩
  have hlong : longMessage.data.s1.length = 1318 := longText_length
  rw [lineLength, hlong, lineBufferSize]
  lia

end ClientSession

end Log
end Rzu
