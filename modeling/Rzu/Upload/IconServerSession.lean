import Rzu.Upload.UploadServer

/-!
# Requests for icons

The icon server collects the first line of a request byte by byte, in whatever
chunks it arrives, and answers when the headers end.  A line that is too short
to end with the protocol throws.
-/

namespace Rzu
namespace Upload

open Auth (CharString)

/-- What must not happen to an access. -/
inductive Fault where
  | outOfBounds
  | outOfRange
deriving DecidableEq

inductive IconState where
  | waitStatusLine
  | retrievingStatusLine
  | waitEndOfHeaders
deriving DecidableEq

structure IconServerSession where
  status : IconState
  nextByteToMatch : Nat
  url : CharString
  urlLength : UInt8
deriving DecidableEq

/-- What is written for a request. -/
inductive Reply where
  | notFound
  | sendIcon (filename : CharString)
deriving DecidableEq

def literal (text : String) : CharString := chars text ++ [0]

def beginUrl : CharString := literal "GET "

/-- `"\r\n\r\n"` -/
def endHeader : CharString := [13, 10, 13, 10, 0]

/-- An access to an array. -/
def charAt (text : CharString) (i : Nat) : Except Fault UInt8 :=
  match text[i]? with
  | some c => .ok c
  | none => .error Fault.outOfBounds

namespace CppString

/-- `std::string::at` -/
def at? (text : CharString) (pos : Nat) : Except Fault UInt8 :=
  match text[pos]? with
  | some c => .ok c
  | none => .error Fault.outOfRange

/-- `std::string::substr` up to the end. -/
def substr (text : CharString) (pos : Nat) : Except Fault CharString :=
  if text.length < pos then .error Fault.outOfRange
  else .ok (text.drop pos)

/-- `std::string::compare` of what is behind a position. -/
def compare (text : CharString) (pos : Nat) (other : CharString) :
    Except Fault Bool :=
  if text.length < pos then .error Fault.outOfRange
  else .ok (text.drop pos = other)

end CppString

/-- Subtraction of `size_t`. -/
def subSize (m n : Nat) : Nat := (m + 2 ^ 64 - n) % 2 ^ 64

def httpVersion : CharString := chars " HTTP/1.1"

namespace IconServerSession

def create : IconServerSession where
  status := IconState.waitStatusLine
  nextByteToMatch := 0
  url := []
  urlLength := 0

def isSeparator (c : UInt8) : Bool := c == 47 || c == 92 || c == 58

/-- The loop of `parseUrl`: where the name begins, from the end on. -/
def nameBegin (urlString : CharString) : Nat -> Except Fault Nat
  | 0 => .ok 0
  | p + 1 => do
      let c <- CppString.at? urlString p
      if isSeparator c then pure (p + 1) else nameBegin urlString p

def parseUrl (urlString : CharString) : Except Fault Reply := do
  let p <- nameBegin urlString urlString.length
  if p ≥ urlString.length then pure Reply.notFound
  else do
    let filename <- CppString.substr urlString p
    if checkName filename then pure (Reply.sendIcon filename)
    else pure Reply.notFound

/-- A request line that is complete. -/
def answer (urlString : CharString) : Except Fault (List Reply) := do
  let begin := subSize urlString.length 9
  let same <- CppString.compare urlString begin httpVersion
  if same then do
    let reply <- parseUrl (urlString.take begin)
    pure [reply]
  else pure []

/-- `url.str(std::string())` -/
def clearUrl (s : IconServerSession) : IconServerSession :=
  { s with url := [], urlLength := 0 }

/-- What the state makes of a byte. -/
def collect (s : IconServerSession) (c : UInt8) :
    Except Fault IconServerSession :=
  match s.status with
  | IconState.waitStatusLine => do
      let expected <- charAt beginUrl s.nextByteToMatch
      if c = expected then
        if s.nextByteToMatch + 1 ≥ 4 then
          pure { s with
            status := IconState.retrievingStatusLine
            nextByteToMatch := 0 }
        else pure { s with nextByteToMatch := s.nextByteToMatch + 1 }
      else pure { s with nextByteToMatch := 0 }
  | IconState.retrievingStatusLine =>
      if c = 13 ∨ c = 10 then
        pure { s with status := IconState.waitEndOfHeaders }
      else if 32 ≤ c ∧ c ≤ 126 ∧ s.urlLength < 255 then
        pure { s with url := s.url ++ [c], urlLength := s.urlLength + 1 }
      else
        pure { s with
          status := IconState.waitStatusLine
          nextByteToMatch := 0 }.clearUrl
  | IconState.waitEndOfHeaders => pure s

/-- Whether the headers end is looked at behind the request line. -/
def endHeaders (s : IconServerSession) (c : UInt8) :
    Except Fault (IconServerSession × List Reply) :=
  if s.status = IconState.retrievingStatusLine ∨
      s.status = IconState.waitEndOfHeaders then do
    let expected <- charAt endHeader s.nextByteToMatch
    if c = expected then
      if s.nextByteToMatch + 1 ≥ 4 then do
        let replies <- answer s.url
        pure ({ s with
          status := IconState.waitStatusLine
          nextByteToMatch := 0 }.clearUrl, replies)
      else pure ({ s with nextByteToMatch := s.nextByteToMatch + 1 }, [])
    else pure ({ s with nextByteToMatch := 0 }, [])
  else pure (s, [])

/-- One pass of the loop of `parseData`. -/
def parseByte (s : IconServerSession) (c : UInt8) :
    Except Fault (IconServerSession × List Reply) := do
  let s <- s.collect c
  s.endHeaders c

def parseData (s : IconServerSession) :
    List UInt8 -> Except Fault (IconServerSession × List Reply)
  | [] => .ok (s, [])
  | c :: data => do
      let first <- s.parseByte c
      let later <- first.1.parseData data
      pure (later.1, first.2 ++ later.2)

/-- The chunks that a connection receives, one after the other. -/
def receive (s : IconServerSession) :
    List (List UInt8) -> Except Fault (IconServerSession × List Reply)
  | [] => .ok (s, [])
  | chunk :: chunks => do
      let first <- s.parseData chunk
      let later <- first.1.receive chunks
      pure (later.1, first.2 ++ later.2)

/-!
## Chunks do not matter
-/

theorem parseData_append (s : IconServerSession) (data later : List UInt8) :
    s.parseData (data ++ later) = (do
      let first <- s.parseData data
      let rest <- first.1.parseData later
      pure (rest.1, first.2 ++ rest.2)) := by
  induction data generalizing s with
  | nil =>
      change s.parseData later = (s.parseData later).bind fun rest =>
        .ok (rest.1, [] ++ rest.2)
      cases s.parseData later with
      | error fault => rfl
      | ok rest => rfl
  | cons c data ih =>
      simp only [List.cons_append, parseData, ih, bind_assoc, pure_bind,
        List.append_assoc]

theorem receive_eq (s : IconServerSession) (chunks : List (List UInt8)) :
    s.receive chunks = s.parseData chunks.flatten := by
  induction chunks generalizing s with
  | nil => rfl
  | cons chunk chunks ih =>
      simp only [receive, List.flatten_cons, parseData_append, ih]

/-!
## The names of icons
-/

theorem nameBegin_ok {urlString : CharString} {p : Nat}
    (h : p ≤ urlString.length) :
    exists begin, nameBegin urlString p = .ok begin ∧ begin ≤ p := by
  induction p with
  | zero => exact ⟨0, rfl, Nat.le_refl _⟩
  | succ p ih =>
      have hat : CppString.at? urlString p = .ok urlString[p] := by
        rw [CppString.at?, List.getElem?_eq_getElem h]
      rw [nameBegin, hat]
      change exists begin, (if isSeparator urlString[p] = true then
        Except.ok (p + 1) else nameBegin urlString p) = .ok begin ∧ _
      split
      · exact ⟨p + 1, rfl, Nat.le_refl _⟩
      · rcases ih (Nat.le_of_succ_le h) with ⟨begin, hbegin, hle⟩
        exact ⟨begin, hbegin, Nat.le_succ_of_le hle⟩

theorem parseUrl_ok (urlString : CharString) :
    exists reply, parseUrl urlString = .ok reply := by
  rcases nameBegin_ok (Nat.le_refl urlString.length) with
    ⟨begin, hbegin, hle⟩
  rw [parseUrl, hbegin]
  change exists reply, (if begin ≥ urlString.length then
    Except.ok Reply.notFound else _) = .ok reply
  split
  · exact ⟨Reply.notFound, rfl⟩
  · rw [CppString.substr, if_neg (Nat.not_lt.mpr hle)]
    change exists reply, (if checkName (urlString.drop begin) = true then
      Except.ok (Reply.sendIcon (urlString.drop begin)) else
        Except.ok Reply.notFound) = .ok reply
    split
    · exact ⟨_, rfl⟩
    · exact ⟨_, rfl⟩

theorem answer_ok_iff {urlString : CharString}
    (hlength : urlString.length < 2 ^ 64) :
    (exists replies, answer urlString = .ok replies) ↔
      httpVersion.length ≤ urlString.length := by
  have hversion : httpVersion.length = 9 := by decide
  rw [answer, hversion]
  by_cases hlong : 9 ≤ urlString.length
  · have hbegin : subSize urlString.length 9 = urlString.length - 9 := by
      rw [subSize]
      lia
    rw [hbegin, CppString.compare, if_neg (by lia)]
    refine ⟨fun _ => hlong, fun _ => ?_⟩
    change exists replies, (if decide (urlString.drop _ = httpVersion) = true
      then (parseUrl _).bind fun reply => Except.ok [reply]
      else Except.ok []) = .ok replies
    split
    · rcases parseUrl_ok (urlString.take (urlString.length - 9)) with
        ⟨reply, hreply⟩
      rw [hreply]
      exact ⟨[reply], rfl⟩
    · exact ⟨[], rfl⟩
  · have hbegin : urlString.length < subSize urlString.length 9 := by
      rw [subSize]
      lia
    rw [CppString.compare, if_pos hbegin]
    refine ⟨?_, fun hle => absurd hle hlong⟩
    rintro ⟨replies, hreplies⟩
    cases hreplies

/-!
## The lines of a stream
-/

/-- What the session keeps while it reads; its indexes stay in bounds. -/
structure InBounds (s : IconServerSession) : Prop where
  next : s.nextByteToMatch < 4
  length : s.url.length = s.urlLength.toNat

theorem inBounds_create : InBounds create := ⟨by decide, rfl⟩

/-- What a byte adds to the line. -/
def collected (s : IconServerSession) (c : UInt8) : IconServerSession :=
  match s.status with
  | IconState.waitStatusLine =>
      if c = beginUrl.getD s.nextByteToMatch 0 then
        if s.nextByteToMatch = 3 then
          { s with
            status := IconState.retrievingStatusLine
            nextByteToMatch := 0 }
        else { s with nextByteToMatch := s.nextByteToMatch + 1 }
      else { s with nextByteToMatch := 0 }
  | IconState.retrievingStatusLine =>
      if c = 13 ∨ c = 10 then
        { s with status := IconState.waitEndOfHeaders }
      else if 32 ≤ c ∧ c ≤ 126 ∧ s.urlLength < 255 then
        { s with url := s.url ++ [c], urlLength := s.urlLength + 1 }
      else create
  | IconState.waitEndOfHeaders => s

/-- The state behind a byte, and the line that it completes. -/
def scan (s : IconServerSession) (c : UInt8) :
    IconServerSession × Option CharString :=
  let s := s.collected c
  if s.status = IconState.waitStatusLine then (s, none)
  else if c = endHeader.getD s.nextByteToMatch 0 then
    if s.nextByteToMatch = 3 then (create, some s.url)
    else ({ s with nextByteToMatch := s.nextByteToMatch + 1 }, none)
  else ({ s with nextByteToMatch := 0 }, none)

def requestLines (s : IconServerSession) : List UInt8 -> List CharString
  | [] => []
  | c :: data =>
      (s.scan c).2.toList ++ requestLines (s.scan c).1 data

theorem charAt_ok {text : CharString} {i : Nat} (h : i < text.length) :
    charAt text i = .ok (text.getD i 0) := by
  rw [charAt, List.getD_eq_getElem?_getD, List.getElem?_eq_getElem h]
  rfl

section Bytes

variable {s : IconServerSession} (h : InBounds s) (c : UInt8)

include h

theorem InBounds.url_lt : s.url.length < 2 ^ 64 := by
  have hlt := s.urlLength.toNat_lt
  rw [h.length]
  lia

theorem InBounds.beginUrl :
    charAt beginUrl s.nextByteToMatch =
      .ok (Upload.beginUrl.getD s.nextByteToMatch 0) := by
  have hlength : Upload.beginUrl.length = 5 := by decide
  exact charAt_ok (by rw [hlength]; exact Nat.lt_succ_of_lt h.next)

theorem InBounds.endHeader :
    charAt endHeader s.nextByteToMatch =
      .ok (Upload.endHeader.getD s.nextByteToMatch 0) :=
  charAt_ok (Nat.lt_succ_of_lt h.next)

theorem InBounds.collect :
    s.collect c = .ok (s.collected c) ∧ InBounds (s.collected c) := by
  have hnext := h.next
  rw [IconServerSession.collect, collected]
  split
  · rw [h.beginUrl]
    change (if c = _ then _ else _) = _ ∧ _
    split
    · by_cases hlast : s.nextByteToMatch = 3
      · rw [if_pos hlast, if_pos (by lia)]
        exact ⟨rfl, Nat.zero_lt_succ 3, h.length⟩
      · rw [if_neg hlast, if_neg (by lia)]
        exact ⟨rfl, Nat.lt_of_le_of_ne hnext fun heq =>
          hlast (Nat.succ.inj heq), h.length⟩
    · exact ⟨rfl, Nat.zero_lt_succ 3, h.length⟩
  · split
    · exact ⟨rfl, hnext, h.length⟩
    · split
      · rename_i hroom
        refine ⟨rfl, hnext, ?_⟩
        have hlt := UInt8.lt_iff_toNat_lt.mp hroom.right.right
        change (s.url ++ [c]).length = (s.urlLength + 1).toNat
        rw [List.length_append, h.length, UInt8.toNat_add]
        change s.urlLength.toNat + 1 = (s.urlLength.toNat + 1) % 2 ^ 8
        have hmax : (255 : UInt8).toNat = 255 := rfl
        lia
      · exact ⟨rfl, inBounds_create⟩
  · exact ⟨rfl, h⟩

theorem InBounds.parseByte :
    InBounds (s.scan c).1 ∧
      (forall line, (s.scan c).2 = some line -> line.length < 2 ^ 64) ∧
      s.parseByte c =
        match (s.scan c).2 with
        | none => .ok ((s.scan c).1, [])
        | some line => (answer line).map fun replies =>
            ((s.scan c).1, replies) := by
  rcases h.collect c with ⟨hcollect, h'⟩
  have hparse : s.parseByte c = (s.collected c).endHeaders c := by
    rw [IconServerSession.parseByte, hcollect]
    rfl
  rw [hparse, endHeaders, scan]
  generalize s.collected c = s' at h'
  have hnext := h'.next
  by_cases hwait : s'.status = IconState.waitStatusLine
  · rw [if_pos hwait, if_neg (by rw [hwait]; simp)]
    refine ⟨h', ?_, rfl⟩
    intro line hline
    cases hline
  · have hreads : s'.status = IconState.retrievingStatusLine ∨
        s'.status = IconState.waitEndOfHeaders := by
      cases hstatus : s'.status with
      | waitStatusLine => exact absurd hstatus hwait
      | retrievingStatusLine => exact Or.inl rfl
      | waitEndOfHeaders => exact Or.inr rfl
    rw [if_neg hwait, if_pos hreads, h'.endHeader]
    change _ ∧ _ ∧ (if c = _ then _ else _) = _
    by_cases hmatch : c = Upload.endHeader.getD s'.nextByteToMatch 0
    · rw [if_pos hmatch, if_pos hmatch]
      by_cases hlast : s'.nextByteToMatch = 3
      · rw [if_pos hlast, if_pos (by lia)]
        refine ⟨inBounds_create, ?_, ?_⟩
        · intro line hline
          cases hline
          exact h'.url_lt
        · change Except.bind (answer s'.url) _ =
            Except.map _ (answer s'.url)
          cases answer s'.url with
          | error fault => rfl
          | ok replies => rfl
      · rw [if_neg hlast, if_neg (by lia)]
        refine ⟨⟨Nat.lt_of_le_of_ne hnext fun heq =>
          hlast (Nat.succ.inj heq), h'.length⟩, ?_, rfl⟩
        intro line hline
        cases hline
    · rw [if_neg hmatch, if_neg hmatch]
      refine ⟨⟨Nat.zero_lt_succ 3, h'.length⟩, ?_, rfl⟩
      intro line hline
      cases hline

end Bytes

theorem InBounds.parseData {s : IconServerSession} (h : InBounds s)
    (data : List UInt8) :
    (exists s' replies, s.parseData data = .ok (s', replies)) ↔
      forall line, line ∈ s.requestLines data ->
        httpVersion.length ≤ line.length := by
  induction data generalizing s with
  | nil =>
      refine ⟨fun _ line hline => absurd hline List.not_mem_nil, fun _ => ?_⟩
      exact ⟨s, [], rfl⟩
  | cons c data ih =>
      rcases h.parseByte c with ⟨hnext, hsize, hparse⟩
      have hlater := ih hnext
      rw [IconServerSession.parseData, requestLines, hparse]
      cases hline : (s.scan c).2 with
      | none =>
          rw [Option.toList_none, List.nil_append, ← hlater]
          constructor
          · rintro ⟨s', replies, heq⟩
            change Except.bind ((s.scan c).1.parseData data) _ = _ at heq
            cases hdata : (s.scan c).1.parseData data with
            | error fault =>
                rw [hdata] at heq
                cases heq
            | ok later => exact ⟨later.1, later.2, rfl⟩
          · rintro ⟨s', replies, heq⟩
            refine ⟨s', [] ++ replies, ?_⟩
            change Except.bind ((s.scan c).1.parseData data) _ = _
            rw [heq]
            rfl
      | some line =>
          have hanswer := answer_ok_iff (hsize line hline)
          rw [Option.toList_some, List.singleton_append,
            List.forall_mem_cons, ← hanswer, ← hlater]
          constructor
          · rintro ⟨s', replies, heq⟩
            change Except.bind (Except.map _ (answer line)) _ = _ at heq
            cases hreplies : answer line with
            | error fault =>
                rw [hreplies] at heq
                cases heq
            | ok first =>
                rw [hreplies] at heq
                change Except.bind ((s.scan c).1.parseData data) _ = _ at heq
                cases hdata : (s.scan c).1.parseData data with
                | error fault =>
                    rw [hdata] at heq
                    cases heq
                | ok later => exact ⟨⟨first, rfl⟩, later.1, later.2, rfl⟩
          · rintro ⟨⟨first, hfirst⟩, s', replies, heq⟩
            refine ⟨s', first ++ replies, ?_⟩
            change Except.bind (Except.map _ (answer line)) _ = _
            rw [hfirst]
            change Except.bind ((s.scan c).1.parseData data) _ = _
            rw [heq]
            rfl

/-- No access is out of bounds and nothing is thrown, over all chunks. -/
def ParsesSafely (chunks : List (List UInt8)) : Prop :=
  exists s replies, create.receive chunks = .ok (s, replies)

/--
Whatever chunks a stream is cut into, it is parsed safely exactly if each
request line that is complete when its headers end is long enough to end with
the version of the protocol.
-/
theorem parsesSafely_iff (chunks : List (List UInt8)) :
    ParsesSafely chunks ↔
      forall line, line ∈ create.requestLines chunks.flatten ->
        httpVersion.length ≤ line.length := by
  rw [ParsesSafely, receive_eq]
  exact inBounds_create.parseData chunks.flatten

/-- The line of the request is one slash. -/
theorem not_parsesSafely_slash :
    ¬forall chunks, ParsesSafely chunks := by
  intro hsafe
  rcases hsafe [chars "GET /" ++ [13, 10, 13, 10]] with ⟨s, replies, hok⟩
  have hthrows : create.receive [chars "GET /" ++ [13, 10, 13, 10]] =
      .error Fault.outOfRange := by decide +kernel
  rw [hthrows] at hok
  cases hok

end IconServerSession

end Upload
end Rzu
