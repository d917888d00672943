import Rzu.Library.Run
import Rzu.Net.Stream

/-!
# The life of a stream

A stream with what libuv has in progress for its handle.  A change of state is
told to listeners before the function that made it goes on, and listeners may
call the stream again; what is left to do then is kept on a stack.
-/

namespace Rzu
namespace Net

open Library

/-- The request of `connect_impl`; `uv_close` cancels it. -/
inductive ConnectRequest where
  | idle
  | inFlight
  | cancelled
deriving DecidableEq, Repr

/-- Where a function of the stream waits for listeners to return. -/
inductive Suspended where
  /-- `connect`, told of the connecting state -/
  | connect
  /-- `listen`, told of the binding state -/
  | listen
  /-- `close` or `abort`, told of the closing state; one shuts down first -/
  | close (shutsDown : Bool)
  /-- `onStreamError`, told of the error -/
  | error
  /-- `setState`, told of the connected state -/
  | connected
  /-- where nothing is left to do -/
  | other
deriving DecidableEq, Repr

/-- The state that was told, where the stream has just left `unconnected`. -/
def Suspended.starts : Suspended -> Option StreamState
  | Suspended.connect => some StreamState.connecting
  | Suspended.listen => some StreamState.binding
  | _ => none

def Suspended.isClose : Suspended -> Bool
  | Suspended.close _ => true
  | _ => false

structure UvStream where
  currentState : StreamState
  suspended : List Suspended
  connectRequest : ConnectRequest
  shutdownPending : Bool
  reading : Bool
  listening : Bool
  writesPending : Nat
  closePending : Nat
  /-- The calls of `uv_close` since the stream left the unconnected state. -/
  closesIssued : Nat
  /-- Whether it ever left that state. -/
  used : Bool
deriving DecidableEq, Repr

/-- What the functions of libuv that are called next return. -/
structure UvResults where
  connect : Int
  bind : Int
  listen : Int
  shutdown : Int
deriving DecidableEq, Repr

inductive AcceptResult where
  | accepted
  | again
  | error
deriving DecidableEq, Repr

inductive ReadResult where
  | endOfFile
  | connectionReset
  | error
  | data
  | nothing
deriving DecidableEq, Repr

inductive StreamEvent where
  | connect
  | listen
  | bindBeforeConnect (result : Int)
  | close
  | abort
  | write (result : Int)
  /-- The stream accepts a client. -/
  | accept (result : AcceptResult)
  /-- The stream is the client that another stream accepts. -/
  | accepted
  /-- The listeners that were told last return. -/
  | returned (results : UvResults)
  | onConnected (status : Int)
  | onNewConnection (status : Int)
  | onReadCompleted (result : ReadResult)
  | onWriteCompleted (status : Int)
  | onShutdownDone
  | onConnectionClosed
deriving DecidableEq, Repr

namespace UvStream

def create : UvStream where
  currentState := StreamState.unconnected
  suspended := []
  connectRequest := ConnectRequest.idle
  shutdownPending := false
  reading := false
  listening := false
  writesPending := 0
  closePending := 0
  closesIssued := 0
  used := false

/-- Call listeners, then go on. -/
def tell (s : UvStream) (suspended : Suspended) : UvStream :=
  { s with suspended := suspended :: s.suspended }

def setState (s : UvStream) (state : StreamState) (suspended : Suspended) :
    UvStream :=
  if state = s.currentState then s
  else { s with currentState := state }.tell suspended

/-- `uv_close` stops what the handle does. -/
def uvClose (s : UvStream) : UvStream :=
  { s with
    connectRequest :=
      if s.connectRequest = ConnectRequest.inFlight then
        ConnectRequest.cancelled
      else s.connectRequest
    reading := false
    listening := false
    closePending := s.closePending + 1
    closesIssued := s.closesIssued + 1 }

/-- A connection begins. -/
def leaveUnconnected (s : UvStream) : UvStream :=
  { s with
    closesIssued := 0
    used := true }

def onStreamError (s : UvStream) : UvStream :=
  s.tell Suspended.error

def connect (s : UvStream) : UvStream :=
  if s.currentState ≠ StreamState.unconnected then s
  else s.leaveUnconnected.setState StreamState.connecting Suspended.connect

def listen (s : UvStream) : UvStream :=
  if s.currentState ≠ StreamState.unconnected then s
  else s.leaveUnconnected.setState StreamState.binding Suspended.listen

def bindBeforeConnect (s : UvStream) (result : Int) : UvStream :=
  if s.currentState ≠ StreamState.unconnected then s
  else if result < 0 then s.onStreamError
  else s

def close (s : UvStream) : UvStream :=
  if s.currentState = StreamState.closing ∨
      s.currentState = StreamState.unconnected then s
  else
    s.setState StreamState.closing
      (Suspended.close (s.currentState = StreamState.connected))

def abort (s : UvStream) : UvStream :=
  if s.currentState = StreamState.closing ∨
      s.currentState = StreamState.unconnected then s
  else s.setState StreamState.closing (Suspended.close false)

def write (s : UvStream) (result : Int) : UvStream :=
  if s.currentState = StreamState.connected then
    if result < 0 then s.onStreamError
    else { s with writesPending := s.writesPending + 1 }
  else s

def accept (s : UvStream) : AcceptResult -> UvStream
  | AcceptResult.accepted => s
  | AcceptResult.again => s
  | AcceptResult.error => s.onStreamError

/-- What follows the listeners. -/
def resume (s : UvStream) (results : UvResults) : Suspended -> UvStream
  | Suspended.connect =>
      if results.connect < 0 then s.onStreamError
      else { s with connectRequest := ConnectRequest.inFlight }
  | Suspended.listen =>
      if results.bind < 0 then s.onStreamError
      else if results.listen < 0 then s.onStreamError
      else
        { s with listening := true }.setState StreamState.listening
          Suspended.other
  | Suspended.close shutsDown =>
      if shutsDown = true ∧ 0 ≤ results.shutdown then
        { s with shutdownPending := true }
      else s.uvClose
  | Suspended.error =>
      if s.currentState ≠ StreamState.listening then s.abort else s
  | Suspended.connected =>
      -- `uv_read_start` refuses a handle that is being closed.
      { s with reading := s.closePending = 0 }
  | Suspended.other => s

def returned (s : UvStream) (results : UvResults) : Option UvStream :=
  match s.suspended with
  | [] => none
  | suspended :: rest =>
      some ({ s with suspended := rest }.resume results suspended)

/-!
## Callbacks of libuv

They come when nothing of the stream is in progress, and only for what was
started.  A connection that was cancelled does not succeed.
-/

def onConnected (s : UvStream) (status : Int) : Option UvStream :=
  if s.suspended = [] ∧ s.connectRequest ≠ ConnectRequest.idle ∧
      (0 ≤ status -> s.connectRequest = ConnectRequest.inFlight) then
    let s := { s with connectRequest := ConnectRequest.idle }
    if status < 0 then some s.onStreamError
    else some (s.setState StreamState.connected Suspended.connected)
  else none

def onNewConnection (s : UvStream) (status : Int) : Option UvStream :=
  if s.suspended = [] ∧ s.listening = true then
    if status < 0 then some s.onStreamError
    else some (s.tell Suspended.other)
  else none

def onReadCompleted (s : UvStream) (result : ReadResult) :
    Option UvStream :=
  if s.suspended = [] ∧ s.reading = true then
    match result with
    | ReadResult.endOfFile => some s.close
    | ReadResult.connectionReset => some s.abort
    | ReadResult.error => some s.onStreamError
    | ReadResult.data => some (s.tell Suspended.other)
    | ReadResult.nothing => some s
  else none

def onWriteCompleted (s : UvStream) (status : Int) : Option UvStream :=
  if s.suspended = [] ∧ 0 < s.writesPending then
    let s := { s with writesPending := s.writesPending - 1 }
    if status < 0 then some s.onStreamError else some s
  else none

def onShutdownDone (s : UvStream) : Option UvStream :=
  if s.suspended = [] ∧ s.shutdownPending = true then
    some { s with shutdownPending := false }.uvClose
  else none

def onConnectionClosed (s : UvStream) : Option UvStream :=
  if s.suspended = [] ∧ 0 < s.closePending then
    some ({ s with closePending := s.closePending - 1 }.setState
      StreamState.unconnected Suspended.other)
  else none

/-- `accept` is given a stream that is not connected. -/
def accepted (s : UvStream) : Option UvStream :=
  if s.currentState = StreamState.unconnected then
    some (s.leaveUnconnected.setState StreamState.connected
      Suspended.connected)
  else none

def next (s : UvStream) : StreamEvent -> Option UvStream
  | StreamEvent.connect => some s.connect
  | StreamEvent.listen => some s.listen
  | StreamEvent.bindBeforeConnect result => some (s.bindBeforeConnect result)
  | StreamEvent.close => some s.close
  | StreamEvent.abort => some s.abort
  | StreamEvent.write result => some (s.write result)
  | StreamEvent.accept result => some (s.accept result)
  | StreamEvent.accepted => s.accepted
  | StreamEvent.returned results => s.returned results
  | StreamEvent.onConnected status => s.onConnected status
  | StreamEvent.onNewConnection status => s.onNewConnection status
  | StreamEvent.onReadCompleted result => s.onReadCompleted result
  | StreamEvent.onWriteCompleted status => s.onWriteCompleted status
  | StreamEvent.onShutdownDone => s.onShutdownDone
  | StreamEvent.onConnectionClosed => s.onConnectionClosed

def step (s : UvStream) (event : StreamEvent) (s' : UvStream) : Prop :=
  s.next event = some s'

/--
`connect` or `listen` goes on with success after a listener closed the stream.
Both initialise the handle anew, although libuv is still closing it.
-/
def StartsClosed (s : UvStream) : StreamEvent -> Prop
  | StreamEvent.returned results =>
      s.currentState = StreamState.closing ∧
        (s.suspended.head? = some Suspended.connect ∧ 0 ≤ results.connect ∨
          s.suspended.head? = some Suspended.listen ∧ 0 ≤ results.bind ∧
            0 ≤ results.listen)
  | _ => False

/-!
## What holds all along
-/

/-- How many functions are about to call `uv_close` or `uv_shutdown`. -/
def closing (s : UvStream) : Nat :=
  s.suspended.countP Suspended.isClose

/-- How many functions are about to start the handle. -/
def starting (s : UvStream) : Nat :=
  s.suspended.countP fun f => f.starts.isSome

/-- The ways in which `uv_close` was called or is going to be. -/
def owed (s : UvStream) : Nat :=
  s.closing + (if s.shutdownPending then 1 else 0) + s.closesIssued

/-- How often `uv_close` was called, by state. -/
def Accounted (s : UvStream) : Prop :=
  match s.currentState with
  | StreamState.unconnected =>
      s.closePending = 0 ∧ s.closing = 0 ∧ s.shutdownPending = false ∧
        s.closesIssued = if s.used then 1 else 0
  | StreamState.closing => s.owed = 1 ∧ s.closePending = s.closesIssued
  | _ => s.owed = 0 ∧ s.closePending = 0

/--
At most one function is about to start the handle, and only a listener that
closes the stream takes it out of the state that was told; a request is in
flight only while the stream connects or is about to close its handle.
-/
structure Ordered (s : UvStream) : Prop where
  start : forall f state, f ∈ s.suspended -> f.starts = some state ->
    s.currentState = state ∨ s.currentState = StreamState.closing
  once : s.starting ≤ 1
  request : s.connectRequest = ConnectRequest.inFlight ->
    s.currentState = StreamState.connecting ∨
      s.currentState = StreamState.closing ∧
        Suspended.close false ∈ s.suspended
  used : s.currentState ≠ StreamState.unconnected -> s.used = true
  accounted : s.Accounted

variable {s s' : UvStream}

theorem accounted_unconnected (h : s.currentState = StreamState.unconnected) :
    s.Accounted ↔ s.closePending = 0 ∧ s.closing = 0 ∧
      s.shutdownPending = false ∧
      s.closesIssued = if s.used then 1 else 0 := by
  rw [Accounted, h]

theorem accounted_closing (h : s.currentState = StreamState.closing) :
    s.Accounted ↔ s.owed = 1 ∧ s.closePending = s.closesIssued := by
  rw [Accounted, h]

theorem accounted_open (hun : s.currentState ≠ StreamState.unconnected)
    (hclosing : s.currentState ≠ StreamState.closing) :
    s.Accounted ↔ s.owed = 0 ∧ s.closePending = 0 := by
  rw [Accounted]
  cases hstate : s.currentState with
  | unconnected => exact absurd hstate hun
  | closing => exact absurd hstate hclosing
  | connecting => exact Iff.rfl
  | binding => exact Iff.rfl
  | listening => exact Iff.rfl
  | connected => exact Iff.rfl

theorem uvClose_request (s : UvStream) :
    s.uvClose.connectRequest ≠ ConnectRequest.inFlight := by
  rw [uvClose]
  dsimp only
  split
  · decide
  · rename_i hidle
    exact hidle

theorem not_starts_unconnected (f : Suspended) :
    f.starts ≠ some StreamState.unconnected := by
  cases f with
  | connect => decide
  | listen => decide
  | close shutsDown => exact fun h => by cases h
  | error => decide
  | connected => decide
  | other => decide

theorem ordered_create : create.Ordered where
  start _ _ hf := absurd hf List.not_mem_nil
  once := Nat.zero_le 1
  request hrequest := by cases hrequest
  used hun := absurd rfl hun
  accounted := by
    rw [accounted_unconnected rfl]
    exact ⟨rfl, rfl, rfl, rfl⟩

theorem Ordered.starting_eq_zero (h : s.Ordered)
    (hun : s.currentState = StreamState.unconnected) :
    s.starting = 0 := by
  apply List.countP_eq_zero.mpr
  intro f hf hstarts
  rcases Option.isSome_iff_exists.mp hstarts with ⟨state, hstate⟩
  rcases h.start f state hf hstate with hsame | hclosing
  · rw [hun] at hsame
    rw [← hsame] at hstate
    exact not_starts_unconnected f hstate
  · rw [hun] at hclosing
    cases hclosing

theorem Ordered.tell (h : s.Ordered) {f : Suspended}
    (hstarts : f.starts = none) (hclose : f.isClose = false) :
    (s.tell f).Ordered where
  start g state hg hstate := by
    rcases List.mem_cons.mp hg with hfirst | hlater
    · rw [hfirst, hstarts] at hstate
      cases hstate
    · exact h.start g state hlater hstate
  once := by
    have hcount : (s.tell f).starting = s.starting :=
      List.countP_cons_of_neg (by rw [hstarts]; exact Bool.false_ne_true)
    rw [hcount]
    exact h.once
  request hrequest := by
    rcases h.request hrequest with hconnecting | ⟨hclosing, hmem⟩
    · exact Or.inl hconnecting
    · exact Or.inr ⟨hclosing, List.mem_cons_of_mem _ hmem⟩
  used := h.used
  accounted := by
    have hcount : (s.tell f).closing = s.closing :=
      List.countP_cons_of_neg (by rw [hclose]; exact Bool.false_ne_true)
    have haccounted := h.accounted
    rw [Accounted, owed] at haccounted ⊢
    rw [hcount]
    exact haccounted

theorem Ordered.onStreamError (h : s.Ordered) : s.onStreamError.Ordered :=
  h.tell rfl rfl

theorem Ordered.begins (h : s.Ordered)
    (hun : s.currentState = StreamState.unconnected) {state : StreamState}
    {f : Suspended} (hstate : state ≠ StreamState.unconnected)
    (hopen : state ≠ StreamState.closing) (hclose : f.isClose = false)
    (hstarts : forall told, f.starts = some told -> state = told) :
    (s.leaveUnconnected.setState state f).Ordered := by
  have hnone : s.starting = 0 := h.starting_eq_zero hun
  rcases (accounted_unconnected hun).mp h.accounted with
    ⟨hpending, hclosing, hshutdown, -⟩
  have hchanges : state ≠ s.leaveUnconnected.currentState := by
    change state ≠ s.currentState
    rw [hun]
    exact hstate
  rw [setState, if_neg hchanges]
  constructor
  · intro g told hg htold
    rcases List.mem_cons.mp hg with hfirst | hlater
    · rw [hfirst] at htold
      exact Or.inl (hstarts told htold)
    · have hsome : g.starts.isSome = true := by
        rw [htold]
        rfl
      exact absurd hsome (List.countP_eq_zero.mp hnone g hlater)
  · change (f :: s.suspended).countP (fun g => g.starts.isSome) ≤ 1
    rw [starting] at hnone
    rw [List.countP_cons, hnone]
    split
    · exact Nat.le_refl 1
    · exact Nat.zero_le 1
  · intro hrequest
    have hbefore := h.request hrequest
    rw [hun] at hbefore
    rcases hbefore with hconnecting | ⟨hclosing, -⟩
    · cases hconnecting
    · cases hclosing
  · intro _
    rfl
  · apply (accounted_open hstate hopen).mpr
    have hcount : (f :: s.suspended).countP Suspended.isClose = 0 := by
      rw [List.countP_cons_of_neg (by rw [hclose]; exact Bool.false_ne_true)]
      exact hclosing
    refine ⟨?_, hpending⟩
    change (f :: s.suspended).countP Suspended.isClose +
      (if s.shutdownPending then 1 else 0) + 0 = 0
    rw [hcount, hshutdown]
    rfl

theorem Ordered.closes (h : s.Ordered)
    (hstate : ¬(s.currentState = StreamState.closing ∨
      s.currentState = StreamState.unconnected)) {shutsDown : Bool}
    (hshuts : s.currentState = StreamState.connecting ->
      shutsDown = false) :
    (s.setState StreamState.closing (Suspended.close shutsDown)).Ordered := by
  rcases not_or.mp hstate with ⟨hclosing, hun⟩
  rcases (accounted_open hun hclosing).mp h.accounted with
    ⟨howed, hpending⟩
  rw [setState, if_neg (Ne.symm hclosing)]
  constructor
  · exact fun _ _ _ _ => Or.inr rfl
  · exact h.once
  · intro hrequest
    apply Or.inr
    refine ⟨rfl, ?_⟩
    rcases h.request hrequest with hconnecting | ⟨hclosed, -⟩
    · rw [hshuts hconnecting]
      exact List.mem_cons_self
    · exact absurd hclosed hclosing
  · exact fun _ => h.used hun
  · rw [accounted_closing rfl]
    rw [owed, UvStream.closing] at howed
    change (Suspended.close shutsDown :: s.suspended).countP
        Suspended.isClose + (if s.shutdownPending then 1 else 0) +
        s.closesIssued = 1 ∧ s.closePending = s.closesIssued
    rw [List.countP_cons_of_pos rfl]
    lia

theorem Ordered.abort (h : s.Ordered) : s.abort.Ordered := by
  rw [UvStream.abort]
  split
  · exact h
  · rename_i hstate
    exact h.closes hstate fun _ => rfl

theorem Ordered.close (h : s.Ordered) : s.close.Ordered := by
  rw [UvStream.close]
  split
  · exact h
  · rename_i hstate
    apply h.closes hstate
    intro hconnecting
    rw [hconnecting]
    rfl

theorem Ordered.pop (h : s.Ordered) {f : Suspended} {rest : List Suspended}
    (hsuspended : s.suspended = f :: rest) (hclose : f.isClose = false) :
    Ordered { s with suspended := rest } where
  start g state hg hstate := by
    apply h.start g state _ hstate
    rw [hsuspended]
    exact List.mem_cons_of_mem f hg
  once := by
    have honce := h.once
    rw [starting, hsuspended, List.countP_cons] at honce
    change rest.countP (fun g => g.starts.isSome) ≤ 1
    lia
  request hrequest := by
    rcases h.request hrequest with hconnecting | ⟨hclosing, hmem⟩
    · exact Or.inl hconnecting
    · rw [hsuspended] at hmem
      rcases List.mem_cons.mp hmem with hf | hrest
      · rw [← hf] at hclose
        cases hclose
      · exact Or.inr ⟨hclosing, hrest⟩
  used := h.used
  accounted := by
    have hcount : s.closing =
        ({ s with suspended := rest } : UvStream).closing := by
      rw [closing, hsuspended,
        List.countP_cons_of_neg (by rw [hclose]; exact Bool.false_ne_true)]
      rfl
    have haccounted := h.accounted
    rw [Accounted, owed] at haccounted ⊢
    rw [hcount] at haccounted
    exact haccounted

theorem Ordered.head_state (h : s.Ordered) {f : Suspended}
    {rest : List Suspended} {state : StreamState}
    (hsuspended : s.suspended = f :: rest) (hstarts : f.starts = some state)
    (hopen : s.currentState ≠ StreamState.closing) :
    s.currentState = state := by
  have hmem : f ∈ s.suspended := by
    rw [hsuspended]
    exact List.mem_cons_self
  rcases h.start f state hmem hstarts with hsame | hclosing
  · exact hsame
  · exact absurd hclosing hopen

theorem Ordered.resume_connect (h : s.Ordered) {rest : List Suspended}
    (hsuspended : s.suspended = Suspended.connect :: rest)
    {results : UvResults}
    (hallowed : ¬s.StartsClosed (StreamEvent.returned results)) :
    (({ s with suspended := rest } : UvStream).resume results
      Suspended.connect).Ordered := by
  have hpopped := h.pop hsuspended rfl
  rw [resume]
  split
  · exact hpopped.onStreamError
  · rename_i hsuccess
    have hstate : s.currentState = StreamState.connecting := by
      apply h.head_state hsuspended rfl
      intro hclosing
      apply hallowed
      refine ⟨hclosing, Or.inl ⟨?_, Int.not_lt.mp hsuccess⟩⟩
      rw [hsuspended]
      rfl
    exact
      { start := hpopped.start
        once := hpopped.once
        request := fun _ => Or.inl hstate
        used := hpopped.used
        accounted := hpopped.accounted }

theorem Ordered.resume_listen (h : s.Ordered) {rest : List Suspended}
    (hsuspended : s.suspended = Suspended.listen :: rest)
    {results : UvResults}
    (hallowed : ¬s.StartsClosed (StreamEvent.returned results)) :
    (({ s with suspended := rest } : UvStream).resume results
      Suspended.listen).Ordered := by
  have hpopped := h.pop hsuspended rfl
  rw [resume]
  split
  · exact hpopped.onStreamError
  rename_i hbind
  split
  · exact hpopped.onStreamError
  rename_i hlisten
  have hstate : s.currentState = StreamState.binding := by
    apply h.head_state hsuspended rfl
    intro hclosing
    apply hallowed
    refine ⟨hclosing, Or.inr ⟨?_, Int.not_lt.mp hbind,
      Int.not_lt.mp hlisten⟩⟩
    rw [hsuspended]
    rfl
  have hopen : s.currentState ≠ StreamState.unconnected ∧
      s.currentState ≠ StreamState.closing := by
    rw [hstate]
    decide
  rcases (accounted_open (s := { s with suspended := rest }) hopen.left
    hopen.right).mp hpopped.accounted with ⟨howed, hpending⟩
  have hchanges : StreamState.listening ≠ s.currentState := by
    rw [hstate]
    decide
  -- `listen` was the one function that was about to start the handle.
  have hnone : rest.countP (fun g => g.starts.isSome) = 0 := by
    have honce := h.once
    rw [starting, hsuspended, List.countP_cons_of_pos rfl] at honce
    lia
  rw [setState, if_neg hchanges]
  constructor
  · intro g told hg htold
    rcases List.mem_cons.mp hg with hfirst | hlater
    · rw [hfirst] at htold
      cases htold
    · have hsome : g.starts.isSome = true := by
        rw [htold]
        rfl
      exact absurd hsome (List.countP_eq_zero.mp hnone g hlater)
  · change (Suspended.other :: rest).countP (fun g => g.starts.isSome) ≤ 1
    rw [List.countP_cons_of_neg (by decide), hnone]
    exact Nat.zero_le 1
  · intro hrequest
    have hbefore := h.request hrequest
    rw [hstate] at hbefore
    rcases hbefore with hconnecting | ⟨hclosing, -⟩
    · cases hconnecting
    · cases hclosing
  · exact fun _ => h.used hopen.left
  · have hun : StreamState.listening ≠ StreamState.unconnected := by
      decide
    have hclosing : StreamState.listening ≠ StreamState.closing := by
      decide
    exact (accounted_open hun hclosing).mpr ⟨howed, hpending⟩

theorem Ordered.resume_close (h : s.Ordered) {rest : List Suspended}
    {shutsDown : Bool}
    (hsuspended : s.suspended = Suspended.close shutsDown :: rest)
    (results : UvResults) :
    (({ s with suspended := rest } : UvStream).resume results
      (Suspended.close shutsDown)).Ordered := by
  have hcount : s.closing = rest.countP Suspended.isClose + 1 := by
    rw [closing, hsuspended, List.countP_cons_of_pos rfl]
  have hstate : s.currentState = StreamState.closing := by
    by_contra hopen
    by_cases hun : s.currentState = StreamState.unconnected
    · have hzero := ((accounted_unconnected hun).mp h.accounted).right.left
      lia
    · have hzero := ((accounted_open hun hopen).mp h.accounted).left
      rw [owed] at hzero
      lia
  rcases (accounted_closing hstate).mp h.accounted with ⟨howed, hpending⟩
  rw [owed, hcount] at howed
  have hrest : rest.countP Suspended.isClose = 0 := by
    lia
  have hissued : s.closesIssued = 0 := by
    lia
  have hshutdown : s.shutdownPending = false := by
    cases hpresent : s.shutdownPending with
    | false => rfl
    | true =>
        rw [hpresent, if_pos rfl] at howed
        lia
  -- The function that is resumed is the only one that closes.
  have honly : Suspended.close false ∈ s.suspended ->
      shutsDown = false := by
    intro hmem
    rw [hsuspended] at hmem
    rcases List.mem_cons.mp hmem with hfirst | hlater
    · cases hfirst
      rfl
    · have hpos : 0 < rest.countP Suspended.isClose :=
        List.countP_pos_iff.mpr ⟨Suspended.close false, hlater, rfl⟩
      lia
  have hquiet : shutsDown = true ->
      s.connectRequest ≠ ConnectRequest.inFlight := by
    intro hshuts hrequest
    rcases h.request hrequest with hconnecting | ⟨-, hmem⟩
    · rw [hstate] at hconnecting
      cases hconnecting
    · rw [honly hmem] at hshuts
      cases hshuts
  have honce : rest.countP (fun g => g.starts.isSome) ≤ 1 := by
    have hbefore := h.once
    rw [starting, hsuspended, List.countP_cons] at hbefore
    lia
  rw [resume]
  split
  · rename_i hshuts
    constructor
    · exact fun _ _ _ _ => Or.inr hstate
    · exact honce
    · intro hrequest
      exact absurd hrequest (hquiet hshuts.left)
    · exact h.used
    · refine (accounted_closing ?_).mpr ?_
      · exact hstate
      change rest.countP Suspended.isClose + 1 + s.closesIssued = 1 ∧ _
      exact ⟨by lia, hpending⟩
  · constructor
    · exact fun _ _ _ _ => Or.inr hstate
    · exact honce
    · intro hrequest
      exact absurd hrequest (uvClose_request _)
    · exact h.used
    · refine (accounted_closing ?_).mpr ?_
      · exact hstate
      change rest.countP Suspended.isClose +
        (if s.shutdownPending then 1 else 0) + (s.closesIssued + 1) = 1 ∧
        s.closePending + 1 = s.closesIssued + 1
      rw [hshutdown, hrest, hissued, hpending, hissued]
      exact ⟨rfl, rfl⟩

theorem Ordered.returned (h : s.Ordered) {results : UvResults}
    (hallowed : ¬s.StartsClosed (StreamEvent.returned results))
    (hreturned : s.returned results = some s') : s'.Ordered := by
  rw [UvStream.returned] at hreturned
  split at hreturned
  · cases hreturned
  rename_i f rest hsuspended
  cases hreturned
  cases f with
  | connect => exact h.resume_connect hsuspended hallowed
  | listen => exact h.resume_listen hsuspended hallowed
  | close shutsDown => exact h.resume_close hsuspended results
  | error =>
      have hpopped := h.pop hsuspended rfl
      rw [resume]
      split
      · exact hpopped.abort
      · exact hpopped
  | connected =>
      have hpopped := h.pop hsuspended rfl
      exact
        { start := hpopped.start
          once := hpopped.once
          request := hpopped.request
          used := hpopped.used
          accounted := hpopped.accounted }
  | other => exact h.pop hsuspended rfl

/-!
## Callbacks keep the order
-/

theorem Ordered.of_same (h : s.Ordered)
    (hstate : s'.currentState = s.currentState)
    (hsuspended : s'.suspended = s.suspended)
    (hrequest : s'.connectRequest = ConnectRequest.inFlight ->
      s.connectRequest = ConnectRequest.inFlight)
    (hshutdown : s'.shutdownPending = s.shutdownPending)
    (hpending : s'.closePending = s.closePending)
    (hissued : s'.closesIssued = s.closesIssued)
    (hused : s'.used = s.used) : s'.Ordered where
  start := by
    rw [hsuspended, hstate]
    exact h.start
  once := by
    rw [starting, hsuspended]
    exact h.once
  request := by
    rw [hsuspended, hstate]
    exact fun hinFlight => h.request (hrequest hinFlight)
  used := by
    rw [hstate, hused]
    exact h.used
  accounted := by
    have haccounted := h.accounted
    rw [Accounted, owed, closing] at haccounted ⊢
    rw [hstate, hsuspended, hshutdown, hpending, hissued, hused]
    exact haccounted

theorem Ordered.connects (h : s.Ordered) (hempty : s.suspended = [])
    (hrequest : s.connectRequest = ConnectRequest.inFlight) :
    s.currentState = StreamState.connecting := by
  rcases h.request hrequest with hconnecting | ⟨-, hmem⟩
  · exact hconnecting
  · rw [hempty] at hmem
    cases hmem

theorem Ordered.onConnected (h : s.Ordered) {status : Int}
    (hcallback : s.onConnected status = some s') : s'.Ordered := by
  rw [UvStream.onConnected] at hcallback
  split at hcallback
  · rename_i hguard
    rcases hguard with ⟨hempty, -, hsuccess⟩
    have hidle : Ordered { s with connectRequest := ConnectRequest.idle } :=
      h.of_same rfl rfl (fun hinFlight => by cases hinFlight) rfl rfl rfl rfl
    dsimp only at hcallback
    split at hcallback
    · cases hcallback
      exact hidle.onStreamError
    · rename_i hstatus
      cases hcallback
      have hstate := h.connects hempty (hsuccess (Int.not_lt.mp hstatus))
      have hopen : s.currentState ≠ StreamState.unconnected ∧
          s.currentState ≠ StreamState.closing := by
        rw [hstate]
        decide
      rcases (accounted_open hopen.left hopen.right).mp h.accounted with
        ⟨howed, hpending⟩
      have hchanges : StreamState.connected ≠ s.currentState := by
        rw [hstate]
        decide
      have hun : StreamState.connected ≠ StreamState.unconnected := by
        decide
      have hclosing : StreamState.connected ≠ StreamState.closing := by
        decide
      rw [setState, if_neg hchanges]
      constructor
      · intro f state hf hstarts
        change f ∈ Suspended.connected :: s.suspended at hf
        rw [hempty, List.mem_singleton] at hf
        rw [hf] at hstarts
        cases hstarts
      · exact h.once
      · intro hrequest
        cases hrequest
      · exact fun _ => h.used hopen.left
      · exact (accounted_open hun hclosing).mpr ⟨howed, hpending⟩
  · cases hcallback

theorem Ordered.onReadCompleted (h : s.Ordered) {result : ReadResult}
    (hcallback : s.onReadCompleted result = some s') : s'.Ordered := by
  unfold UvStream.onReadCompleted at hcallback
  split at hcallback
  · cases result with
    | endOfFile =>
        cases hcallback
        exact h.close
    | connectionReset =>
        cases hcallback
        exact h.abort
    | error =>
        cases hcallback
        exact h.onStreamError
    | data =>
        cases hcallback
        exact h.tell rfl rfl
    | nothing =>
        cases hcallback
        exact h
  · cases hcallback

theorem Ordered.onWriteCompleted (h : s.Ordered) {status : Int}
    (hcallback : s.onWriteCompleted status = some s') : s'.Ordered := by
  rw [UvStream.onWriteCompleted] at hcallback
  split at hcallback
  · have hdone : Ordered { s with writesPending := s.writesPending - 1 } :=
      h.of_same rfl rfl id rfl rfl rfl rfl
    dsimp only at hcallback
    split at hcallback
    · cases hcallback
      exact hdone.onStreamError
    · cases hcallback
      exact hdone
  · cases hcallback

theorem Ordered.onNewConnection (h : s.Ordered) {status : Int}
    (hcallback : s.onNewConnection status = some s') : s'.Ordered := by
  rw [UvStream.onNewConnection] at hcallback
  split at hcallback
  · split at hcallback
    · cases hcallback
      exact h.onStreamError
    · cases hcallback
      exact h.tell rfl rfl
  · cases hcallback

theorem Ordered.shutdown_closing (h : s.Ordered)
    (hshutdown : s.shutdownPending = true) :
    s.currentState = StreamState.closing := by
  by_contra hopen
  by_cases hun : s.currentState = StreamState.unconnected
  · have hnone :=
      ((accounted_unconnected hun).mp h.accounted).right.right.left
    rw [hshutdown] at hnone
    cases hnone
  · have hzero := ((accounted_open hun hopen).mp h.accounted).left
    rw [owed, hshutdown, if_pos rfl] at hzero
    lia

theorem Ordered.pending_closing (h : s.Ordered)
    (hpending : 0 < s.closePending) :
    s.currentState = StreamState.closing := by
  by_contra hopen
  by_cases hun : s.currentState = StreamState.unconnected
  · have hnone := ((accounted_unconnected hun).mp h.accounted).left
    lia
  · have hnone := ((accounted_open hun hopen).mp h.accounted).right
    lia

theorem Ordered.onShutdownDone (h : s.Ordered)
    (hcallback : s.onShutdownDone = some s') : s'.Ordered := by
  rw [UvStream.onShutdownDone] at hcallback
  split at hcallback
  · rename_i hguard
    rcases hguard with ⟨hempty, hshutdown⟩
    cases hcallback
    have hstate := h.shutdown_closing hshutdown
    rcases (accounted_closing hstate).mp h.accounted with ⟨howed, hpending⟩
    rw [owed, hshutdown, if_pos rfl, UvStream.closing, hempty] at howed
    have hissued : s.closesIssued = 0 := by
      lia
    constructor
    · exact h.start
    · exact h.once
    · intro hrequest
      exact absurd hrequest (uvClose_request _)
    · exact h.used
    · refine (accounted_closing ?_).mpr ?_
      · exact hstate
      change s.suspended.countP Suspended.isClose + 0 +
        (s.closesIssued + 1) = 1 ∧ s.closePending + 1 = s.closesIssued + 1
      rw [hempty, hpending, hissued]
      exact ⟨rfl, rfl⟩
  · cases hcallback

theorem Ordered.onConnectionClosed (h : s.Ordered)
    (hcallback : s.onConnectionClosed = some s') : s'.Ordered := by
  rw [UvStream.onConnectionClosed] at hcallback
  split at hcallback
  · rename_i hguard
    rcases hguard with ⟨hempty, hwaits⟩
    cases hcallback
    have hstate := h.pending_closing hwaits
    rcases (accounted_closing hstate).mp h.accounted with ⟨howed, hpending⟩
    rw [owed, UvStream.closing, hempty] at howed
    have hshutdown : s.shutdownPending = false := by
      cases hpresent : s.shutdownPending with
      | false => rfl
      | true =>
          rw [hpresent, if_pos rfl] at howed
          lia
    have hissued : s.closesIssued = 1 := by
      lia
    have hchanges : StreamState.unconnected ≠ s.currentState := by
      rw [hstate]
      decide
    have hopened : s.used = true := h.used (Ne.symm hchanges)
    rw [setState, if_neg hchanges]
    constructor
    · intro f state hf hstarts
      change f ∈ Suspended.other :: s.suspended at hf
      rw [hempty, List.mem_singleton] at hf
      rw [hf] at hstarts
      cases hstarts
    · exact h.once
    · intro hrequest
      have hconnecting := h.connects hempty hrequest
      rw [hstate] at hconnecting
      cases hconnecting
    · intro hun
      exact absurd rfl hun
    · refine (accounted_unconnected ?_).mpr ?_
      · rfl
      change s.closePending - 1 = 0 ∧
        (Suspended.other :: s.suspended).countP Suspended.isClose = 0 ∧
        s.shutdownPending = false ∧
        s.closesIssued = if s.used then 1 else 0
      rw [hempty, hpending, hissued, hopened]
      exact ⟨rfl, rfl, hshutdown, rfl⟩
  · cases hcallback

theorem Ordered.accepted (h : s.Ordered)
    (haccepted : s.accepted = some s') : s'.Ordered := by
  rw [UvStream.accepted] at haccepted
  split at haccepted
  · rename_i hun
    cases haccepted
    exact h.begins hun (by decide) (by decide) rfl fun _ htold => by
      cases htold
  · cases haccepted

theorem Ordered.connect (h : s.Ordered) : s.connect.Ordered := by
  rw [UvStream.connect]
  split
  · exact h
  · rename_i hun
    apply h.begins (not_not.mp hun) (by decide) (by decide) rfl
    intro told htold
    cases htold
    rfl

theorem Ordered.listen (h : s.Ordered) : s.listen.Ordered := by
  rw [UvStream.listen]
  split
  · exact h
  · rename_i hun
    apply h.begins (not_not.mp hun) (by decide) (by decide) rfl
    intro told htold
    cases htold
    rfl

theorem Ordered.bindBeforeConnect (h : s.Ordered) (result : Int) :
    (s.bindBeforeConnect result).Ordered := by
  rw [UvStream.bindBeforeConnect]
  split
  · exact h
  split
  · exact h.onStreamError
  · exact h

theorem Ordered.write (h : s.Ordered) (result : Int) :
    (s.write result).Ordered := by
  rw [UvStream.write]
  split
  · split
    · exact h.onStreamError
    · exact h.of_same rfl rfl id rfl rfl rfl rfl
  · exact h

theorem Ordered.accept (h : s.Ordered) (result : AcceptResult) :
    (s.accept result).Ordered := by
  cases result with
  | accepted => exact h
  | again => exact h
  | error => exact h.onStreamError

theorem Ordered.next {event : StreamEvent} (h : s.Ordered)
    (hallowed : ¬s.StartsClosed event)
    (hstep : s.next event = some s') : s'.Ordered := by
  cases event with
  | connect =>
      cases hstep
      exact h.connect
  | listen =>
      cases hstep
      exact h.listen
  | bindBeforeConnect result =>
      cases hstep
      exact h.bindBeforeConnect result
  | close =>
      cases hstep
      exact h.close
  | abort =>
      cases hstep
      exact h.abort
  | write result =>
      cases hstep
      exact h.write result
  | accept result =>
      cases hstep
      exact h.accept result
  | accepted => exact h.accepted hstep
  | returned results => exact h.returned hallowed hstep
  | onConnected status => exact h.onConnected hstep
  | onNewConnection status => exact h.onNewConnection hstep
  | onReadCompleted result => exact h.onReadCompleted hstep
  | onWriteCompleted status => exact h.onWriteCompleted hstep
  | onShutdownDone => exact h.onShutdownDone hstep
  | onConnectionClosed => exact h.onConnectionClosed hstep

/-!
## Back to the unconnected state
-/

theorem setState_currentState (s : UvStream) (state : StreamState)
    (f : Suspended) : (s.setState state f).currentState = state := by
  rw [setState]
  split
  · rename_i hsame
    exact hsame.symm
  · rfl

theorem abort_unconnected
    (h : s.abort.currentState = StreamState.unconnected) :
    s.currentState = StreamState.unconnected := by
  rw [UvStream.abort] at h
  split at h
  · exact h
  · rw [setState_currentState] at h
    cases h

theorem close_unconnected
    (h : s.close.currentState = StreamState.unconnected) :
    s.currentState = StreamState.unconnected := by
  rw [UvStream.close] at h
  split at h
  · exact h
  · rw [setState_currentState] at h
    cases h

theorem returned_unconnected {results : UvResults}
    (hreturned : s.returned results = some s')
    (h : s'.currentState = StreamState.unconnected) :
    s.currentState = StreamState.unconnected := by
  rw [UvStream.returned] at hreturned
  split at hreturned
  · cases hreturned
  rename_i f rest hsuspended
  cases hreturned
  cases f with
  | connect =>
      rw [resume] at h
      split at h
      · exact h
      · exact h
  | listen =>
      rw [resume] at h
      split at h
      · exact h
      split at h
      · exact h
      rw [setState_currentState] at h
      cases h
  | close shutsDown =>
      rw [resume] at h
      split at h
      · exact h
      · exact h
  | error =>
      rw [resume] at h
      split at h
      · exact abort_unconnected (s := { s with suspended := rest }) h
      · exact h
  | connected => exact h
  | other => exact h

theorem onConnected_unconnected {status : Int}
    (hcallback : s.onConnected status = some s')
    (h : s'.currentState = StreamState.unconnected) :
    s.currentState = StreamState.unconnected := by
  rw [UvStream.onConnected] at hcallback
  split at hcallback
  · dsimp only at hcallback
    split at hcallback
    · cases hcallback
      exact h
    · cases hcallback
      rw [setState_currentState] at h
      cases h
  · cases hcallback

theorem onReadCompleted_unconnected {result : ReadResult}
    (hcallback : s.onReadCompleted result = some s')
    (h : s'.currentState = StreamState.unconnected) :
    s.currentState = StreamState.unconnected := by
  unfold UvStream.onReadCompleted at hcallback
  split at hcallback
  · cases result with
    | endOfFile =>
        cases hcallback
        exact close_unconnected h
    | connectionReset =>
        cases hcallback
        exact abort_unconnected h
    | error =>
        cases hcallback
        exact h
    | data =>
        cases hcallback
        exact h
    | nothing =>
        cases hcallback
        exact h
  · cases hcallback

theorem next_unconnected {event : StreamEvent}
    (hstep : s.next event = some s')
    (h : s'.currentState = StreamState.unconnected) :
    s.currentState = StreamState.unconnected ∨
      event = StreamEvent.onConnectionClosed := by
  cases event with
  | connect =>
      cases hstep
      rw [UvStream.connect] at h
      split at h
      · exact Or.inl h
      · rw [setState_currentState] at h
        cases h
  | listen =>
      cases hstep
      rw [UvStream.listen] at h
      split at h
      · exact Or.inl h
      · rw [setState_currentState] at h
        cases h
  | bindBeforeConnect result =>
      cases hstep
      apply Or.inl
      rw [UvStream.bindBeforeConnect] at h
      split at h
      · exact h
      split at h
      · exact h
      · exact h
  | close =>
      cases hstep
      exact Or.inl (close_unconnected h)
  | abort =>
      cases hstep
      exact Or.inl (abort_unconnected h)
  | write result =>
      cases hstep
      apply Or.inl
      rw [UvStream.write] at h
      split at h
      · split at h
        · exact h
        · exact h
      · exact h
  | accept result =>
      cases hstep
      apply Or.inl
      cases result with
      | accepted => exact h
      | again => exact h
      | error => exact h
  | accepted =>
      change s.accepted = some s' at hstep
      rw [UvStream.accepted] at hstep
      split at hstep
      · cases hstep
        rw [setState_currentState] at h
        cases h
      · cases hstep
  | returned results => exact Or.inl (returned_unconnected hstep h)
  | onConnected status => exact Or.inl (onConnected_unconnected hstep h)
  | onNewConnection status =>
      apply Or.inl
      change s.onNewConnection status = some s' at hstep
      rw [UvStream.onNewConnection] at hstep
      split at hstep
      · split at hstep
        · cases hstep
          exact h
        · cases hstep
          exact h
      · cases hstep
  | onReadCompleted result => exact Or.inl (onReadCompleted_unconnected hstep h)
  | onWriteCompleted status =>
      apply Or.inl
      change s.onWriteCompleted status = some s' at hstep
      rw [UvStream.onWriteCompleted] at hstep
      split at hstep
      · dsimp only at hstep
        split at hstep
        · cases hstep
          exact h
        · cases hstep
          exact h
      · cases hstep
  | onShutdownDone =>
      apply Or.inl
      change s.onShutdownDone = some s' at hstep
      rw [UvStream.onShutdownDone] at hstep
      split at hstep
      · cases hstep
        exact h
      · cases hstep
  | onConnectionClosed => exact Or.inr rfl

/-!
## The life of a connection
-/

/-- Per connection, `uv_close` is called once at most. -/
def ClosedOnce (s : UvStream) : Prop :=
  s.closesIssued ≤ 1

/-- A connection that is closed, or closes, has one call of `uv_close`. -/
def EndsClosed (s : UvStream) : Prop :=
  s.currentState = StreamState.closing ∨
      s.currentState = StreamState.unconnected ∧ s.used = true ->
    s.closesIssued = 1

/-- The unconnected state is entered from `closing` by the callback. -/
def EntersByClosing (s : UvStream) (event : StreamEvent)
    (s' : UvStream) : Prop :=
  s.currentState ≠ StreamState.unconnected ->
    s'.currentState = StreamState.unconnected ->
      s.currentState = StreamState.closing ∧
        event = StreamEvent.onConnectionClosed

theorem step_deterministic : Deterministic step := by
  intro s event s' s'' hstep hstep'
  rw [step] at hstep hstep'
  rw [hstep] at hstep'
  exact Option.some.inj hstep'

theorem Accounted.closedOnce (h : s.Accounted) : s.ClosedOnce := by
  rw [ClosedOnce]
  by_cases hun : s.currentState = StreamState.unconnected
  · rcases (accounted_unconnected hun).mp h with ⟨-, -, -, hissued⟩
    rw [hissued]
    split
    · exact Nat.le_refl 1
    · exact Nat.zero_le 1
  by_cases hclosing : s.currentState = StreamState.closing
  · have howed := ((accounted_closing hclosing).mp h).left
    rw [owed] at howed
    lia
  · have howed := ((accounted_open hun hclosing).mp h).left
    rw [owed] at howed
    lia

theorem Ordered.entersByClosing {event : StreamEvent} (h : s.Ordered)
    (hstep : s.next event = some s') : s.EntersByClosing event s' := by
  intro hopen hun
  rcases next_unconnected hstep hun with hbefore | hcallback
  · exact absurd hbefore hopen
  · subst hcallback
    refine ⟨?_, rfl⟩
    change s.onConnectionClosed = some s' at hstep
    rw [UvStream.onConnectionClosed] at hstep
    split at hstep
    · rename_i hguard
      exact h.pending_closing hguard.right
    · cases hstep

theorem ordered_of_avoids {history : List StreamEvent}
    (havoids : Avoids step create StartsClosed history)
    (hrun : Run step create history s) : s.Ordered :=
  (havoids.run hrun).invariant ordered_create
    fun hordered hstep => hordered.next hstep.right hstep.left

/--
However calls, results and callbacks interleave: `uv_close` is called at most
once for each connection, the unconnected state is entered only from the
closing one by the callback, and what is left to do accounts for the calls.
-/
theorem wellClosed {history : List StreamEvent}
    (havoids : Avoids step create StartsClosed history) :
    Throughout step create ClosedOnce history ∧
      AtEachStep step create EntersByClosing history ∧
      Throughout step create Accounted history := by
  have hordered : forall before after mid, history = before ++ after ->
      Run step create before mid -> mid.Ordered := by
    intro before after mid heq hmid
    subst heq
    exact ordered_of_avoids havoids.before hmid
  refine ⟨?_, ?_, ?_⟩
  · intro before after mid heq hmid
    exact (hordered before after mid heq hmid).accounted.closedOnce
  · intro before event after mid mid' heq hmid hstep
    exact (hordered before (event :: after) mid heq hmid).entersByClosing hstep
  · intro before after mid heq hmid
    exact (hordered before after mid heq hmid).accounted

/-- All functions of libuv succeed. -/
def success : UvResults where
  connect := 0
  bind := 0
  listen := 0
  shutdown := 0

def closedByPeer : List StreamEvent :=
  [StreamEvent.connect, StreamEvent.returned success,
    StreamEvent.onConnected 0, StreamEvent.returned success,
    StreamEvent.onReadCompleted ReadResult.endOfFile,
    StreamEvent.returned success, StreamEvent.onShutdownDone,
    StreamEvent.onConnectionClosed]

theorem wellClosed_closedByPeer :
    Throughout step create ClosedOnce closedByPeer ∧
      AtEachStep step create EntersByClosing closedByPeer ∧
      Throughout step create Accounted closedByPeer := by
  apply wellClosed
  apply Avoids.of_run step_deterministic
  have hstart : Run (fun s event s' => step s event s' ∧
      ¬s.StartsClosed event) create [] create := Run.nil
  have hconnecting := (hstart.snoc (l := StreamEvent.connect)
    ⟨rfl, id⟩).snoc (l := StreamEvent.returned success)
      ⟨rfl, fun h => by cases h.left⟩
  have hconnected := (hconnecting.snoc (l := StreamEvent.onConnected 0)
    ⟨rfl, id⟩).snoc (l := StreamEvent.returned success)
      ⟨rfl, fun h => by cases h.left⟩
  have hclosing := (hconnected.snoc
    (l := StreamEvent.onReadCompleted ReadResult.endOfFile)
    ⟨rfl, id⟩).snoc (l := StreamEvent.returned success)
      ⟨rfl, fun h => by
        rcases h.right with ⟨hhead, -⟩ | ⟨hhead, -⟩
        · cases hhead
        · cases hhead⟩
  exact (hclosing.snoc (l := StreamEvent.onShutdownDone) ⟨rfl, id⟩).snoc
    (l := StreamEvent.onConnectionClosed) ⟨rfl, id⟩

def closedGracefully : List StreamEvent :=
  [StreamEvent.connect, StreamEvent.returned success,
    StreamEvent.onConnected 0, StreamEvent.returned success,
    StreamEvent.close, StreamEvent.returned success]

/-- A listener aborts a stream that goes on to listen, and is aborted. -/
def abortedTwice : List StreamEvent :=
  [StreamEvent.listen, StreamEvent.abort, StreamEvent.returned success,
    StreamEvent.returned success, StreamEvent.returned success,
    StreamEvent.abort, StreamEvent.returned success]

theorem not_wellClosed_as_hoped :
    ¬Throughout step create EndsClosed closedGracefully ∧
      ¬Throughout step create ClosedOnce abortedTwice := by
  constructor
  · intro hends
    have hissued := hends closedGracefully [] _ rfl (run_of_foldlM rfl)
      (Or.inl rfl)
    cases hissued
  · intro honce
    have hissued : 2 ≤ 1 := honce abortedTwice [] _ rfl (run_of_foldlM rfl)
    lia

end UvStream

end Net
end Rzu
