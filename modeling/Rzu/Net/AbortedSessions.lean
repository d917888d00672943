import Rzu.Library.Trace
import Rzu.Net.Handlers

/-!
# Dispatch after an abort

A handler that aborts its session stops libuv from reading the socket, so the
session gets no further chunk.  It does not stop the receive loop, and it does
nothing on a stream that is being closed already.
-/

namespace Rzu
namespace Net

open Library

/-- `abortSession` was called, and the session was not connected since. -/
def AbortPending (trace : List Observation) : Prop :=
  exists before,
    Since (fun o => o ≠ Observation.connected) Observation.aborted before
      trace

namespace AbortPending

theorem nil : ¬AbortPending [] := by
  intro h
  rcases h with ⟨before, hsince⟩
  cases hsince.mem

theorem snoc_iff {trace : List Observation} {o : Observation} :
    AbortPending (trace ++ [o]) ↔
      o = Observation.aborted ∨
        (o ≠ Observation.connected ∧ AbortPending trace) := by
  constructor
  · intro h
    rcases h with ⟨before, since, heq, hallowed⟩
    rcases List.eq_nil_or_concat since with hnil | ⟨init, last, hsnoc⟩
    · subst hnil
      rcases List.append_inj' heq rfl with ⟨-, hlast⟩
      cases hlast
      exact Or.inl rfl
    · subst hsnoc
      rw [List.concat_eq_append] at heq hallowed
      rw [← List.cons_append, ← List.append_assoc] at heq
      rcases List.append_inj' heq rfl with ⟨hinit, hlast⟩
      cases hlast
      right
      constructor
      · apply hallowed
        simp
      · refine ⟨before, init, hinit, ?_⟩
        intro o ho
        exact hallowed o (List.mem_append_left _ ho)
  · intro h
    rcases h with haborted | ⟨hkept, before, hsince⟩
    · rw [haborted]
      exact ⟨trace, Since.now⟩
    · refine ⟨before, hsince.append ?_⟩
      intro o' ho'
      rw [List.mem_singleton.mp ho']
      exact hkept

theorem append_iff {trace new : List Observation}
    (hnew : Observation.connected ∉ new) :
    AbortPending (trace ++ new) ↔
      AbortPending trace ∨ Observation.aborted ∈ new := by
  induction new generalizing trace with
  | nil => simp
  | cons o new ih =>
      rw [List.mem_cons, not_or] at hnew
      rw [List.append_cons, ih hnew.right, snoc_iff, List.mem_cons]
      have hkept : o ≠ Observation.connected := fun h => hnew.left h.symm
      constructor
      · rintro ((haborted | ⟨-, hpending⟩) | hlater)
        · exact Or.inr (Or.inl haborted.symm)
        · exact Or.inl hpending
        · exact Or.inr (Or.inr hlater)
      · rintro (hpending | haborted | hlater)
        · exact Or.inl (Or.inr ⟨hkept, hpending⟩)
        · exact Or.inl (Or.inl haborted.symm)
        · exact Or.inr hlater

end AbortPending

/-- A message is dispatched only while no abort is pending. -/
def MayHappen (before : List Observation) (o : Observation) : Prop :=
  forall message, o = Observation.dispatched message -> ¬AbortPending before

/-- After an abort nothing is dispatched until the session is connected. -/
def NoDispatchAfterAbort (trace : List Observation) : Prop :=
  Justified MayHappen trace

/-!
## Handlers that abort in time
-/

namespace Link

variable {state : Type} (H : Handler state)

/-- The stream is being shut down, and its socket is still read. -/
def Lingers (l : Link state) : Prop :=
  l.currentState = StreamState.closing ∧ l.reading = true

instance (l : Link state) : Decidable l.Lingers :=
  inferInstanceAs (Decidable (_ ∧ _))

/-- No call of `abortSession` finds a stream that lingers. -/
def CallsInTime (l : Link state) : List SessionCall -> Prop
  | [] => True
  | call :: rest =>
      (call = SessionCall.abortSession -> ¬l.Lingers) ∧
        (l.call call).CallsInTime rest

/-- Nor is there a message behind the one whose handler aborts. -/
def MessagesInTime (l : Link state) : List Message -> Prop
  | [] => True
  | message :: rest =>
      let result := H.onPacketReceived l.handler message
      (({ l with handler := result.1 } : Link state).CallsInTime result.2 ∧
        (SessionCall.abortSession ∈ result.2 -> rest = [])) ∧
      MessagesInTime (l.dispatch H message).1 rest

instance decidableCallsInTime : (l : Link state) ->
    (calls : List SessionCall) -> Decidable (l.CallsInTime calls)
  | _, [] => isTrue trivial
  | l, call :: rest =>
      have := decidableCallsInTime (l.call call) rest
      inferInstanceAs (Decidable (_ ∧ _))

instance decidableMessagesInTime : (l : Link state) ->
    (messages : List Message) -> Decidable (l.MessagesInTime H messages)
  | _, [] => isTrue trivial
  | l, message :: rest =>
      have := decidableMessagesInTime (l.dispatch H message).1 rest
      inferInstanceAs (Decidable ((_ ∧ (_ -> _)) ∧ _))

/-- Only a stream that is connected or closing is read. -/
def WellRead (l : Link state) : Prop :=
  l.reading = true ->
    l.currentState = StreamState.connected ∨
      l.currentState = StreamState.closing

theorem abort_wellRead {l : Link state} (h : l.WellRead) :
    l.abort.WellRead := by
  unfold abort
  split
  · exact h
  · intro hreading
    cases hreading

theorem close_wellRead {l : Link state} (h : l.WellRead) :
    l.close.WellRead := by
  unfold close
  split
  · exact h
  · intro _
    exact Or.inr rfl

theorem call_wellRead {l : Link state} (h : l.WellRead)
    (call : SessionCall) : (l.call call).WellRead := by
  cases call with
  | abortSession => exact abort_wellRead h
  | closeSession => exact close_wellRead h

theorem perform_wellRead {l : Link state} (h : l.WellRead)
    (calls : List SessionCall) : (l.perform calls).WellRead := by
  induction calls generalizing l with
  | nil => exact h
  | cons call rest ih => exact ih (call_wellRead h call)

theorem abort_reading {l : Link state} (hwell : l.WellRead)
    (h : ¬l.Lingers) : l.abort.reading = false := by
  unfold abort
  split
  · rename_i hdown
    cases hreading : l.reading with
    | false => rfl
    | true =>
        rcases hwell hreading with hconnected | hclosing
        · rw [down, hconnected] at hdown
          exact absurd hdown (by decide)
        · exact absurd ⟨hclosing, hreading⟩ h
  · rfl

theorem call_reading {l : Link state} (h : l.reading = false)
    (call : SessionCall) : (l.call call).reading = false := by
  cases call with
  | abortSession =>
      change l.abort.reading = false
      unfold abort
      split
      · exact h
      · rfl
  | closeSession =>
      change l.close.reading = false
      unfold close
      split
      · exact h
      · change (l.reading && _) = false
        rw [h, Bool.false_and]

theorem perform_reading {l : Link state} (h : l.reading = false)
    (calls : List SessionCall) : (l.perform calls).reading = false := by
  induction calls generalizing l with
  | nil => exact h
  | cons call rest ih => exact ih (call_reading h call)

theorem perform_aborted {l : Link state} (hwell : l.WellRead)
    {calls : List SessionCall} (hcalls : l.CallsInTime calls)
    (habort : SessionCall.abortSession ∈ calls) :
    (l.perform calls).reading = false := by
  induction calls generalizing l with
  | nil => cases habort
  | cons call rest ih =>
      rcases List.mem_cons.mp habort with hnow | hlater
      · subst hnow
        exact perform_reading (abort_reading hwell (hcalls.left rfl)) rest
      · exact ih (call_wellRead hwell call) hcalls.right hlater

end Link

theorem not_connected_mem_observed (calls : List SessionCall) :
    Observation.connected ∉ (calls.map SessionCall.observed).flatten := by
  intro h
  rcases List.mem_flatten.mp h with ⟨observed, hmem, ho⟩
  rcases List.mem_map.mp hmem with ⟨call, -, heq⟩
  subst heq
  cases call with
  | abortSession => cases List.mem_singleton.mp ho
  | closeSession => cases ho

theorem aborted_mem_observed_iff {calls : List SessionCall} :
    Observation.aborted ∈ (calls.map SessionCall.observed).flatten ↔
      SessionCall.abortSession ∈ calls := by
  constructor
  · intro h
    rcases List.mem_flatten.mp h with ⟨observed, hmem, ho⟩
    rcases List.mem_map.mp hmem with ⟨call, hcall, heq⟩
    subst heq
    cases call with
    | abortSession => exact hcall
    | closeSession => cases ho
  · intro h
    apply List.mem_flatten.mpr
    exact ⟨_, List.mem_map.mpr ⟨_, h, rfl⟩, List.mem_singleton.mpr rfl⟩

theorem observed_mayHappen (calls : List SessionCall)
    (before : List Observation) (o : Observation)
    (h : o ∈ (calls.map SessionCall.observed).flatten) :
    MayHappen before o := by
  intro message heq
  subst heq
  rcases List.mem_flatten.mp h with ⟨observed, hmem, ho⟩
  rcases List.mem_map.mp hmem with ⟨call, -, heq⟩
  subst heq
  cases call with
  | abortSession => cases List.mem_singleton.mp ho
  | closeSession => cases ho

namespace Link

variable {state : Type} (H : Handler state)

theorem not_connected_mem_dispatch (l : Link state) (message : Message) :
    Observation.connected ∉ (l.dispatch H message).2 := by
  intro h
  rcases List.mem_cons.mp h with hdispatched | hcall
  · cases hdispatched
  · exact not_connected_mem_observed _ hcall

theorem dispatch_pending_iff {trace : List Observation} (l : Link state)
    (message : Message) :
    AbortPending (trace ++ (l.dispatch H message).2) ↔
      AbortPending trace ∨
        SessionCall.abortSession ∈
          (H.onPacketReceived l.handler message).2 := by
  rw [AbortPending.append_iff (not_connected_mem_dispatch H l message),
    ← aborted_mem_observed_iff]
  constructor
  · rintro (hpending | hmem)
    · exact Or.inl hpending
    · rcases List.mem_cons.mp hmem with hdispatched | hcall
      · cases hdispatched
      · exact Or.inr hcall
  · rintro (hpending | hcall)
    · exact Or.inl hpending
    · exact Or.inr (List.mem_cons_of_mem _ hcall)

theorem dispatch_justified {trace : List Observation}
    (h : NoDispatchAfterAbort trace) (hquiet : ¬AbortPending trace)
    (l : Link state) (message : Message) :
    NoDispatchAfterAbort (trace ++ (l.dispatch H message).2) := by
  change NoDispatchAfterAbort (trace ++ Observation.dispatched message :: _)
  rw [List.append_cons]
  apply Justified.append
  · exact h.snoc fun _ _ => hquiet
  · exact observed_mayHappen _

/-!
## What a chunk does
-/

/-- What holds between two steps of a session whose aborts come in time. -/
structure Quiet (trace : List Observation) (l : Link state) : Prop where
  justified : NoDispatchAfterAbort trace
  wellRead : l.WellRead
  stopped : AbortPending trace -> l.reading = false

theorem Quiet.dispatchAll {trace : List Observation} {l : Link state}
    (h : l.Quiet trace) {messages : List Message}
    (hmessages : l.MessagesInTime H messages)
    (hreading : messages ≠ [] -> ¬AbortPending trace) :
    (l.dispatchAll H messages).1.Quiet
      (trace ++ (l.dispatchAll H messages).2) := by
  induction messages generalizing trace l with
  | nil =>
      rw [Link.dispatchAll, List.append_nil]
      exact h
  | cons message rest ih =>
      rcases hmessages with ⟨⟨hcalls, hlast⟩, hrest⟩
      have hquiet := hreading (List.cons_ne_nil _ _)
      have hwell : ({ l with
          handler := (H.onPacketReceived l.handler message).1 } :
            Link state).WellRead := h.wellRead
      have hnext : (l.dispatch H message).1.Quiet
          (trace ++ (l.dispatch H message).2) := by
        refine ⟨dispatch_justified H h.justified hquiet l message,
          perform_wellRead hwell _, ?_⟩
        intro hpending
        rcases (dispatch_pending_iff H l message).mp hpending with
          hearlier | habort
        · exact absurd hearlier hquiet
        · exact perform_aborted hwell hcalls habort
      rw [Link.dispatchAll, ← List.append_assoc]
      apply ih hnext hrest
      intro hne hpending
      rcases (dispatch_pending_iff H l message).mp hpending with
        hearlier | habort
      · exact hquiet hearlier
      · exact hne (hlast habort)

theorem connected_quiet {trace : List Observation} {l : Link state}
    (h : l.Quiet trace) :
    l.connected.1.Quiet (trace ++ l.connected.2) := by
  unfold connected
  split
  · refine ⟨h.justified.snoc nofun, fun _ => Or.inl rfl, ?_⟩
    intro hpending
    rcases AbortPending.snoc_iff.mp hpending with haborted | hkept
    · cases haborted
    · exact absurd rfl hkept.left
  · rw [List.append_nil]
    exact h

theorem call_quiet {trace : List Observation} {l : Link state}
    (h : l.Quiet trace) {call : SessionCall}
    (hcall : call = SessionCall.abortSession -> ¬l.Lingers) :
    (l.call call).Quiet (trace ++ call.observed) := by
  refine ⟨?_, call_wellRead h.wellRead call, ?_⟩
  · apply h.justified.append
    intro before o ho
    apply observed_mayHappen [call]
    simpa using ho
  · intro hpending
    cases call with
    | abortSession => exact abort_reading h.wellRead (hcall rfl)
    | closeSession =>
        rw [SessionCall.observed, List.append_nil] at hpending
        exact call_reading (h.stopped hpending) _

theorem Quiet.of_reading {trace : List Observation} {l l' : Link state}
    (h : l.Quiet trace) (hwell : l'.WellRead)
    (hreading : l.reading = false -> l'.reading = false) :
    l'.Quiet (trace ++ []) := by
  rw [List.append_nil]
  exact ⟨h.justified, hwell, fun hpending => hreading (h.stopped hpending)⟩

theorem shutdownDone_wellRead {l : Link state} (h : l.WellRead) :
    l.shutdownDone.WellRead := by
  unfold shutdownDone
  split
  · exact nofun
  · exact h

theorem shutdownDone_reading {l : Link state} (h : l.reading = false) :
    l.shutdownDone.reading = false := by
  unfold shutdownDone
  split
  · rfl
  · exact h

theorem connectionClosed_wellRead {l : Link state} (h : l.WellRead) :
    l.connectionClosed.WellRead := by
  unfold connectionClosed
  split
  · exact nofun
  · exact h

theorem connectionClosed_reading {l : Link state}
    (h : l.reading = false) : l.connectionClosed.reading = false := by
  unfold connectionClosed
  split
  · rfl
  · exact h

end Link

/-!
## Whole runs
-/

namespace Attended

variable {cipher state : Type} (T : ByteTransform cipher)
variable (garbage : Nat -> UInt8) (cachedCipher : cipher)
variable (H : Handler state)

theorem messages_of_not_reading {a : Attended cipher state}
    (h : a.reading = false) (data : List UInt8) :
    a.messages T garbage data = [] := by
  unfold messages
  split
  · rfl
  · apply if_neg
    rw [h]
    exact fun hreading => absurd hreading.left (by decide)

/-- Where no abort of a step comes too late, or at the wrong time. -/
def StepInTime (a : Attended cipher state) : AttendedEvent -> Prop
  | AttendedEvent.received data =>
      a.link.MessagesInTime H (a.messages T garbage data)
  | AttendedEvent.call call =>
      call = SessionCall.abortSession -> ¬a.link.Lingers
  | _ => True

instance decidableStepInTime (a : Attended cipher state) :
    (event : AttendedEvent) -> Decidable (a.StepInTime T garbage H event)
  | AttendedEvent.received data =>
      inferInstanceAs (Decidable
        (a.link.MessagesInTime H (a.messages T garbage data)))
  | AttendedEvent.call call =>
      inferInstanceAs (Decidable
        (call = SessionCall.abortSession -> ¬a.link.Lingers))
  | AttendedEvent.connect _ => isTrue trivial
  | AttendedEvent.connected => isTrue trivial
  | AttendedEvent.endOfFile => isTrue trivial
  | AttendedEvent.failed => isTrue trivial
  | AttendedEvent.shutdownDone => isTrue trivial
  | AttendedEvent.connectionClosed => isTrue trivial

def InTime (a : Attended cipher state) : List AttendedEvent -> Prop
  | [] => True
  | event :: rest =>
      a.StepInTime T garbage H event ∧
        InTime (a.step T garbage cachedCipher H event).1 rest

instance decidableInTime : (a : Attended cipher state) ->
    (events : List AttendedEvent) ->
      Decidable (a.InTime T garbage cachedCipher H events)
  | _, [] => isTrue trivial
  | a, event :: rest =>
      have := decidableInTime (a.step T garbage cachedCipher H event).1 rest
      inferInstanceAs (Decidable (_ ∧ _))

theorem link_withLink (a : Attended cipher state) {l : Link state}
    (h : a.session.stream = none ->
      l.currentState = StreamState.unconnected) :
    (a.withLink l).link = l := by
  cases hstream : a.session.stream with
  | none =>
      have hstate := h hstream
      unfold withLink link currentState
      rw [hstream]
      cases l
      cases hstate
      rfl
  | some stream =>
      unfold withLink link currentState
      rw [hstream]
      rfl

theorem link_of_none (a : Attended cipher state)
    (h : a.session.stream = none) :
    a.link.currentState = StreamState.unconnected := by
  rw [link, currentState, h]

theorem link_connect {a : Attended cipher state}
    (hwell : a.link.WellRead) (streamType : StreamType) :
    (a.connect cachedCipher streamType).link.WellRead := by
  intro hreading
  rcases Bool.and_eq_true_iff.mp hreading with ⟨hread, htype⟩
  have hup := hwell hread
  cases hstream : a.session.stream with
  | none =>
      rw [hstream] at htype
      cases htype
  | some stream =>
      rw [hstream, Option.map_some] at htype
      have hsame : stream.streamType = streamType := by
        simpa using htype
      rw [link, currentState, hstream] at hup
      -- the stream is in use, so it refuses to connect
      have hrefused : stream.connect = none := by
        unfold Stream.connect
        apply if_neg
        intro hdown
        simp only [hdown] at hup
        exact absurd hup (by decide)
      rw [link, currentState, connect, Session.connect, hstream,
        Stream.getStream, if_pos hsame, hrefused]
      exact hup

theorem link_connected (a : Attended cipher state) :
    a.connected.1.link = a.link.connected.1 := by
  apply link_withLink
  intro hnone
  have hstream : a.session.stream = none := by
    cases hstream : a.session.stream with
    | none => rfl
    | some stream =>
        simp only [Session.connected, hstream] at hnone
        split at hnone
        · cases hnone
        · exact absurd (hstream.symm.trans hnone) nofun
  have hdown := link_of_none a hstream
  unfold Link.connected
  rw [if_neg (by rw [hdown]; decide)]
  exact hdown

theorem call_unconnected {l : Link state}
    (h : l.currentState = StreamState.unconnected) (call : SessionCall) :
    (l.call call).currentState = StreamState.unconnected := by
  have hdown : l.down = true := by
    rw [Link.down, h]
    rfl
  cases call with
  | abortSession =>
      change l.abort.currentState = _
      rw [Link.abort, if_pos hdown]
      exact h
  | closeSession =>
      change l.close.currentState = _
      rw [Link.close, if_pos hdown]
      exact h

theorem shutdownDone_currentState (l : Link state) :
    l.shutdownDone.currentState = l.currentState := by
  unfold Link.shutdownDone
  split <;> rfl

theorem connectionClosed_unconnected {l : Link state}
    (h : l.currentState = StreamState.unconnected) :
    l.connectionClosed.currentState = StreamState.unconnected := by
  unfold Link.connectionClosed
  split
  · rfl
  · exact h

theorem step_quiet {trace : List Observation} {a : Attended cipher state}
    (h : a.link.Quiet trace) {event : AttendedEvent}
    (hevent : a.StepInTime T garbage H event) :
    (a.step T garbage cachedCipher H event).1.link.Quiet
      (trace ++ (a.step T garbage cachedCipher H event).2) := by
  cases event with
  | connect streamType =>
      apply h.of_reading (link_connect cachedCipher h.wellRead streamType)
      intro hreading
      change (a.reading && _) = false
      rw [show a.reading = false from hreading, Bool.false_and]
  | connected =>
      change a.connected.1.link.Quiet (trace ++ a.connected.2)
      rw [link_connected]
      exact Link.connected_quiet h
  | received data =>
      have hlink : (a.received T garbage H data).1.link =
          (a.link.dispatchAll H (a.messages T garbage data)).1 :=
        congrArg Prod.fst (received_link T garbage H a data)
      have hobserved : (a.received T garbage H data).2 =
          (a.link.dispatchAll H (a.messages T garbage data)).2 :=
        congrArg Prod.snd (received_link T garbage H a data)
      change (a.received T garbage H data).1.link.Quiet
        (trace ++ (a.received T garbage H data).2)
      rw [hlink, hobserved]
      apply h.dispatchAll H hevent
      intro hne hpending
      exact hne (messages_of_not_reading T garbage
        (h.stopped hpending) data)
  | call call =>
      change (a.withLink (a.link.call call)).link.Quiet _
      rw [link_withLink _ fun hnone =>
        call_unconnected (link_of_none a hnone) call]
      exact Link.call_quiet h hevent
  | endOfFile =>
      change (a.withLink a.link.endOfFile).link.Quiet _
      have hclose := fun hnone => call_unconnected (a.link_of_none hnone)
        SessionCall.closeSession
      rw [link_withLink (l := a.link.endOfFile) a hclose]
      exact h.of_reading nofun fun _ => rfl
  | failed =>
      change (a.withLink a.link.abort).link.Quiet _
      have habort := fun hnone => call_unconnected (a.link_of_none hnone)
        SessionCall.abortSession
      rw [link_withLink (l := a.link.abort) a habort]
      exact h.of_reading (Link.abort_wellRead h.wellRead) fun hreading =>
        Link.call_reading hreading SessionCall.abortSession
  | shutdownDone =>
      change (a.withLink a.link.shutdownDone).link.Quiet _
      rw [link_withLink _ fun hnone =>
        (shutdownDone_currentState _).trans (link_of_none a hnone)]
      exact h.of_reading (Link.shutdownDone_wellRead h.wellRead)
        Link.shutdownDone_reading
  | connectionClosed =>
      change (a.withLink a.link.connectionClosed).link.Quiet _
      rw [link_withLink _ fun hnone =>
        connectionClosed_unconnected (link_of_none a hnone)]
      exact h.of_reading (Link.connectionClosed_wellRead h.wellRead)
        Link.connectionClosed_reading

theorem run_quiet {trace : List Observation} {a : Attended cipher state}
    (h : a.link.Quiet trace) {events : List AttendedEvent}
    (hevents : a.InTime T garbage cachedCipher H events) :
    (a.run T garbage cachedCipher H events).1.link.Quiet
      (trace ++ (a.run T garbage cachedCipher H events).2) := by
  induction events generalizing trace a with
  | nil =>
      rw [run, List.append_nil]
      exact h
  | cons event rest ih =>
      have hstep := step_quiet T garbage cachedCipher H h hevents.left
      have hrest := ih hstep hevents.right
      rw [List.append_assoc] at hrest
      exact hrest

theorem create_quiet (handler : state) :
    (create garbage cachedCipher handler).link.Quiet [] :=
  ⟨Justified.nil, nofun, fun hpending => absurd hpending AbortPending.nil⟩

/--
A session on which every abort comes in time dispatches nothing between an
abort and the next connection.
-/
theorem noDispatchAfterAbort_of_inTime (handler : state)
    (events : List AttendedEvent)
    (h : (create garbage cachedCipher handler).InTime T garbage
      cachedCipher H events) :
    NoDispatchAfterAbort
      ((create garbage cachedCipher handler).run T garbage cachedCipher H
        events).2 :=
  (run_quiet T garbage cachedCipher H
    (create_quiet garbage cachedCipher handler) h).justified

/-- A handler that has had enough after any message. -/
def rejecting : Handler Unit where
  onPacketReceived _ _ := ((), [SessionCall.abortSession])

/-- A plain session with that handler, on a new connection. -/
def rejected (chunks : List (List UInt8)) :
    Attended Unit Unit × List Observation :=
  (create (fun _ => 0) () ()).run ByteTransform.identity (fun _ => 0) ()
    rejecting
    (AttendedEvent.connect StreamType.socket :: AttendedEvent.connected ::
      chunks.map AttendedEvent.received)

theorem noDispatchAfterAbort_frameByFrame :
    NoDispatchAfterAbort
      (rejected [[5, 0, 0, 0, 1], [5, 0, 0, 0, 2]]).2 :=
  noDispatchAfterAbort_of_inTime ByteTransform.identity (fun _ => 0) ()
    rejecting () _ (by decide +kernel)

theorem rejected_both :
    (rejected [[5, 0, 0, 0, 1, 5, 0, 0, 0, 2]]).2 =
      [Observation.connected,
        Observation.dispatched
          ([5, 0, 0, 0, 1] ++ List.replicate 291 0),
        Observation.aborted] ++
      Observation.dispatched ([5, 0, 0, 0, 2] ++ List.replicate 291 0) ::
      [Observation.aborted] := by
  decide +kernel

theorem not_noDispatchAfterAbort_atOnce :
    ¬NoDispatchAfterAbort
      (rejected [[5, 0, 0, 0, 1, 5, 0, 0, 0, 2]]).2 := by
  intro h
  apply h _ _ _ rejected_both _ rfl
  exact ⟨[Observation.connected, Observation.dispatched _], Since.now⟩

end Attended

end Net
end Rzu
