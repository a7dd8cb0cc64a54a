import RfidBridge.Protocol.Stream

/-!
TCPReaderSession of reader_transport.py: one receive reads chunks from the socket
until frames of an expected command came out of the decoder, which lives as long as
the session, whereas the list of matching frames lives as long as the call.
-/

namespace RfidBridge

/-- What one `recv` of the socket does. The empty chunk is the end of the stream. -/
inductive SocketResult
  | chunk (data : Bytes)
  | timeout (text : String)
  | osError (text : String)

/-- All the results that the socket of a session is going to give, in order. -/
abbrev Socket := Nat → SocketResult

/-- The socket gives the chunks one after another, without a timeout between them. -/
def Brings (socket : Socket) (position : Nat) (chunks : List Bytes) : Prop :=
  ∀ i chunk, chunks[i]? = some chunk → socket (position + i) = .chunk chunk

theorem Brings.left {socket : Socket} {position : Nat} {first second : List Bytes}
    (brings : Brings socket position (first ++ second)) : Brings socket position first := by
  intro i chunk found
  apply brings i chunk
  rw [List.getElem?_append_left (List.getElem?_eq_some_iff.mp found).1, found]

theorem Brings.right {socket : Socket} {position : Nat} {first second : List Bytes}
    (brings : Brings socket position (first ++ second)) :
    Brings socket (position + first.length) second := by
  intro i chunk found
  rw [Nat.add_assoc]
  apply brings
  rw [List.getElem?_append_right (Nat.le_add_right ..), Nat.add_sub_cancel_left, found]

theorem Brings.tail {socket : Socket} {position : Nat} {chunk : Bytes} {chunks : List Bytes}
    (brings : Brings socket position (chunk :: chunks)) : Brings socket (position + 1) chunks :=
  Brings.right (List.singleton_append (x := chunk) ▸ brings)

/-- A session, as opening it makes it; the position is the number of `recv` calls made on
its socket. -/
structure TCPReaderSession where
  isOpen : Bool := true
  decoder : FrameStreamDecoder := {}
  position : Nat := 0

namespace TCPReaderSession

/-- `self._socket.recv`: the session stands behind the result. -/
def advance (session : TCPReaderSession) : TCPReaderSession :=
  { session with position := session.position + 1 }

/-- `self._decoder.feed` on what was just received. -/
def decode (session : TCPReaderSession) (data : Bytes) : List RFIDFrame × TCPReaderSession :=
  ((session.decoder.feed data).1, { session with decoder := (session.decoder.feed data).2 })

/-- The end of receive behind its loop. -/
def noResponse (session : TCPReaderSession) : Except PyException (List RFIDFrame) :=
  if session.decoder.pendingBytes ≠ [] then
    raised .rfidTransportError "Connection ended with an incomplete RFID frame."
  else
    raised .rfidTransportError "No expected RFID response frame was received."

/-- The loop of receive with the frames matched so far. -/
def receiveLoop (socket : Socket) (expectedCommands : List UInt8) (timeoutReturnsEmpty : Bool) :
    Nat → List RFIDFrame → TCPReaderSession →
      Except PyException (List RFIDFrame) × TCPReaderSession
  | 0, _, session => (noResponse session, session)
  | reads + 1, matchedFrames, session =>
      match socket session.position with
      | .timeout text =>
          (if timeoutReturnsEmpty then .ok []
            else raised .rfidTransportError s!"RFID TCP receive failed: {text}", session.advance)
      | .osError text =>
          (raised .rfidTransportError s!"RFID TCP receive failed: {text}", session.advance)
      | .chunk [] => (noResponse session, session.advance)
      | .chunk (b :: data) =>
          let (frames, session) := session.advance.decode (b :: data)
          let matchedFrames := matchedFrames ++ frames.filter (·.command ∈ expectedCommands)
          if matchedFrames ≠ [] then (.ok matchedFrames, session)
          else receiveLoop socket expectedCommands timeoutReturnsEmpty reads matchedFrames session

def receive (socket : Socket) (expectedCommands : List UInt8) (maximumReads : Int)
    (timeoutReturnsEmpty : Bool) (session : TCPReaderSession) :
    Except PyException (List RFIDFrame) × TCPReaderSession :=
  if session.isOpen = false then
    (raised .rfidTransportError "RFID TCP session is not open.", session)
  else if expectedCommands = [] then
    (raised .rfidTransportError "At least one expected response command is required.", session)
  else if maximumReads < 1 then
    (raised .rfidTransportError "Maximum reads must be at least one.", session)
  else
    receiveLoop socket expectedCommands timeoutReturnsEmpty maximumReads.toNat [] session

/-- The bytes that the first `count` results of a socket deliver, chunk by chunk. -/
def consumed (socket : Socket) (count : Nat) : List Bytes :=
  (List.range count).filterMap fun i =>
    match socket i with
    | .chunk data => some data
    | _ => none

theorem consumed_succ (socket : Socket) (count : Nat) :
    consumed socket (count + 1) = consumed socket count ++
      match socket count with
      | .chunk data => [data]
      | _ => [] := by
  rw [consumed, List.range_succ, List.filterMap_append, ← consumed.eq_def]
  cases h : socket count <;> simp [h]

end TCPReaderSession

namespace FrameStreamDecoder

theorem feedAll_append (decoder : FrameStreamDecoder) (first second : List Bytes) :
    decoder.feedAll (first ++ second) =
      ((decoder.feedAll first).1 ++ ((decoder.feedAll first).2.feedAll second).1,
        ((decoder.feedAll first).2.feedAll second).2) := by
  induction first generalizing decoder with
  | nil => rfl
  | cons chunk first ih => simp only [List.cons_append, feedAll, ih, List.append_assoc]

theorem feedAll_singleton (decoder : FrameStreamDecoder) (chunk : Bytes) :
    decoder.feedAll [chunk] = decoder.feed chunk := by
  simp [feedAll]

end FrameStreamDecoder

namespace TCPReaderSession
open FrameStreamDecoder

/-- The frames of the expected commands that a decoder finds in what was consumed. -/
def expectedFrames (socket : Socket) (expectedCommands : List UInt8) (count : Nat) :
    List RFIDFrame :=
  (feedAll {} (consumed socket count)).1.filter (·.command ∈ expectedCommands)

/-- The decoder has been fed exactly what the socket has delivered. -/
def InStep (socket : Socket) (session : TCPReaderSession) : Prop :=
  session.decoder = (feedAll {} (consumed socket session.position)).2

/-- What a receive call hands over and what it leaves: the frames found since the call
began if it returns, and none were found if it raises. -/
def Accounted (socket : Socket) (expectedCommands : List UInt8) (before : TCPReaderSession)
    (outcome : Except PyException (List RFIDFrame) × TCPReaderSession) : Prop :=
  InStep socket outcome.2 ∧
    expectedFrames socket expectedCommands outcome.2.position =
      expectedFrames socket expectedCommands before.position ++
        match outcome.1 with
        | .ok frames => frames
        | .error _ => []

section
variable {socket : Socket} {expectedCommands : List UInt8} {session : TCPReaderSession}

theorem inStep_fresh (socket : Socket) : InStep socket {} := rfl

/-- A result that brings no bytes. -/
theorem accounted_silent (inStep : InStep socket session)
    (silent : consumed socket (session.position + 1) = consumed socket session.position)
    {outcome : Except PyException (List RFIDFrame)} (nothing : outcome.toOption.getD [] = []) :
    Accounted socket expectedCommands session (outcome, session.advance) := by
  constructor
  · rw [InStep, advance, silent]
    exact inStep
  · rw [expectedFrames, advance, silent]
    cases outcome with
    | ok frames =>
        cases nothing
        rw [List.append_nil]
        rfl
    | error exc => rw [List.append_nil]; rfl

/-- A chunk that the socket delivers goes through the decoder. -/
theorem decode_chunk (expectedCommands : List UInt8) (inStep : InStep socket session) {data : Bytes}
    (delivered : socket session.position = .chunk data) :
    InStep socket (session.advance.decode data).2 ∧
      (session.advance.decode data).2.position = session.position + 1 ∧
      expectedFrames socket expectedCommands (session.position + 1) =
        expectedFrames socket expectedCommands session.position ++
          (session.advance.decode data).1.filter (·.command ∈ expectedCommands) := by
  have chunk : consumed socket (session.position + 1) =
      consumed socket session.position ++ [data] := by
    rw [consumed_succ, delivered]
  refine ⟨?_, rfl, ?_⟩
  · rw [InStep, decode, advance, chunk, feedAll_append, feedAll_singleton, ← inStep]
  · rw [expectedFrames, chunk, feedAll_append, feedAll_singleton, List.filter_append, ← inStep]
    rfl

/-- The end of the stream brings nothing that was not decoded. -/
theorem decode_nil (inStep : InStep socket session) :
    session.advance.decode [] = ([], session.advance) := by
  have waiting : session.decoder.Waiting := by
    rw [inStep]
    exact waiting_feedAll {} _ rfl
  rw [decode, advance, feed_eq_run, List.append_nil, scanner.run_wait waiting]

theorem noResponse_eq_error (session : TCPReaderSession) :
    ∃ exc, noResponse session = .error exc ∧ exc.isException = true := by
  unfold noResponse
  split
  · exact ⟨_, rfl, rfl⟩
  · exact ⟨_, rfl, rfl⟩

theorem receiveLoop_accounted (timeoutReturnsEmpty : Bool) (reads : Nat)
    (inStep : InStep socket session) :
    Accounted socket expectedCommands session
      (receiveLoop socket expectedCommands timeoutReturnsEmpty reads [] session) := by
  induction reads generalizing session with
  | zero =>
      obtain ⟨exc, failed, -⟩ := noResponse_eq_error session
      rw [receiveLoop, failed]
      exact ⟨inStep, (List.append_nil _).symm⟩
  | succ reads ih =>
      rw [receiveLoop]
      cases result : socket session.position with
      | timeout text =>
          refine accounted_silent inStep (by rw [consumed_succ, result, List.append_nil]) ?_
          split <;> rfl
      | osError text =>
          exact accounted_silent inStep (by rw [consumed_succ, result, List.append_nil]) rfl
      | chunk data =>
          cases data with
          | nil =>
              obtain ⟨inStep', -, grown⟩ :=
                decode_chunk expectedCommands inStep result
              rw [decode_nil inStep] at inStep' grown
              obtain ⟨exc, failed, -⟩ := noResponse_eq_error session
              dsimp only
              rw [failed]
              exact ⟨inStep', grown⟩
          | cons b data =>
              obtain ⟨inStep', position, grown⟩ :=
                decode_chunk expectedCommands inStep result
              dsimp only
              rw [List.nil_append]
              split
              · refine ⟨inStep', ?_⟩
                rw [position]
                exact grown
              · rename_i nothing
                have none := not_not.mp nothing
                rw [none] at grown
                rw [none]
                obtain ⟨after, account⟩ := ih inStep'
                refine ⟨after, ?_⟩
                rw [account, position, grown, List.append_nil]

theorem receive_accounted (expectedCommands : List UInt8) (maximumReads : Int)
    (timeoutReturnsEmpty : Bool)
    (inStep : InStep socket session) :
    Accounted socket expectedCommands session
      (receive socket expectedCommands maximumReads timeoutReturnsEmpty session) := by
  unfold receive
  split
  · exact ⟨inStep, (List.append_nil _).symm⟩
  · split
    · exact ⟨inStep, (List.append_nil _).symm⟩
    · split
      · exact ⟨inStep, (List.append_nil _).symm⟩
      · exact receiveLoop_accounted timeoutReturnsEmpty _ inStep

end

/-- Calls of receive one after another, up to the first that raises: what the calls
returned, and the session after them. -/
def receiveAll (socket : Socket) (expectedCommands : List UInt8) :
    TCPReaderSession → List Int → List (List RFIDFrame) × TCPReaderSession
  | session, [] => ([], session)
  | session, maximumReads :: calls =>
      match receive socket expectedCommands maximumReads true session with
      | (.ok frames, session) =>
          (frames :: (receiveAll socket expectedCommands session calls).1,
            (receiveAll socket expectedCommands session calls).2)
      | (.error _, session) => ([], session)

theorem receiveAll_accounted {socket : Socket} {session : TCPReaderSession}
    (expectedCommands : List UInt8) (calls : List Int) (inStep : InStep socket session) :
    expectedFrames socket expectedCommands
        (receiveAll socket expectedCommands session calls).2.position =
      expectedFrames socket expectedCommands session.position ++
        (receiveAll socket expectedCommands session calls).1.flatten := by
  induction calls generalizing session with
  | nil => exact (List.append_nil _).symm
  | cons maximumReads calls ih =>
      have account := receive_accounted expectedCommands maximumReads true
        inStep
      rw [receiveAll]
      cases received : receive socket expectedCommands maximumReads true session with
      | mk outcome after =>
          rw [received] at account
          obtain ⟨inStep', grown⟩ := account
          cases outcome with
          | error exc =>
              rw [List.flatten_nil]
              exact grown
          | ok frames =>
              rw [List.flatten_cons, ← List.append_assoc, ← grown]
              exact ih inStep'

/-- Whatever the socket does and however its bytes are spread over calls and timeouts,
the calls of receive return together, in order, exactly the expected frames that a fresh
decoder finds in all the bytes consumed so far. -/
theorem receiveAll_loses_nothing (socket : Socket) (expectedCommands : List UInt8)
    (calls : List Int) :
    (receiveAll socket expectedCommands {} calls).1.flatten =
      (feed {} (consumed socket
        (receiveAll socket expectedCommands {} calls).2.position).flatten).1.filter
          (·.command ∈ expectedCommands) := by
  have account := receiveAll_accounted expectedCommands calls (inStep_fresh socket)
  have chunking : (feedAll {} (consumed socket
        (receiveAll socket expectedCommands {} calls).2.position)).1 =
      (feed {} (consumed socket
        (receiveAll socket expectedCommands {} calls).2.position).flatten).1 :=
    (feedAll_chunking [] _).1
  have start : expectedFrames socket expectedCommands ({} : TCPReaderSession).position = [] := rfl
  rw [start, List.nil_append] at account
  rw [← account, expectedFrames, chunking]

end TCPReaderSession
end RfidBridge
