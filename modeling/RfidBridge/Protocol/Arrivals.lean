import RfidBridge.Protocol.CleanStreams
import RfidBridge.Protocol.ReaderTransport

/-!
Frames that arrive in pieces. A stream of accepted frames, cut into chunks in any
way, gives the decoder of a session one burst of frames for each chunk: those whose
last byte lies in it.
-/

namespace RfidBridge
open FrameStreamDecoder

/-- What a decoder holds in front of the remaining frames: a proper part of the next one. -/
def Begun : List RFIDFrame → Bytes → Prop
  | [], held => held = []
  | frame :: _, held => held <+: frame.rawFrame ∧ held.length < frame.rawFrame.length

/-- A beginning of a stream of frames: the complete frames come out, the rest is held. -/
theorem run_arrived (frames : List RFIDFrame)
    (accepted : ∀ frame ∈ frames, parseFrame frame.rawFrame = .ok frame) {part : Bytes}
    (begun : part <+: frames.flatMap RFIDFrame.rawFrame) :
    ∃ burst rest held, frames = burst ++ rest ∧
      part = burst.flatMap RFIDFrame.rawFrame ++ held ∧ scanner.run part = (burst, held) ∧
      Begun rest held := by
  induction frames generalizing part with
  | nil =>
      have empty : part = [] := List.prefix_nil.mp begun
      subst empty
      exact ⟨[], [], [], rfl, rfl, run_empty, rfl⟩
  | cons frame frames ih =>
      rw [List.flatMap_cons] at begun
      by_cases complete : frame.rawFrame.length ≤ part.length
      · have passed : frame.rawFrame <+: part :=
          List.prefix_of_prefix_length_le (List.prefix_append _ _) begun complete
        obtain ⟨more, rfl⟩ := passed
        rw [List.prefix_append_right_inj] at begun
        obtain ⟨burst, rest, held, rfl, rfl, ran, waits⟩ :=
          ih (fun f member => accepted f (List.mem_cons_of_mem frame member)) begun
        refine ⟨frame :: burst, rest, held, rfl, ?_, ?_, waits⟩
        · rw [List.flatMap_cons, List.append_assoc]
        · rw [run_accepted (accepted frame (List.mem_cons_self ..)), ran]
      · have inside : part <+: frame.rawFrame :=
          List.prefix_of_prefix_length_le begun (List.prefix_append _ _) (by omega)
        exact ⟨[], frame :: frames, part, rfl, rfl,
          run_unfinished (accepted frame (List.mem_cons_self ..)) inside (by omega), inside,
          by omega⟩

/-- Where the frames of a stream end. -/
def frameEnds : Nat → List RFIDFrame → List Nat
  | _, [] => []
  | start, frame :: frames =>
      (start + frame.rawFrame.length) :: frameEnds (start + frame.rawFrame.length) frames

/-- For each chunk, fed one after another, whether one of the ends lies in it. -/
def completing (ends : List Nat) : Nat → List Bytes → List Bool
  | _, [] => []
  | fed, chunk :: chunks =>
      ends.any (fun position => fed < position && position ≤ fed + chunk.length) ::
        completing ends (fed + chunk.length) chunks

theorem frameEnds_append (start : Nat) (first second : List RFIDFrame) :
    frameEnds start (first ++ second) = frameEnds start first ++
      frameEnds (start + (first.flatMap RFIDFrame.rawFrame).length) second := by
  induction first generalizing start with
  | nil => rfl
  | cons frame first ih =>
      rw [List.cons_append, frameEnds, frameEnds, ih, List.flatMap_cons, List.length_append,
        Nat.add_assoc, List.cons_append]

theorem frameEnds_bounds {start position : Nat} {frames : List RFIDFrame}
    (h : position ∈ frameEnds start frames) :
    position ≤ start + (frames.flatMap RFIDFrame.rawFrame).length ∧
      ∀ frame ∈ frames.head?, start + frame.rawFrame.length ≤ position := by
  induction frames generalizing start with
  | nil => cases h
  | cons frame frames ih =>
      rw [List.flatMap_cons, List.length_append]
      cases h with
      | head =>
          refine ⟨by omega, ?_⟩
          rintro _ ⟨⟩
          exact Nat.le_refl _
      | tail _ later =>
          obtain ⟨upper, lower⟩ := ih later
          refine ⟨by omega, ?_⟩
          rintro _ ⟨⟩
          cases frames with
          | nil => cases later
          | cons next frames =>
              have first := lower next rfl
              omega

/-- A frame ends in a chunk exactly when the chunk brings a burst of frames. -/
theorem ends_in_chunk {done burst rest : List RFIDFrame} {held held' chunk : Bytes}
    (before : Begun (burst ++ rest) held) (after : Begun rest held')
    (arrived : held ++ chunk = burst.flatMap RFIDFrame.rawFrame ++ held') :
    (frameEnds 0 (done ++ (burst ++ rest))).any (fun position =>
        (done.flatMap RFIDFrame.rawFrame).length + held.length < position &&
          position ≤ (done.flatMap RFIDFrame.rawFrame).length + held.length + chunk.length) =
      !burst.isEmpty := by
  have lengths := congrArg List.length arrived
  rw [List.length_append, List.length_append] at lengths
  rw [frameEnds_append, Nat.zero_add]
  cases burst with
  | nil =>
      rw [List.flatMap_nil, List.length_nil] at lengths
      rw [List.isEmpty_nil, Bool.not_true, List.any_eq_false]
      intro position member
      rw [List.mem_append] at member
      rcases member with earlier | later
      · have bound := (frameEnds_bounds earlier).1
        simp only [Bool.and_eq_true, decide_eq_true_eq]
        omega
      · cases rest with
        | nil => cases later
        | cons next rest =>
            have bound := (frameEnds_bounds later).2 next rfl
            have waits := after.2
            simp only [Bool.and_eq_true, decide_eq_true_eq]
            omega
  | cons frame burst =>
      have started := before.2
      rw [List.flatMap_cons, List.length_append] at lengths
      rw [List.isEmpty_cons, Bool.not_false, List.any_eq_true]
      refine ⟨(done.flatMap RFIDFrame.rawFrame).length + frame.rawFrame.length,
        List.mem_append_right _ (List.mem_cons_self ..), ?_⟩
      simp only [Bool.and_eq_true, decide_eq_true_eq]
      omega

namespace TCPReaderSession

/-- The next chunks of the socket, decoded one by one, give these bursts of frames. -/
def Delivers (socket : Socket) : TCPReaderSession → List (List RFIDFrame) → Prop
  | _, [] => True
  | session, burst :: bursts => ∃ b data, socket session.position = .chunk (b :: data) ∧
      (session.advance.decode (b :: data)).1 = burst ∧
      Delivers socket (session.advance.decode (b :: data)).2 bursts

/-- The chunks of a stream of frames, as the session decodes them. -/
theorem delivers_chunks {socket : Socket} (done rest : List RFIDFrame)
    (accepted : ∀ frame ∈ rest, parseFrame frame.rawFrame = .ok frame) (chunks : List Bytes)
    (nonempty : ∀ chunk ∈ chunks, chunk ≠ []) (session : TCPReaderSession)
    (begun : Begun rest session.decoder.buffer)
    (whole : session.decoder.buffer ++ chunks.flatten = rest.flatMap RFIDFrame.rawFrame)
    (brings : Brings socket session.position chunks) :
    ∃ bursts, Delivers socket session bursts ∧ bursts.flatten = rest ∧
      bursts.map (!·.isEmpty) = completing (frameEnds 0 (done ++ rest))
        ((done.flatMap RFIDFrame.rawFrame).length + session.decoder.buffer.length) chunks ∧
      bursts.getLast? ≠ some [] := by
  induction chunks generalizing done rest session with
  | nil =>
      refine ⟨[], trivial, ?_, rfl, by simp⟩
      cases rest with
      | nil => rfl
      | cons frame rest =>
          have short := begun.2
          rw [List.flatten_nil, List.append_nil] at whole
          rw [whole, List.flatMap_cons, List.length_append] at short
          omega
  | cons chunk chunks ih =>
      obtain ⟨b, data, rfl⟩ := List.exists_cons_of_ne_nil (nonempty _ (List.mem_cons_self ..))
      rw [List.flatten_cons, ← List.append_assoc] at whole
      obtain ⟨burst, rest, held, rfl, arrived, ran, waits⟩ :=
        run_arrived rest accepted ⟨chunks.flatten, whole⟩
      have decoded : session.advance.decode (b :: data) =
          (burst, { session.advance with decoder := ⟨held⟩ }) := by
        rw [decode, advance, feed_eq_run, ran]
      have emptied : held ++ chunks.flatten = rest.flatMap RFIDFrame.rawFrame := by
        rw [arrived, List.flatMap_append, List.append_assoc] at whole
        exact List.append_cancel_left whole
      have fed : ((done ++ burst).flatMap RFIDFrame.rawFrame).length + held.length =
          (done.flatMap RFIDFrame.rawFrame).length + session.decoder.buffer.length +
            (b :: data).length := by
        have lengths := congrArg List.length arrived
        rw [List.length_append, List.length_append] at lengths
        rw [List.flatMap_append, List.length_append]
        omega
      obtain ⟨bursts, delivers, frames, flags, last⟩ := ih (done ++ burst) rest
        (fun f member => accepted f (List.mem_append_right _ member))
        (fun c member => nonempty c (List.mem_cons_of_mem _ member))
        { session.advance with decoder := ⟨held⟩ } waits emptied brings.tail
      refine ⟨burst :: bursts, ⟨b, data, brings 0 _ rfl, ?_, ?_⟩, ?_, ?_, ?_⟩
      · rw [decoded]
      · rw [decoded]
        exact delivers
      · rw [List.flatten_cons, frames]
      · rw [List.map_cons, completing, ends_in_chunk begun waits arrived, flags, fed,
          List.append_assoc]
      · cases bursts with
        | cons next bursts => rwa [List.getLast?_cons_cons]
        | nil =>
            -- the last chunk ends the stream, so it brings the last frame
            rw [List.getLast?_singleton, ne_eq, Option.some.injEq]
            rintro rfl
            cases frames
            have before : session.decoder.buffer = [] := begun
            have after : held = [] := waits
            rw [before, after] at arrived
            cases arrived

end TCPReaderSession
end RfidBridge
