import RfidBridge.Protocol.CorruptFrame

/-!
Streams made of built frames and noise without start bytes. The decoder emits
every frame with its last byte and never leaves the frame boundaries, whatever
the payloads contain.
-/

namespace RfidBridge

/-- The arguments of a call of build_frame. -/
structure FrameArguments where
  address : Int
  sequence : Int
  command : Int
  payload : Bytes
  status : Int

namespace FrameArguments

def build (arguments : FrameArguments) : Except PyException Bytes :=
  buildFrame arguments.address arguments.sequence arguments.command arguments.payload
    arguments.status

/-- The frame a receiver should see for a built byte string. -/
def frame (arguments : FrameArguments) (raw : Bytes) : RFIDFrame where
  address := .ofNat arguments.address.toNat
  sequence := .ofNat arguments.sequence.toNat
  command := .ofNat arguments.command.toNat
  status := .ofNat arguments.status.toNat
  payload := arguments.payload
  rawFrame := raw

theorem parse_built {arguments : FrameArguments} {raw : Bytes} (h : arguments.build = .ok raw) :
    parseFrame raw = .ok (arguments.frame raw) := by
  obtain ⟨⟨-, -, -, -, short⟩, same⟩ := (buildFrame_eq_ok_iff _ _ _ _ _ raw).mp h
  have parsed := parseFrame_frameBytes (.ofNat arguments.address.toNat)
    (.ofNat arguments.sequence.toNat) (.ofNat arguments.command.toNat)
    (.ofNat arguments.status.toNat) arguments.payload short
  rw [← same] at parsed
  exact parsed

end FrameArguments

/-- A built frame and the noise before it. -/
structure Segment where
  noise : Bytes
  arguments : FrameArguments
  raw : Bytes
  quiet : ∀ b ∈ noise, b ≠ sof
  built : arguments.build = .ok raw

namespace Segment

def bytes (segment : Segment) : Bytes := segment.noise ++ segment.raw

def frame (segment : Segment) : RFIDFrame := segment.arguments.frame segment.raw

theorem parsed (segment : Segment) : parseFrame segment.raw = .ok segment.frame :=
  FrameArguments.parse_built segment.built

/-- The frames whose last byte is among the first `count` bytes of the segments. -/
def completed : List Segment → Nat → List RFIDFrame
  | [], _ => []
  | segment :: segments, count =>
      if segment.bytes.length ≤ count then
        segment.frame :: completed segments (count - segment.bytes.length)
      else []

end Segment

namespace FrameStreamDecoder

theorem run_quiet {noise : Bytes} (quiet : ∀ b ∈ noise, b ≠ sof) :
    scanner.run noise = ([], []) := by
  have ended := scanner_run_noise noise [] quiet
  rwa [List.append_nil, run_empty] at ended

/-- The beginning of an accepted frame is kept until the rest of it arrives. -/
theorem run_unfinished {raw : Bytes} {frame : RFIDFrame} (h : parseFrame raw = .ok frame)
    {part : Bytes} (begun : part <+: raw) (short : part.length < raw.length) :
    scanner.run part = ([], part) := by
  by_cases waits : scanner.judge part = .wait
  · exact scanner.run_wait waits
  · obtain ⟨rest, rfl⟩ := begun
    have whole : FrameStreamDecoder.judge (part ++ rest) = .emit (part ++ rest).length frame := by
      have accepted := judge_accepted h []
      rwa [List.append_nil] at accepted
    have early := judge_settled part rest waits
    rw [whole] at early
    have inside := (judge_emit early.symm).2.2.1
    omega

theorem run_segment (segment : Segment) (more : Bytes) :
    scanner.run (segment.bytes ++ more) =
      (segment.frame :: (scanner.run more).1, (scanner.run more).2) := by
  rw [Segment.bytes, List.append_assoc, scanner_run_noise _ _ segment.quiet,
    run_accepted segment.parsed]

theorem run_segments (segments : List Segment) (more : Bytes) :
    scanner.run (segments.flatMap Segment.bytes ++ more) =
      (segments.map Segment.frame ++ (scanner.run more).1, (scanner.run more).2) := by
  induction segments with
  | nil => rfl
  | cons segment segments ih =>
      rw [List.flatMap_cons, List.append_assoc, run_segment, ih, List.map_cons]
      rfl

/-- A part of a stream that ends inside a segment completes no frame of it. -/
theorem run_inside_segment (segment : Segment) {part : Bytes} (begun : part <+: segment.bytes)
    (short : part.length < segment.bytes.length) : (scanner.run part).1 = [] := by
  rw [Segment.bytes] at begun short
  by_cases inNoise : part.length ≤ segment.noise.length
  · have noise : part <+: segment.noise :=
      List.prefix_of_prefix_length_le begun (List.prefix_append _ _) inNoise
    rw [run_quiet fun b member => segment.quiet b (noise.subset member)]
  · have passed : segment.noise <+: part :=
      List.prefix_of_prefix_length_le (List.prefix_append _ _) begun (by omega)
    obtain ⟨begunFrame, rfl⟩ := passed
    rw [List.prefix_append_right_inj] at begun
    rw [List.length_append, List.length_append] at short
    rw [scanner_run_noise _ _ segment.quiet]
    rw [run_unfinished segment.parsed begun (by omega)]

theorem run_begun (segments : List Segment) {tail part : Bytes} (quiet : ∀ b ∈ tail, b ≠ sof)
    (begun : part <+: segments.flatMap Segment.bytes ++ tail) :
    (scanner.run part).1 = Segment.completed segments part.length := by
  induction segments generalizing part with
  | nil =>
      rw [List.flatMap_nil, List.nil_append] at begun
      rw [run_quiet fun b member => quiet b (begun.subset member)]
      rfl
  | cons segment segments ih =>
      rw [List.flatMap_cons, List.append_assoc] at begun
      rw [Segment.completed]
      by_cases complete : segment.bytes.length ≤ part.length
      · have passed : segment.bytes <+: part :=
          List.prefix_of_prefix_length_le (List.prefix_append _ _) begun complete
        obtain ⟨more, rfl⟩ := passed
        rw [List.prefix_append_right_inj] at begun
        rw [if_pos complete, run_segment, ih begun, List.length_append, Nat.add_sub_cancel_left]
      · rw [if_neg complete]
        have inside : part <+: segment.bytes :=
          List.prefix_of_prefix_length_le begun (List.prefix_append _ _) (by omega)
        exact run_inside_segment segment inside (by omega)

/-- A stream of built frames with noise before, between and after them, in any
chunks: after every chunk the emitted frames are those whose last byte has been
fed, and after the whole stream they are all emitted and nothing is pending. -/
theorem clean_stream (segments : List Segment) (tail : Bytes) (quiet : ∀ b ∈ tail, b ≠ sof)
    (chunks : List Bytes) (begun : chunks.flatten <+: segments.flatMap Segment.bytes ++ tail) :
    (feedAll {} chunks).1 = Segment.completed segments chunks.flatten.length ∧
    (chunks.flatten = segments.flatMap Segment.bytes ++ tail →
      (feedAll {} chunks).1 = segments.map Segment.frame ∧
        (feedAll {} chunks).2.pendingBytes = []) := by
  rw [feedAll_fresh]
  refine ⟨run_begun segments quiet begun, fun whole => ?_⟩
  rw [whole, run_segments, run_quiet quiet, List.append_nil]
  exact ⟨rfl, rfl⟩

/-- The word "noise", a handshake cut in two chunks and a byte after it. -/
theorem clean_stream_handshake :
    (feedAll {} [[0x6E, 0x6F, 0x69, 0x73, 0x65, 254, 0, 9], [1, 5, 0, 0, 217, 230, 7]]).1 =
        [⟨1, 5, 0, 0, [], [254, 0, 9, 1, 5, 0, 0, 217, 230]⟩] ∧
      (feedAll {} [[0x6E, 0x6F, 0x69, 0x73, 0x65, 254, 0, 9],
        [1, 5, 0, 0, 217, 230, 7]]).2.pendingBytes = [] :=
  (clean_stream [⟨[0x6E, 0x6F, 0x69, 0x73, 0x65], ⟨1, 5, 0, [], 0⟩,
    [254, 0, 9, 1, 5, 0, 0, 217, 230], by decide +kernel, by decide +kernel⟩] [7]
    (by decide +kernel)
    [[0x6E, 0x6F, 0x69, 0x73, 0x65, 254, 0, 9], [1, 5, 0, 0, 217, 230, 7]] ⟨[], rfl⟩).2 rfl

end FrameStreamDecoder
end RfidBridge
