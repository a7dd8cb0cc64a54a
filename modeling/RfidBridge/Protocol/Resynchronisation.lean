import RfidBridge.Protocol.Stream

/-!
What the decoder makes of arbitrary input. Its cursor moves byte by byte except
over emitted frames, and it stops only at a start byte whose declared length
reaches past the input, so a complete frame is reached as soon as the largest
declarable length lies behind it.
-/

namespace RfidBridge
namespace FrameStreamDecoder

/-- One pass of the loop body of `feed`: it leaves the loop, or goes round again
with a shorter buffer and possibly an emitted frame. -/
inductive LoopPass
  | leave (buffer : Bytes)
  | again (emitted : Option RFIDFrame) (buffer : Bytes)

def loopPass (buffer : Bytes) : LoopPass :=
  if buffer = [] then .leave []
  else
    match buffer.findIdx? (· == sof) with
    | none => .leave []
    | some sofPosition =>
        let buffer := buffer.drop sofPosition
        if buffer.length < 3 then .leave buffer
        else if declaredLength buffer < minFrameLength ∨
            declaredLength buffer > maxFrameLength then
          .again none (buffer.drop 1)
        else if buffer.length < declaredLength buffer then .leave buffer
        else
          match parseFrame (buffer.take (declaredLength buffer)) with
          | .error _ => .again none (buffer.drop 1)
          | .ok frame => .again (some frame) (buffer.drop (declaredLength buffer))

/-- The loop with a bound on the number of its passes, `none` when they run out. -/
def drainWithin : Nat → Bytes → Option (List RFIDFrame × Bytes)
  | 0, _ => none
  | passes + 1, buffer =>
      match loopPass buffer with
      | .leave rest => some ([], rest)
      | .again emitted rest =>
          (drainWithin passes rest).map fun drained => (emitted.toList ++ drained.1, drained.2)

theorem length_of_again {buffer rest : Bytes} {emitted : Option RFIDFrame}
    (h : loopPass buffer = .again emitted rest) : rest.length < buffer.length := by
  unfold loopPass at h
  split at h
  · cases h
  · rename_i nonempty
    have positive := List.length_pos_iff.mpr nonempty
    simp only at h
    repeat' split at h
    all_goals cases h
    all_goals
      simp only [List.length_drop, minFrameLength] at *
      omega

theorem drain_eq_pass (buffer : Bytes) :
    drain buffer =
      match loopPass buffer with
      | .leave rest => ([], rest)
      | .again emitted rest => (emitted.toList ++ (drain rest).1, (drain rest).2) := by
  rw [drain]
  unfold loopPass
  split
  · simp_all
  · split <;> rename_i found <;> rw [found]
    dsimp only
    repeat' split
    all_goals simp_all only [LoopPass.leave.injEq, LoopPass.again.injEq, reduceCtorEq]
    all_goals
      rename_i pass
      obtain ⟨rfl, rfl⟩ := pass
      rfl

/-- The loop ends: every pass that goes round again leaves a shorter buffer. -/
theorem drainWithin_eq (buffer : Bytes) (passes : Nat) (enough : buffer.length < passes) :
    drainWithin passes buffer = some (drain buffer) := by
  induction passes generalizing buffer with
  | zero => omega
  | succ passes ih =>
      rw [drainWithin, drain_eq_pass]
      cases pass : loopPass buffer with
      | leave rest => rfl
      | again emitted rest =>
          have shorter := length_of_again pass
          dsimp only
          rw [ih rest (by omega)]
          rfl

/-- The complete bytes of an accepted frame at a position of a stream. -/
structure FrameAt (stream : Bytes) (position : Nat) (frame : RFIDFrame) : Prop where
  here : frame.rawFrame <+: stream.drop position
  accepted : parseFrame frame.rawFrame = .ok frame

theorem judge_accepted {raw : Bytes} {frame : RFIDFrame} (h : parseFrame raw = .ok frame)
    (more : Bytes) : judge (raw ++ more) = .emit raw.length frame := by
  obtain ⟨long, start, declared, -⟩ := (parseFrame_eq_ok_iff raw frame).mp h
  simp only [minFrameLength] at long
  have alone : judge raw = .emit raw.length frame := by
    cases raw with
    | nil => simp at long
    | cons b bytes =>
        have first : b = sof := by simpa using start
        subst first
        rw [judge_start, if_neg (by omega), judgeCandidate, declared,
          if_neg (by simp only [minFrameLength]; omega), if_neg (Nat.lt_irrefl _), List.take_length]
        simp only [h]
  rw [judge_settled raw more (by rw [alone]; simp), alone]

theorem FrameAt.judge {stream : Bytes} {position : Nat} {frame : RFIDFrame}
    (h : FrameAt stream position frame) :
    judge (stream.drop position) = .emit frame.rawFrame.length frame := by
  obtain ⟨more, same⟩ := h.here
  rw [← same]
  exact judge_accepted h.accepted more

theorem frameAt_of_judge {stream : Bytes} {position n : Nat} {frame : RFIDFrame}
    (h : FrameStreamDecoder.judge (stream.drop position) = .emit n frame) :
    n = frame.rawFrame.length ∧ FrameAt stream position frame := by
  obtain ⟨-, -, short, parsed⟩ := judge_emit h
  have raw := (parseFrame_sound parsed).1
  refine ⟨?_, ?_, ?_⟩
  · rw [raw, List.length_take]
    exact (Nat.min_eq_left short).symm
  · rw [raw]
    exact List.take_prefix n _
  · rw [raw]
    exact parsed

/-- A buffer left to wait begins a frame whose declared length it does not reach. -/
theorem judge_wait {buffer : Bytes} (h : FrameStreamDecoder.judge buffer = .wait) :
    (buffer = [] ∨ buffer.head? = some sof) ∧ buffer.length < maxFrameLength := by
  cases buffer with
  | nil => exact ⟨.inl rfl, by decide⟩
  | cons b bytes =>
      by_cases start : b = sof
      · subst start
        refine ⟨.inr rfl, ?_⟩
        rw [judge_start] at h
        by_cases short : (sof :: bytes).length < 3
        · exact Nat.lt_trans short (by decide)
        · rw [if_neg short, judgeCandidate] at h
          have largest := declaredLength_le (sof :: bytes)
          repeat' split at h
          all_goals cases h
          omega
      · rw [judge_noise bytes start] at h
        cases h

theorem feedAll_fresh (chunks : List Bytes) :
    feedAll {} chunks = ((scanner.run chunks.flatten).1, ⟨(scanner.run chunks.flatten).2⟩) := by
  rw [feedAll_eq_feeds, scanner.feeds_eq_run _ _ rfl]
  rfl

/-- Whatever is fed to a fresh decoder, in whatever chunks: the emitted frames lie
disjoint and in order in the stream, what is pending is the end of the stream, and
a complete frame with the largest declarable length behind its position is emitted
unless an emitted frame covers that position. -/
theorem resynchronisation (chunks : List Bytes) :
    (∃ emitted : List (Nat × RFIDFrame),
      emitted.map Prod.snd = (feedAll {} chunks).1 ∧
      (∀ e ∈ emitted, FrameAt chunks.flatten e.1 e.2) ∧
      emitted.Pairwise (fun e later => e.1 + e.2.rawFrame.length ≤ later.1) ∧
      (∃ before, chunks.flatten = before ++ (feedAll {} chunks).2.pendingBytes ∧
        ∀ e ∈ emitted, e.1 + e.2.rawFrame.length ≤ before.length) ∧
      ∀ position frame, FrameAt chunks.flatten position frame →
        65535 ≤ (chunks.flatten.drop position).length →
        (position, frame) ∈ emitted ∨
          ∃ e ∈ emitted, e.1 < position ∧ position < e.1 + e.2.rawFrame.length) ∧
    ((feedAll {} chunks).2.pendingBytes = [] ∨
      (feedAll {} chunks).2.pendingBytes.head? = some sof) ∧
    (feedAll {} chunks).2.pendingBytes.length < 65535 ∧
    ∀ buffer, drainWithin (buffer.length + 1) buffer = some (drain buffer) := by
  have waits := judge_wait (scanner.judge_run_rest chunks.flatten)
  have inStream : ∀ mark ∈ scanner.marks 0 chunks.flatten,
      mark.length = mark.value.rawFrame.length ∧
        FrameAt chunks.flatten mark.start mark.value := by
    intro mark member
    have found := (scanner.judge_of_mem_marks member).2.1
    rw [Nat.sub_zero] at found
    exact frameAt_of_judge found
  obtain ⟨before, split⟩ := scanner.rest_suffix chunks.flatten
  rw [feedAll_fresh]
  refine ⟨⟨(scanner.marks 0 chunks.flatten).map fun mark => (mark.start, mark.value),
    ?_, ?_, ?_, ⟨before, split.symm, ?_⟩, ?_⟩, waits.1, waits.2,
    fun buffer => drainWithin_eq buffer _ (Nat.lt_succ_self _)⟩
  · rw [List.map_map]
    exact scanner.marks_values 0 chunks.flatten
  · intro e member
    obtain ⟨mark, inside, rfl⟩ := List.mem_map.mp member
    exact (inStream mark inside).2
  · rw [List.pairwise_map]
    refine (scanner.marks_ordered 0 chunks.flatten).imp_of_mem ?_
    intro mark later member _ ordered
    rwa [← (inStream mark member).1]
  · intro e member
    obtain ⟨mark, inside, rfl⟩ := List.mem_map.mp member
    have read := (scanner.judge_of_mem_marks inside).2.2
    have lengths := congrArg List.length split
    rw [List.length_append] at lengths
    dsimp only
    rw [← (inStream mark inside).1]
    omega
  · intro position frame present enough
    have reached := scanner.mem_marks_or_covered (fun _ _ h => (judge_skip h).1) 0
      chunks.flatten position _ frame present.judge
    rw [Nat.zero_add] at reached
    rcases reached with here | ⟨mark, member, starts, covers⟩ | early
    · exact .inl (List.mem_map.mpr ⟨_, here, rfl⟩)
    · refine .inr ⟨_, List.mem_map.mpr ⟨mark, member, rfl⟩, starts, ?_⟩
      rwa [← (inStream mark member).1]
    · -- The scan would wait before the position with too long a buffer.
      have pending := waits.2
      rw [List.length_drop] at enough
      simp only [maxFrameLength] at pending
      omega

end FrameStreamDecoder
end RfidBridge
