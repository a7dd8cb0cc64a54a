import RfidBridge.Protocol.Resynchronisation

/-!
Recovery after a corrupt frame. The decoder drops the corrupt start byte and
looks for the next frame inside the corrupt bytes, so a start byte among them
that declares a length beyond the input makes it wait and hold back what follows.
-/

namespace RfidBridge
namespace FrameStreamDecoder

/-- A start byte whose declared length is possible and reaches past the stream. -/
def HoldsBack (stream : Bytes) (position : Nat) : Prop :=
  stream[position]? = some sof ∧ minFrameLength ≤ declaredLength (stream.drop position) ∧
    stream.length < position + declaredLength (stream.drop position)

instance (stream : Bytes) (position : Nat) : Decidable (HoldsBack stream position) :=
  inferInstanceAs (Decidable (_ ∧ _))

theorem judge_wait_iff {stream : Bytes} {position : Nat} (room : position + 3 ≤ stream.length) :
    FrameStreamDecoder.judge (stream.drop position) = .wait ↔ HoldsBack stream position := by
  have inside : position < stream.length := by omega
  have length : (stream.drop position).length = stream.length - position := List.length_drop
  rw [HoldsBack, List.getElem?_eq_getElem inside]
  rw [List.drop_eq_getElem_cons inside] at length ⊢
  by_cases start : stream[position] = sof
  · rw [start] at length ⊢
    rw [judge_start, if_neg (by omega), judgeCandidate]
    by_cases tooShort : declaredLength (sof :: stream.drop (position + 1)) < minFrameLength
    · rw [if_pos tooShort]
      simp only [reduceCtorEq, false_iff]
      omega
    · rw [if_neg tooShort]
      by_cases incomplete : (sof :: stream.drop (position + 1)).length <
          declaredLength (sof :: stream.drop (position + 1))
      · rw [if_pos incomplete]
        exact iff_of_true rfl ⟨rfl, by omega, by omega⟩
      · rw [if_neg incomplete]
        refine iff_of_false ?_ (by omega)
        split <;> simp
  · rw [judge_noise _ start]
    simp [start]

/-- Where no frame is accepted and nothing is held back, the decoder drops one byte. -/
theorem run_drop_one {stream : Bytes} {position : Nat} (room : position + 3 ≤ stream.length)
    (unaccepted : ∀ frame, ¬ FrameAt stream position frame) (free : ¬ HoldsBack stream position) :
    scanner.run (stream.drop position) = scanner.run (stream.drop (position + 1)) := by
  cases verdict : FrameStreamDecoder.judge (stream.drop position) with
  | wait => exact absurd ((judge_wait_iff room).mp verdict) free
  | skip n =>
      cases (judge_skip verdict).1
      rw [scanner.run_skip verdict, List.drop_drop]
  | emit n frame => exact absurd (frameAt_of_judge verdict).2 (unaccepted frame)

/-- Bytes in which no frame is accepted are dropped when nothing in them holds
the decoder back; otherwise it waits among them. -/
theorem run_past (stream : Bytes) (position stop : Nat) (order : position ≤ stop)
    (room : stop + 3 ≤ stream.length)
    (unaccepted : ∀ p, position ≤ p → p < stop → ∀ frame, ¬ FrameAt stream p frame) :
    ((∀ p, position ≤ p → p < stop → ¬ HoldsBack stream p) →
      scanner.run (stream.drop position) = scanner.run (stream.drop stop)) ∧
    ((∃ p, position ≤ p ∧ p < stop ∧ HoldsBack stream p) →
      (scanner.run (stream.drop position)).1 = [] ∧
        (scanner.run (stream.drop position)).2 ≠ []) := by
  induction order using Nat.decreasingInduction with
  | self => exact ⟨fun _ => rfl, fun ⟨p, low, high, _⟩ => by omega⟩
  | of_succ position before ih =>
      have rest := ih fun p low high => unaccepted p (by omega) high
      by_cases held : HoldsBack stream position
      · have waits : scanner.judge (stream.drop position) = .wait :=
          (judge_wait_iff (by omega)).mpr held
        refine ⟨fun free => absurd held (free position (Nat.le_refl _) before), fun _ => ?_⟩
        rw [scanner.run_wait waits]
        refine ⟨rfl, List.ne_nil_of_length_pos ?_⟩
        simp only [List.length_drop]
        omega
      · rw [run_drop_one (by omega) (unaccepted position (Nat.le_refl _) before) held]
        refine ⟨fun free => rest.1 fun p low high => free p (by omega) high, ?_⟩
        intro ⟨p, low, high, waits⟩
        refine rest.2 ⟨p, ?_, high, waits⟩
        rcases Nat.lt_or_eq_of_le low with after | rfl
        · exact after
        · exact absurd waits held

theorem declaredLength_take (buffer : Bytes) :
    declaredLength (buffer.take 3) = declaredLength buffer := by
  simp [declaredLength, List.drop_take, List.take_take]

theorem run_accepted {raw : Bytes} {frame : RFIDFrame} (h : parseFrame raw = .ok frame)
    (more : Bytes) :
    scanner.run (raw ++ more) = (frame :: (scanner.run more).1, (scanner.run more).2) := by
  rw [scanner.run_emit (judge_accepted h more), List.drop_left]

theorem run_empty : scanner.run [] = ([], []) := scanner.run_wait rfl

/-- Whether the decoder would emit a frame at the head of a buffer. -/
def emits (buffer : Bytes) : Bool :=
  match FrameStreamDecoder.judge buffer with
  | .emit _ _ => true
  | _ => false

theorem not_frameAt {stream : Bytes} {position : Nat} (h : emits (stream.drop position) = false)
    (frame : RFIDFrame) : ¬ FrameAt stream position frame := by
  intro present
  rw [emits, present.judge] at h
  cases h

/-- After a frame damaged behind its length field and without an accepted
candidate inside, the next frame is emitted in the same feed, with nothing left
pending, exactly when no start byte inside the damaged bytes declares a possible
length that reaches past the next frame; otherwise that feed emits nothing. -/
theorem corrupt_frame_released_iff (valid corrupt next : Bytes) (validFrame nextFrame : RFIDFrame)
    (accepted : parseFrame valid = .ok validFrame) (sameLength : corrupt.length = valid.length)
    (sameStart : corrupt.take 3 = valid.take 3) (rejected : ∀ frame, parseFrame corrupt ≠ .ok frame)
    (follows : parseFrame next = .ok nextFrame)
    (unaccepted : ∀ position, 0 < position → position < corrupt.length →
      ∀ frame, ¬ FrameAt (corrupt ++ next) position frame) :
    (((feed {} (corrupt ++ next)).1 = [nextFrame] ∧
        (feed {} (corrupt ++ next)).2.pendingBytes = []) ↔
      ∀ position, 0 < position → position < corrupt.length →
        ¬ HoldsBack (corrupt ++ next) position) ∧
    ((∃ position, 0 < position ∧ position < corrupt.length ∧
        HoldsBack (corrupt ++ next) position) →
      (feed {} (corrupt ++ next)).1 = []) := by
  have bounds := (parseFrame_eq_ok_iff valid validFrame).mp accepted
  have nextBounds := (parseFrame_eq_ok_iff next nextFrame).mp follows
  simp only [minFrameLength] at bounds nextBounds
  have room : corrupt.length + 3 ≤ (corrupt ++ next).length := by
    rw [List.length_append]
    omega
  have declared : declaredLength (corrupt ++ next) = corrupt.length := by
    rw [declaredLength_append _ _ (by omega), ← declaredLength_take corrupt, sameStart,
      declaredLength_take, bounds.2.2.1, sameLength]
  have startRejected : ∀ frame, ¬ FrameAt (corrupt ++ next) 0 frame := by
    intro frame present
    obtain ⟨whole, -, -, parsed⟩ := judge_emit present.judge
    rw [List.drop_zero, declared] at whole
    rw [List.drop_zero, whole, List.take_left] at parsed
    exact rejected frame parsed
  have startFree : ¬ HoldsBack (corrupt ++ next) 0 := by
    rw [HoldsBack, List.drop_zero, declared]
    omega
  have past := run_past (corrupt ++ next) 0 corrupt.length (Nat.zero_le _) room (by
    intro position _ inside
    cases position with
    | zero => exact startRejected
    | succ position => exact unaccepted _ (Nat.succ_pos _) inside)
  have reached : scanner.run ((corrupt ++ next).drop corrupt.length) = ([nextFrame], []) := by
    have alone := run_accepted follows []
    rw [List.append_nil, run_empty] at alone
    rw [List.drop_left, alone]
  have fed : feed {} (corrupt ++ next) = ((scanner.run (corrupt ++ next)).1,
      ⟨(scanner.run (corrupt ++ next)).2⟩) := feed_eq_run {} _
  rw [fed]
  rw [List.drop_zero] at past
  have waits : (∃ position, 0 < position ∧ position < corrupt.length ∧
      HoldsBack (corrupt ++ next) position) → (scanner.run (corrupt ++ next)).1 = [] := by
    rintro ⟨position, -, inside, held⟩
    exact (past.2 ⟨position, Nat.zero_le _, inside, held⟩).1
  refine ⟨⟨?_, ?_⟩, waits⟩
  · rintro ⟨emitted, -⟩ position positive inside held
    have nothing := waits ⟨position, positive, inside, held⟩
    rw [emitted] at nothing
    cases nothing
  · intro free
    have released := past.1 (by
      intro position _ inside
      cases position with
      | zero => exact startFree
      | succ position => exact free _ (Nat.succ_pos _) inside)
    rw [released, reached]
    exact ⟨rfl, rfl⟩

/-- The frames of the recovery test: a handshake with a damaged CRC and the next one. -/
theorem corrupt_frame_released_iff_handshake :
    (feed {} [254, 0, 9, 1, 7, 0, 0, 183, 135, 254, 0, 9, 1, 8, 0, 0, 155, 183]).1 =
        [⟨1, 8, 0, 0, [], [254, 0, 9, 1, 8, 0, 0, 155, 183]⟩] ∧
      (feed {} [254, 0, 9, 1, 7, 0, 0, 183, 135, 254, 0, 9, 1, 8, 0, 0, 155, 183]).2.pendingBytes =
        [] := by
  have free : ∀ position < 9, 0 < position → ¬ HoldsBack
      [254, 0, 9, 1, 7, 0, 0, 183, 135, 254, 0, 9, 1, 8, 0, 0, 155, 183] position := by
    decide +kernel
  have unaccepted : ∀ position < 9, 0 < position → emits (List.drop position
      [254, 0, 9, 1, 7, 0, 0, 183, 135, 254, 0, 9, 1, 8, 0, 0, 155, 183]) = false := by
    decide +kernel
  refine (corrupt_frame_released_iff [254, 0, 9, 1, 7, 0, 0, 183, 134]
    [254, 0, 9, 1, 7, 0, 0, 183, 135] [254, 0, 9, 1, 8, 0, 0, 155, 183]
    ⟨1, 7, 0, 0, [], [254, 0, 9, 1, 7, 0, 0, 183, 134]⟩
    ⟨1, 8, 0, 0, [], [254, 0, 9, 1, 8, 0, 0, 155, 183]⟩
    (by decide +kernel) rfl rfl ?_ (by decide +kernel) ?_).1.mpr ?_
  · intro frame parsed
    have error : (parseFrame [254, 0, 9, 1, 7, 0, 0, 183, 135]).toOption = none := by
      decide +kernel
    rw [parsed] at error
    cases error
  · exact fun position positive inside => not_frameAt (unaccepted position inside positive)
  · exact fun position positive inside => free position inside positive

/-- A tag frame whose payload holds the bytes FE 01 00, damaged in its CRC: the decoder
takes them for the start of a frame of 256 bytes and keeps the handshake after it. -/
theorem corrupt_frame_holds_back_next :
    ∃ (valid corrupt next : Bytes) (validFrame nextFrame : RFIDFrame),
      parseFrame valid = .ok validFrame ∧ corrupt.length = valid.length ∧
      corrupt.take 3 = valid.take 3 ∧ (∀ frame, parseFrame corrupt ≠ .ok frame) ∧
      parseFrame next = .ok nextFrame ∧
      (∀ position, 0 < position → position < corrupt.length →
        ∀ frame, ¬ FrameAt (corrupt ++ next) position frame) ∧
      (feed {} (corrupt ++ next)).1 = [] ∧
      (feed {} (corrupt ++ next)).2.pendingBytes =
        [254, 1, 0, 157, 167, 254, 0, 9, 1, 8, 0, 0, 155, 183] := by
  refine ⟨[254, 0, 12, 1, 2, 249, 0, 254, 1, 0, 157, 166],
    [254, 0, 12, 1, 2, 249, 0, 254, 1, 0, 157, 167], [254, 0, 9, 1, 8, 0, 0, 155, 183],
    ⟨1, 2, 249, 0, [254, 1, 0], [254, 0, 12, 1, 2, 249, 0, 254, 1, 0, 157, 166]⟩,
    ⟨1, 8, 0, 0, [], [254, 0, 9, 1, 8, 0, 0, 155, 183]⟩,
    by decide +kernel, rfl, rfl, ?_, by decide +kernel, ?_, by decide +kernel, by decide +kernel⟩
  · intro frame parsed
    have error : (parseFrame [254, 0, 12, 1, 2, 249, 0, 254, 1, 0, 157, 167]).toOption =
        none := by
      decide +kernel
    rw [parsed] at error
    cases error
  · have unaccepted : ∀ position < 12, 0 < position → emits (List.drop position
        [254, 0, 12, 1, 2, 249, 0, 254, 1, 0, 157, 167, 254, 0, 9, 1, 8, 0, 0, 155, 183]) =
          false := by
      decide +kernel
    exact fun position positive inside => not_frameAt (unaccepted position inside positive)

end FrameStreamDecoder
end RfidBridge
