import RfidBridge.Library.Scanner
import RfidBridge.Protocol.FrameCodec

/-!
FrameStreamDecoder: the buffer loop of the source and its reading as an
incremental scanner. The loop drops noise up to the next start byte, skips
start bytes with an impossible length or a failing candidate, and waits for the
rest of an incomplete candidate.
-/

namespace RfidBridge

structure FrameStreamDecoder where
  buffer : Bytes := []
  deriving DecidableEq, Repr

namespace FrameStreamDecoder

def pendingBytes (decoder : FrameStreamDecoder) : Bytes := decoder.buffer

/-- The `while self._buffer` loop: the emitted frames and the buffer it leaves. -/
def drain (buffer : Bytes) : List RFIDFrame × Bytes :=
  if _nonempty : buffer = [] then ([], [])
  else
    match _found : buffer.findIdx? (· == sof) with
    | none => ([], [])
    | some sofPosition =>
        if (buffer.drop sofPosition).length < 3 then ([], buffer.drop sofPosition)
        else if declaredLength (buffer.drop sofPosition) < minFrameLength ∨
            declaredLength (buffer.drop sofPosition) > maxFrameLength then
          drain ((buffer.drop sofPosition).drop 1)
        else if (buffer.drop sofPosition).length <
            declaredLength (buffer.drop sofPosition) then
          ([], buffer.drop sofPosition)
        else
          match _parsed : parseFrame ((buffer.drop sofPosition).take
              (declaredLength (buffer.drop sofPosition))) with
          | .error _ => drain ((buffer.drop sofPosition).drop 1)
          | .ok frame =>
              (frame :: (drain ((buffer.drop sofPosition).drop
                  (declaredLength (buffer.drop sofPosition)))).1,
                (drain ((buffer.drop sofPosition).drop
                  (declaredLength (buffer.drop sofPosition)))).2)
termination_by buffer.length
decreasing_by
  all_goals
    have := List.length_pos_iff.mpr _nonempty
    simp only [List.length_drop, minFrameLength] at *
    omega

/-- One call of `feed`: the frames it returns and the decoder after it. -/
def feed (decoder : FrameStreamDecoder) (data : Bytes) : List RFIDFrame × FrameStreamDecoder :=
  ((drain (decoder.buffer ++ data)).1, ⟨(drain (decoder.buffer ++ data)).2⟩)

/-- Calls of `feed` one after another, with all their frames in order. -/
def feedAll (decoder : FrameStreamDecoder) : List Bytes → List RFIDFrame × FrameStreamDecoder
  | [] => ([], decoder)
  | chunk :: chunks =>
      ((decoder.feed chunk).1 ++ (feedAll (decoder.feed chunk).2 chunks).1,
        (feedAll (decoder.feed chunk).2 chunks).2)

/-- The decision about a buffer that starts a frame and holds its length field. -/
def judgeCandidate (buffer : Bytes) : Verdict RFIDFrame :=
  if declaredLength buffer < minFrameLength then .skip 1
  else if buffer.length < declaredLength buffer then .wait
  else
    match parseFrame (buffer.take (declaredLength buffer)) with
    | .error _ => .skip 1
    | .ok frame => .emit (declaredLength buffer) frame

/-- The loop body as a judgement about the whole buffer, taking noise one byte
at a time. -/
def judge : Bytes → Verdict RFIDFrame
  | [] => .wait
  | b :: bytes =>
      if b ≠ sof then .skip 1
      else if (b :: bytes).length < 3 then .wait
      else judgeCandidate (b :: bytes)

theorem declaredLength_append (buffer more : Bytes) (h : 3 ≤ buffer.length) :
    declaredLength (buffer ++ more) = declaredLength buffer := by
  unfold declaredLength
  rw [List.drop_append_of_le_length (by omega),
    List.take_append_of_le_length (by simp only [List.length_drop]; omega)]

theorem declaredLength_le (buffer : Bytes) : declaredLength buffer ≤ maxFrameLength := by
  have bound := BigEndian.decode_lt ((buffer.drop 1).take 2)
  have power : 256 ^ ((buffer.drop 1).take 2).length ≤ 256 ^ 2 :=
    Nat.pow_le_pow_right (by decide) (by simp)
  unfold declaredLength maxFrameLength
  omega

theorem judgeCandidate_skip {buffer : Bytes} {n : Nat} (h : judgeCandidate buffer = .skip n) :
    n = 1 := by
  unfold judgeCandidate at h
  repeat' split at h
  all_goals cases h
  all_goals rfl

theorem judgeCandidate_emit {buffer : Bytes} {n : Nat} {frame : RFIDFrame}
    (h : judgeCandidate buffer = .emit n frame) :
    n = declaredLength buffer ∧ minFrameLength ≤ n ∧ n ≤ buffer.length ∧
      parseFrame (buffer.take n) = .ok frame := by
  unfold judgeCandidate at h
  split at h
  · cases h
  · rename_i tooShort
    split at h
    · cases h
    · rename_i complete
      split at h
      · cases h
      · rename_i parsed
        cases h
        exact ⟨rfl, Nat.le_of_not_lt tooShort, Nat.le_of_not_lt complete, parsed⟩

theorem judgeCandidate_settled (buffer more : Bytes) (h : 3 ≤ buffer.length)
    (decided : judgeCandidate buffer ≠ .wait) :
    judgeCandidate (buffer ++ more) = judgeCandidate buffer := by
  unfold judgeCandidate at decided ⊢
  rw [declaredLength_append buffer more h]
  by_cases tooShort : declaredLength buffer < minFrameLength
  · simp only [if_pos tooShort]
  · rw [if_neg tooShort] at decided
    by_cases complete : buffer.length < declaredLength buffer
    · exact absurd (if_pos complete) decided
    · have still : ¬ (buffer ++ more).length < declaredLength buffer := by
        simp only [List.length_append]; omega
      rw [if_neg tooShort, if_neg tooShort, if_neg complete, if_neg still,
        List.take_append_of_le_length (Nat.le_of_not_lt complete)]

theorem judge_noise {b : UInt8} (bytes : Bytes) (h : b ≠ sof) : judge (b :: bytes) = .skip 1 := by
  simp [judge, h]

theorem judge_start (bytes : Bytes) :
    judge (sof :: bytes) =
      if (sof :: bytes).length < 3 then .wait else judgeCandidate (sof :: bytes) := by
  simp only [judge, ne_eq, not_true_eq_false, if_false]

/-- Every decision but waiting is the decision on the whole stream. -/
theorem judge_settled (buffer more : Bytes) (h : judge buffer ≠ .wait) :
    judge (buffer ++ more) = judge buffer := by
  match buffer with
  | [] => exact absurd rfl h
  | b :: bytes =>
    by_cases start : b = sof
    · subst start
      rw [List.cons_append, judge_start, judge_start]
      rw [judge_start] at h
      by_cases short : (sof :: bytes).length < 3
      · exact absurd (if_pos short) h
      · rw [if_neg short] at h ⊢
        rw [if_neg (by simp only [List.length_cons, List.length_append] at short ⊢; omega)]
        exact judgeCandidate_settled (sof :: bytes) more (Nat.le_of_not_lt short) h
    · rw [List.cons_append, judge_noise _ start, judge_noise _ start]

theorem judge_skip {buffer : Bytes} {n : Nat} (h : judge buffer = .skip n) :
    n = 1 ∧ buffer ≠ [] := by
  match buffer with
  | [] => cases h
  | b :: bytes =>
    refine ⟨?_, List.cons_ne_nil _ _⟩
    simp only [judge] at h
    split at h
    · cases h; rfl
    · split at h
      · cases h
      · exact judgeCandidate_skip h

theorem judge_emit {buffer : Bytes} {n : Nat} {frame : RFIDFrame}
    (h : judge buffer = .emit n frame) :
    n = declaredLength buffer ∧ minFrameLength ≤ n ∧ n ≤ buffer.length ∧
      parseFrame (buffer.take n) = .ok frame := by
  match buffer with
  | [] => cases h
  | b :: bytes =>
    simp only [judge] at h
    split at h
    · cases h
    · split at h
      · cases h
      · exact judgeCandidate_emit h

/-- The decoder as an incremental scanner. -/
def scanner : Scanner UInt8 RFIDFrame where
  judge := judge
  skip_bounds buffer n h := by
    obtain ⟨rfl, nonempty⟩ := judge_skip h
    exact ⟨Nat.one_pos, List.length_pos_iff.mpr nonempty⟩
  emit_bounds buffer n frame h := by
    obtain ⟨-, positive, bound, -⟩ := judge_emit h
    exact ⟨Nat.lt_of_lt_of_le (by decide) positive, bound⟩
  settled := judge_settled

theorem scanner_run_noise (noise rest : Bytes) (h : ∀ b ∈ noise, b ≠ sof) :
    scanner.run (noise ++ rest) = scanner.run rest := by
  induction noise with
  | nil => rfl
  | cons b noise ih =>
      have skip : scanner.judge (b :: (noise ++ rest)) = .skip 1 :=
        judge_noise _ (h b (List.mem_cons_self ..))
      rw [List.cons_append, scanner.run_skip skip, List.drop_one, List.tail_cons,
        ih fun c hc => h c (List.mem_cons_of_mem b hc)]

/-- The bytes before the first start byte are noise, and the rest starts with it. -/
theorem findIdx_split {buffer : Bytes} {position : Nat}
    (h : buffer.findIdx? (· == sof) = some position) :
    (∀ b ∈ buffer.take position, b ≠ sof) ∧
      ∃ bytes, buffer.drop position = sof :: bytes := by
  obtain ⟨bound, start, before⟩ := List.findIdx?_eq_some_iff_getElem.mp h
  constructor
  · intro b hb
    obtain ⟨i, hi, rfl⟩ := List.mem_take_iff_getElem.mp hb
    simpa using before i (by omega)
  · refine ⟨buffer.drop (position + 1), ?_⟩
    rw [List.drop_eq_getElem_cons bound, beq_iff_eq.mp start]

theorem scanner_run_drop {buffer : Bytes} {position : Nat}
    (h : buffer.findIdx? (· == sof) = some position) :
    scanner.run buffer = scanner.run (buffer.drop position) := by
  conv_lhs => rw [← List.take_append_drop position buffer]
  exact scanner_run_noise _ _ (findIdx_split h).1

theorem drain_no_start {buffer : Bytes} (h : buffer.findIdx? (· == sof) = none) :
    drain buffer = ([], []) := by
  rw [drain]
  split
  · rfl
  · split <;> simp_all

/-- One round of the loop, after the noise before the start byte is deleted. -/
theorem drain_at_start {buffer : Bytes} {position : Nat}
    (h : buffer.findIdx? (· == sof) = some position) :
    drain buffer =
      match judge (buffer.drop position) with
      | .wait => ([], buffer.drop position)
      | .skip n => drain ((buffer.drop position).drop n)
      | .emit n frame =>
          (frame :: (drain ((buffer.drop position).drop n)).1,
            (drain ((buffer.drop position).drop n)).2) := by
  obtain ⟨-, bytes, start⟩ := findIdx_split h
  have nonempty : buffer ≠ [] := by rintro rfl; simp at h
  have largest := declaredLength_le (sof :: bytes)
  have notAbove : ¬ declaredLength (sof :: bytes) > maxFrameLength := Nat.not_lt.mpr largest
  rw [drain, dif_neg nonempty]
  split
  · simp_all
  · rename_i position' found
    cases h.symm.trans found
    rw [start, judge_start]
    by_cases short : (sof :: bytes).length < 3
    · rw [if_pos short, if_pos short]
    · rw [if_neg short, if_neg short]
      unfold judgeCandidate
      by_cases tooShort : declaredLength (sof :: bytes) < minFrameLength
      · rw [if_pos (Or.inl tooShort), if_pos tooShort]
      · rw [if_neg (not_or.mpr ⟨tooShort, notAbove⟩), if_neg tooShort]
        by_cases complete : (sof :: bytes).length < declaredLength (sof :: bytes)
        · rw [if_pos complete, if_pos complete]
        · rw [if_neg complete, if_neg complete]
          split <;> rename_i parsed <;> simp only [parsed]

/-- The source loop computes the scan. -/
theorem drain_eq_run (buffer : Bytes) : drain buffer = scanner.run buffer := by
  induction hl : buffer.length using Nat.strong_induction_on generalizing buffer with
  | h length ih =>
    subst hl
    cases found : buffer.findIdx? (· == sof) with
    | none =>
        have noise : ∀ b ∈ buffer, b ≠ sof := by simpa using found
        have ended := scanner_run_noise buffer [] noise
        have empty : scanner.run [] = ([], []) := scanner.run_wait rfl
        rw [List.append_nil, empty] at ended
        rw [drain_no_start found, ended]
    | some position =>
        rw [drain_at_start found, scanner_run_drop found]
        have shorter : (buffer.drop position).length ≤ buffer.length := by simp
        cases verdict : judge (buffer.drop position) with
        | wait => exact (scanner.run_wait verdict).symm
        | skip n =>
            have bounds := scanner.skip_bounds _ _ verdict
            rw [scanner.run_skip verdict]
            exact ih _ (by simp only [List.length_drop] at *; omega) _ rfl
        | emit n frame =>
            have bounds := scanner.emit_bounds _ _ _ verdict
            have rest := ih _ (by simp only [List.length_drop] at *; omega)
              ((buffer.drop position).drop n) rfl
            rw [scanner.run_emit verdict]
            simp only [rest]

/-- The buffer between feeds holds nothing the scanner would act on. -/
def Waiting (decoder : FrameStreamDecoder) : Prop := judge decoder.buffer = .wait

theorem feed_eq_run (decoder : FrameStreamDecoder) (data : Bytes) :
    decoder.feed data = ((scanner.run (decoder.buffer ++ data)).1,
      ⟨(scanner.run (decoder.buffer ++ data)).2⟩) := by
  simp only [feed, drain_eq_run]

theorem feedAll_eq_feeds (decoder : FrameStreamDecoder) (chunks : List Bytes) :
    decoder.feedAll chunks = ((scanner.feeds decoder.buffer chunks).1,
      ⟨(scanner.feeds decoder.buffer chunks).2⟩) := by
  induction chunks generalizing decoder with
  | nil => rfl
  | cons chunk chunks ih => simp only [feedAll, ih, feed_eq_run, Scanner.feeds]

theorem waiting_feed (decoder : FrameStreamDecoder) (data : Bytes) :
    (decoder.feed data).2.Waiting := by
  rw [feed_eq_run]
  exact scanner.judge_run_rest _

theorem waiting_feedAll (decoder : FrameStreamDecoder) (chunks : List Bytes)
    (h : decoder.Waiting) : (decoder.feedAll chunks).2.Waiting := by
  induction chunks generalizing decoder with
  | nil => exact h
  | cons chunk chunks ih => exact ih _ (waiting_feed decoder chunk)

/-- Whatever was fed before, the frames and the pending bytes depend on the
bytes fed and not on their chunks. -/
theorem feedAll_chunking (history chunks : List Bytes) :
    let decoder := (feedAll {} history).2
    (decoder.feedAll chunks).1 = (decoder.feed chunks.flatten).1 ∧
      (decoder.feedAll chunks).2.pendingBytes = (decoder.feed chunks.flatten).2.pendingBytes := by
  intro decoder
  have waiting : scanner.judge decoder.buffer = .wait := waiting_feedAll {} history rfl
  rw [feedAll_eq_feeds, scanner.feeds_eq_run _ _ waiting, feed_eq_run]
  exact ⟨rfl, rfl⟩

end FrameStreamDecoder
end RfidBridge
