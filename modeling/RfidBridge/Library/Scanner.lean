import Mathlib.Data.List.Basic

/-!
Incremental scanners. A scanner judges a buffer: it waits for more input, or it
consumes a positive number of items and possibly delivers a value. When every
decision other than waiting survives any later input, the values delivered for
a stream do not depend on the way the stream is cut into pieces.
-/

universe u v

inductive Verdict (φ : Type v)
  | wait
  | skip (n : Nat)
  | emit (n : Nat) (value : φ)

/-- A judgement whose decisions make progress and are final. -/
structure Scanner (β : Type u) (φ : Type v) where
  judge : List β → Verdict φ
  skip_bounds : ∀ buffer n, judge buffer = .skip n → 0 < n ∧ n ≤ buffer.length
  emit_bounds : ∀ buffer n value, judge buffer = .emit n value → 0 < n ∧ n ≤ buffer.length
  settled : ∀ buffer more, judge buffer ≠ .wait → judge (buffer ++ more) = judge buffer

namespace Scanner
variable {β : Type u} {φ : Type v} (S : Scanner β φ)

/-- Scan until the scanner waits: the delivered values and the unread rest. -/
def run (buffer : List β) : List φ × List β :=
  match _h : S.judge buffer with
  | .wait => ([], buffer)
  | .skip n => run (buffer.drop n)
  | .emit n value => (value :: (run (buffer.drop n)).1, (run (buffer.drop n)).2)
termination_by buffer.length
decreasing_by
  · have := S.skip_bounds buffer n _h
    simp only [List.length_drop]; omega
  all_goals
    have := S.emit_bounds buffer n value _h
    simp only [List.length_drop]; omega

theorem run_wait {buffer : List β} (h : S.judge buffer = .wait) :
    S.run buffer = ([], buffer) := by
  rw [run]; split <;> simp_all

theorem run_skip {buffer : List β} {n : Nat} (h : S.judge buffer = .skip n) :
    S.run buffer = S.run (buffer.drop n) := by
  rw [run]; split <;> simp_all

theorem run_emit {buffer : List β} {n : Nat} {value : φ} (h : S.judge buffer = .emit n value) :
    S.run buffer = (value :: (S.run (buffer.drop n)).1, (S.run (buffer.drop n)).2) := by
  rw [run]; split <;> simp_all

/-- The recursion of `run` as an induction principle over buffers. -/
theorem run_induction {motive : List β → Prop}
    (wait : ∀ buffer, S.judge buffer = .wait → motive buffer)
    (skip : ∀ buffer n, S.judge buffer = .skip n → motive (buffer.drop n) → motive buffer)
    (emit : ∀ buffer n value, S.judge buffer = .emit n value →
      motive (buffer.drop n) → motive buffer)
    (buffer : List β) : motive buffer := by
  induction buffer using run.induct S with
  | case1 buffer h => exact wait buffer h
  | case2 buffer n h ih => exact skip buffer n h ih
  | case3 buffer n value h ih => exact emit buffer n value h ih

/-- The rest left by a scan is one on which the scanner waits. -/
theorem judge_run_rest (buffer : List β) : S.judge (S.run buffer).2 = .wait := by
  induction buffer using S.run_induction with
  | wait buffer h => rwa [S.run_wait h]
  | skip buffer n h ih => rwa [S.run_skip h]
  | emit buffer n value h ih => rwa [S.run_emit h]

theorem run_append (buffer more : List β) :
    S.run (buffer ++ more) =
      ((S.run buffer).1 ++ (S.run ((S.run buffer).2 ++ more)).1,
        (S.run ((S.run buffer).2 ++ more)).2) := by
  induction buffer using S.run_induction with
  | wait buffer h => rw [S.run_wait h]; rfl
  | skip buffer n h ih =>
      have h' : S.judge (buffer ++ more) = .skip n := by
        rw [S.settled buffer more (by simp [h]), h]
      have short := (S.skip_bounds buffer n h).2
      rw [S.run_skip h', S.run_skip h, List.drop_append_of_le_length short, ih]
  | emit buffer n value h ih =>
      have h' : S.judge (buffer ++ more) = .emit n value := by
        rw [S.settled buffer more (by simp [h]), h]
      have short := (S.emit_bounds buffer n value h).2
      rw [S.run_emit h', S.run_emit h, List.drop_append_of_le_length short, ih]
      rfl

/-- Feed pieces one after another, collecting the values of all feeds. -/
def feeds (pending : List β) : List (List β) → List φ × List β
  | [] => ([], pending)
  | piece :: pieces =>
      ((S.run (pending ++ piece)).1 ++ (feeds (S.run (pending ++ piece)).2 pieces).1,
        (feeds (S.run (pending ++ piece)).2 pieces).2)

/-- From a buffer on which the scanner waits, only the concatenation of the
pieces matters. -/
theorem feeds_eq_run (pending : List β) (pieces : List (List β))
    (waiting : S.judge pending = .wait) :
    S.feeds pending pieces = S.run (pending ++ pieces.flatten) := by
  induction pieces generalizing pending with
  | nil => simp [feeds, S.run_wait waiting]
  | cons piece pieces ih =>
      rw [feeds, ih _ (S.judge_run_rest _), List.flatten_cons, ← List.append_assoc,
        S.run_append (pending ++ piece)]

/-- A delivery with the place where it was found: the offset of its first item
and the number of items it consumed. -/
structure Mark (φ : Type v) where
  start : Nat
  length : Nat
  value : φ

/-- The deliveries of a scan whose buffer begins at the given offset. -/
def marks (offset : Nat) (buffer : List β) : List (Mark φ) :=
  match _h : S.judge buffer with
  | .wait => []
  | .skip n => marks (offset + n) (buffer.drop n)
  | .emit n value => ⟨offset, n, value⟩ :: marks (offset + n) (buffer.drop n)
termination_by buffer.length
decreasing_by
  · have := S.skip_bounds buffer n _h
    simp only [List.length_drop]; omega
  · have := S.emit_bounds buffer n value _h
    simp only [List.length_drop]; omega

theorem marks_wait {buffer : List β} (h : S.judge buffer = .wait) (offset : Nat) :
    S.marks offset buffer = [] := by
  rw [marks]; split <;> simp_all

theorem marks_skip {buffer : List β} {n : Nat} (h : S.judge buffer = .skip n) (offset : Nat) :
    S.marks offset buffer = S.marks (offset + n) (buffer.drop n) := by
  rw [marks]; split <;> simp_all

theorem marks_emit {buffer : List β} {n : Nat} {value : φ} (h : S.judge buffer = .emit n value)
    (offset : Nat) :
    S.marks offset buffer = ⟨offset, n, value⟩ :: S.marks (offset + n) (buffer.drop n) := by
  rw [marks]; split <;> simp_all

theorem marks_values (offset : Nat) (buffer : List β) :
    (S.marks offset buffer).map Mark.value = (S.run buffer).1 := by
  induction buffer using S.run_induction generalizing offset with
  | wait buffer h => rw [S.marks_wait h, S.run_wait h]; rfl
  | skip buffer n h ih => rw [S.marks_skip h, S.run_skip h, ih]
  | emit buffer n value h ih => rw [S.marks_emit h, S.run_emit h, List.map_cons, ih]

/-- The unread rest is a suffix of the buffer. -/
theorem rest_suffix (buffer : List β) : (S.run buffer).2 <:+ buffer := by
  induction buffer using S.run_induction with
  | wait buffer h => simpa only [S.run_wait h] using List.suffix_rfl
  | skip buffer n h ih =>
      rw [S.run_skip h]
      exact ih.trans (List.drop_suffix n buffer)
  | emit buffer n value h ih =>
      rw [S.run_emit h]
      exact ih.trans (List.drop_suffix n buffer)

/-- Every mark is a delivery the scanner makes at its place, inside the part of
the buffer that was read. -/
theorem judge_of_mem_marks {offset : Nat} {buffer : List β} {mark : Mark φ}
    (h : mark ∈ S.marks offset buffer) :
    offset ≤ mark.start ∧
      S.judge (buffer.drop (mark.start - offset)) = .emit mark.length mark.value ∧
      mark.start + mark.length + (S.run buffer).2.length ≤ offset + buffer.length := by
  induction buffer using S.run_induction generalizing offset with
  | wait buffer waits => simp [S.marks_wait waits] at h
  | skip buffer n skips ih =>
      rw [S.marks_skip skips] at h
      obtain ⟨after, found, inside⟩ := ih h
      have bounds := S.skip_bounds buffer n skips
      rw [List.drop_drop, show n + (mark.start - (offset + n)) = mark.start - offset by omega]
        at found
      rw [List.length_drop] at inside
      rw [S.run_skip skips]
      exact ⟨by omega, found, by omega⟩
  | emit buffer n value emits ih =>
      have bounds := S.emit_bounds buffer n value emits
      rw [S.run_emit emits]
      rw [S.marks_emit emits] at h
      cases h with
      | head =>
          have rest := (S.rest_suffix (buffer.drop n)).length_le
          rw [List.length_drop] at rest
          exact ⟨Nat.le_refl _, by rwa [Nat.sub_self, List.drop_zero], by dsimp only; omega⟩
      | tail _ later =>
          obtain ⟨after, found, inside⟩ := ih later
          rw [List.drop_drop, show n + (mark.start - (offset + n)) = mark.start - offset by omega]
            at found
          rw [List.length_drop] at inside
          exact ⟨by omega, found, by dsimp only; omega⟩

/-- Deliveries are disjoint and in the order of the buffer. -/
theorem marks_ordered (offset : Nat) (buffer : List β) :
    (S.marks offset buffer).Pairwise fun mark later => mark.start + mark.length ≤ later.start := by
  induction buffer using S.run_induction generalizing offset with
  | wait buffer h => rw [S.marks_wait h]; exact List.Pairwise.nil
  | skip buffer n h ih => rw [S.marks_skip h]; exact ih _
  | emit buffer n value h ih =>
      rw [S.marks_emit h, List.pairwise_cons]
      exact ⟨fun later member => (S.judge_of_mem_marks member).1, ih _⟩

/-- A scanner that drops single items only never steps over a place where it
would deliver: it delivers there, an earlier delivery covers the place, or the
scan waits before it. -/
theorem mem_marks_or_covered (single : ∀ buffer n, S.judge buffer = .skip n → n = 1)
    (offset : Nat) (buffer : List β) (place n : Nat) (value : φ)
    (found : S.judge (buffer.drop place) = .emit n value) :
    ⟨offset + place, n, value⟩ ∈ S.marks offset buffer ∨
      (∃ mark ∈ S.marks offset buffer, mark.start < offset + place ∧
        offset + place < mark.start + mark.length) ∨
      buffer.length < place + (S.run buffer).2.length := by
  induction buffer using S.run_induction generalizing offset place with
  | wait buffer h =>
      rw [S.run_wait h]
      cases place with
      | zero => rw [List.drop_zero, h] at found; cases found
      | succ place => exact .inr (.inr (by dsimp only; omega))
  | skip buffer k h ih =>
      cases single buffer k h
      have bounds := S.skip_bounds buffer 1 h
      rw [S.marks_skip h, S.run_skip h]
      cases place with
      | zero => rw [List.drop_zero, h] at found; cases found
      | succ place =>
          have rest := ih (offset + 1) place (by rwa [List.drop_drop, Nat.add_comm])
          rw [List.length_drop, show offset + 1 + place = offset + (place + 1) by omega] at rest
          rcases rest with here | covered | waits
          · exact .inl here
          · exact .inr (.inl covered)
          · exact .inr (.inr (by omega))
  | emit buffer k first h ih =>
      have bounds := S.emit_bounds buffer k first h
      rw [S.marks_emit h, S.run_emit h]
      by_cases start : place = 0
      · subst start
        rw [List.drop_zero, h] at found
        cases found
        exact .inl (List.mem_cons_self ..)
      · by_cases inside : place < k
        · refine .inr (.inl ⟨⟨offset, k, first⟩, List.mem_cons_self .., ?_, ?_⟩)
          · dsimp only; omega
          · dsimp only; omega
        · have rest := ih (offset + k) (place - k) (by
            rwa [List.drop_drop, show k + (place - k) = place by omega])
          rw [List.length_drop, show offset + k + (place - k) = offset + place by omega] at rest
          rcases rest with here | ⟨mark, member, covers⟩ | waits
          · exact .inl (List.mem_cons_of_mem _ here)
          · exact .inr (.inl ⟨mark, List.mem_cons_of_mem _ member, covers⟩)
          · exact .inr (.inr (by dsimp only; omega))

end Scanner
