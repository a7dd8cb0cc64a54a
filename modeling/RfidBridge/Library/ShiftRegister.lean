import Mathlib.Logic.Function.Iterate
import Mathlib.Data.List.Basic

/-!
Linear feedback shift registers, the arithmetic of cyclic redundancy checks.
Bits enter the register at its top and every shift that drops a one adds the
feedback word. The register is linear in its content and in the bits fed, and
with an odd feedback word no shift loses information, so bit strings that differ
only inside one window of the register's width leave different contents.
-/

namespace ShiftRegister
variable {w : Nat}

def shift (g r : BitVec w) : BitVec w := if r.msb then (r <<< 1) ^^^ g else r <<< 1

/-- A bit placed at the top of an empty register. -/
def enter (b : Bool) : BitVec w := if b then BitVec.twoPow w (w - 1) else 0#w

def clock (g r : BitVec w) (b : Bool) : BitVec w := shift g (r ^^^ enter b)

def feed (g r : BitVec w) (bits : List Bool) : BitVec w := bits.foldl (clock g) r

/-- Up to `w` bits as a register content, the first at the top. -/
def load : List Bool → BitVec w
  | [] => 0#w
  | b :: bits => enter b ^^^ (load bits >>> 1)

def bitsOf (r : BitVec w) : List Bool := List.ofFn fun i : Fin w => r.getMsbD i

@[simp] theorem length_bitsOf (r : BitVec w) : (bitsOf r).length = w := by
  simp [bitsOf]

@[simp] theorem feed_nil (g r : BitVec w) : feed g r [] = r := rfl

@[simp] theorem feed_cons (g r : BitVec w) (b : Bool) (bits : List Bool) :
    feed g r (b :: bits) = feed g (clock g r b) bits := rfl

theorem feed_append (g r : BitVec w) (first second : List Bool) :
    feed g r (first ++ second) = feed g (feed g r first) second :=
  List.foldl_append

@[simp] theorem enter_false : (enter false : BitVec w) = 0#w := rfl

theorem getMsbD_enter (b : Bool) (i : Nat) (h : i < w) :
    (enter b : BitVec w).getMsbD i = (b && i == 0) := by
  cases b with
  | false => simp
  | true =>
      simp only [enter, if_true, BitVec.getMsbD_twoPow, Bool.true_and]
      by_cases first : i = 0
      · subst first; simp; omega
      · simp only [first, beq_false_of_ne, ne_eq, not_false_eq_true]
        simp; omega

theorem enter_xor (a b : Bool) : (enter (a ^^ b) : BitVec w) = enter a ^^^ enter b := by
  cases a <;> cases b <;> simp

/-- The place of every bit after loading. -/
theorem getMsbD_load (bits : List Bool) (i : Nat) (h : i < w) :
    (load bits : BitVec w).getMsbD i = bits[i]?.getD false := by
  induction bits generalizing i with
  | nil => simp [load]
  | cons b bits ih =>
      rw [load, BitVec.getMsbD_xor, getMsbD_enter b i h, BitVec.getMsbD_ushiftRight]
      cases i with
      | zero => simp
      | succ i => simp [h, ih i (by omega)]

theorem getElem?_bitsOf (r : BitVec w) (i : Nat) : (bitsOf r)[i]?.getD false = r.getMsbD i := by
  by_cases h : i < w
  · simp [bitsOf, h]
  · rw [List.getElem?_eq_none (by simpa using h), Option.getD_none,
      BitVec.getMsbD_of_ge _ _ (by omega)]

theorem bitsOf_append {n m : Nat} (r : BitVec n) (s : BitVec m) :
    bitsOf (r ++ s) = bitsOf r ++ bitsOf s := by
  apply List.ext_getElem
  · simp
  · intro i before after
    rw [List.getElem_append]
    split
    · rename_i inside
      rw [length_bitsOf] at inside
      simp [bitsOf, BitVec.getMsbD_append, Nat.not_le.mpr inside]
    · rename_i outside
      rw [length_bitsOf] at outside
      simp [bitsOf, BitVec.getMsbD_append, Nat.le_of_not_lt outside]

/-- A narrower word enters at the top of the register. -/
theorem load_bitsOf_narrow {n : Nat} (r : BitVec n) (fits : n ≤ w) :
    load (bitsOf r) = r.setWidth w <<< (w - n) := by
  apply BitVec.eq_of_getMsbD_eq
  intro i h
  rw [getMsbD_load _ _ h, getElem?_bitsOf, BitVec.getMsbD_shiftLeft, BitVec.getMsbD_setWidth,
    decide_eq_true (by omega), Bool.true_and]
  congr 1
  omega

theorem load_bitsOf (r : BitVec w) : load (bitsOf r) = r := by
  rw [load_bitsOf_narrow r (Nat.le_refl w), Nat.sub_self, BitVec.setWidth_eq]
  exact BitVec.shiftLeft_zero r

theorem shift_xor (g a b : BitVec w) : shift g (a ^^^ b) = shift g a ^^^ shift g b := by
  simp only [shift, BitVec.msb_xor, BitVec.shiftLeft_xor_distrib]
  cases a.msb <;> cases b.msb <;> simp only [Bool.xor_false, Bool.xor_true, Bool.not_true,
    Bool.not_false, Bool.false_eq_true, if_true, if_false]
  · ac_rfl
  · ac_rfl
  · rw [show a <<< 1 ^^^ g ^^^ (b <<< 1 ^^^ g) = a <<< 1 ^^^ b <<< 1 ^^^ (g ^^^ g) by ac_rfl,
      BitVec.xor_self, BitVec.xor_zero]

@[simp] theorem shift_zero (g : BitVec w) : shift g 0#w = 0#w := by
  simp [shift]

@[simp] theorem clock_zero_false (g : BitVec w) : clock g 0#w false = 0#w := by
  simp [clock]

theorem clock_xor (g r s : BitVec w) (a b : Bool) :
    clock g (r ^^^ s) (a ^^ b) = clock g r a ^^^ clock g s b := by
  rw [clock, clock, clock, ← shift_xor, enter_xor]
  congr 1
  ac_rfl

theorem feed_xor (g r s : BitVec w) (as bs : List Bool) (same : as.length = bs.length) :
    feed g (r ^^^ s) (List.zipWith (· ^^ ·) as bs) = feed g r as ^^^ feed g s bs := by
  induction as generalizing bs r s with
  | nil =>
      cases bs with
      | nil => rfl
      | cons b bs => simp at same
  | cons a as ih =>
      cases bs with
      | nil => simp at same
      | cons b bs =>
          rw [List.zipWith_cons_cons, feed_cons, feed_cons, feed_cons, clock_xor]
          exact ih _ _ bs (by simpa using same)

/-- A content without a one at the bottom comes back from where it was shifted. -/
theorem shift_ushiftRight (g r : BitVec w) (even : r.getLsbD 0 = false) :
    shift g (r >>> 1) = r := by
  have top : (r >>> 1).msb = false := by simp [BitVec.msb_ushiftRight]
  rw [shift, top, if_neg (by decide)]
  apply BitVec.eq_of_getLsbD_eq
  intro i h
  cases i with
  | zero => simp [even]
  | succ i => simp [h, Nat.add_comm]

/-- A register not filled to its bottom ends in a zero. -/
theorem getLsbD_load (bits : List Bool) (short : bits.length < w) :
    (load bits : BitVec w).getLsbD 0 = false := by
  rw [BitVec.getLsbD_eq_getMsbD, getMsbD_load _ _ (by omega)]
  simp only [Bool.and_eq_false_imp, decide_eq_true_eq]
  intro _
  rw [List.getElem?_eq_none (by omega), Option.getD_none]

/-- Feeding at most `w` bits one at a time is loading them at once and shifting. -/
theorem feed_eq_iterate (g r : BitVec w) (bits : List Bool) (short : bits.length ≤ w) :
    feed g r bits = (shift g)^[bits.length] (r ^^^ load bits) := by
  induction bits generalizing r with
  | nil => simp [load]
  | cons b bits ih =>
      have fits : bits.length < w := by rwa [List.length_cons] at short
      have once : shift g (r ^^^ load (b :: bits)) = clock g r b ^^^ load bits := by
        rw [load, ← BitVec.xor_assoc, shift_xor, shift_ushiftRight g _ (getLsbD_load bits fits),
          clock]
      rw [feed_cons, ih _ (Nat.le_of_lt fits), List.length_cons, Function.iterate_succ_apply, once]

/-- Feeding the register its own content empties it. -/
theorem feed_bitsOf (g r : BitVec w) : feed g r (bitsOf r) = 0#w := by
  rw [feed_eq_iterate g r _ (by simp), load_bitsOf, BitVec.xor_self]
  exact Function.iterate_fixed (shift_zero g) _

theorem shift_eq_zero {g r : BitVec w} (odd : g.getLsbD 0 = true) (h : shift g r = 0#w) :
    r = 0#w := by
  cases top : r.msb with
  | true =>
      have bottom : (shift g r).getLsbD 0 = true := by
        rw [shift, top, if_pos rfl]
        simp [odd]
      rw [h] at bottom
      simp at bottom
  | false =>
      rw [shift, top, if_neg (by decide)] at h
      apply BitVec.eq_of_getMsbD_eq
      intro i hi
      cases i with
      | zero => rw [← BitVec.msb_eq_getMsbD_zero, top]; simp
      | succ i =>
          have bit := congrArg (fun x : BitVec w => x.getMsbD i) h
          simpa [hi, Nat.add_comm, show i < w by omega] using bit

theorem iterate_shift_eq_zero {g r : BitVec w} (odd : g.getLsbD 0 = true) (n : Nat)
    (h : (shift g)^[n] r = 0#w) : r = 0#w := by
  induction n generalizing r with
  | zero => exact h
  | succ n ih => exact shift_eq_zero odd (ih (by rwa [Function.iterate_succ_apply] at h))

theorem feed_zero_zeros (g : BitVec w) (bits : List Bool) (zeros : ∀ b ∈ bits, b = false) :
    feed g 0#w bits = 0#w := by
  induction bits with
  | nil => rfl
  | cons b bits ih =>
      rw [zeros b (List.mem_cons_self ..), feed_cons, clock_zero_false]
      exact ih fun c member => zeros c (List.mem_cons_of_mem b member)

theorem eq_zero_of_feed_zeros {g r : BitVec w} (odd : g.getLsbD 0 = true) (bits : List Bool)
    (zeros : ∀ b ∈ bits, b = false) (h : feed g r bits = 0#w) : r = 0#w := by
  induction bits generalizing r with
  | nil => exact h
  | cons b bits ih =>
      have rest := ih (fun c member => zeros c (List.mem_cons_of_mem b member)) h
      rw [zeros b (List.mem_cons_self ..), clock, enter_false, BitVec.xor_zero] at rest
      exact shift_eq_zero odd rest

/-- A string of at most `w` bits that leaves the register empty is all zeros. -/
theorem zeros_of_feed {g : BitVec w} (odd : g.getLsbD 0 = true) (bits : List Bool)
    (short : bits.length ≤ w) (h : feed g 0#w bits = 0#w) : ∀ b ∈ bits, b = false := by
  rw [feed_eq_iterate g _ bits short, BitVec.zero_xor] at h
  have empty : (load bits : BitVec w) = 0#w := iterate_shift_eq_zero odd _ h
  intro b member
  obtain ⟨i, hi, rfl⟩ := List.mem_iff_getElem.mp member
  have bit := getMsbD_load (w := w) bits i (by omega)
  rw [empty, BitVec.getMsbD_zero, List.getElem?_eq_getElem hi, Option.getD_some] at bit
  exact bit.symm

/-- A nonzero string whose ones lie in one window of width `w` is noticed. -/
theorem zeros_of_burst {g : BitVec w} (odd : g.getLsbD 0 = true) (bits : List Bool) (start : Nat)
    (burst : ∀ i, bits[i]? = some true → start ≤ i ∧ i < start + w)
    (h : feed g 0#w bits = 0#w) : ∀ b ∈ bits, b = false := by
  have before : ∀ b ∈ bits.take start, b = false := by
    intro b member
    obtain ⟨i, hi, rfl⟩ := List.mem_take_iff_getElem.mp member
    cases value : bits[i] with
    | false => rfl
    | true =>
        have inside := burst i (by rw [List.getElem?_eq_getElem (by omega), value])
        omega
  have after : ∀ b ∈ (bits.drop start).drop w, b = false := by
    intro b member
    rw [List.drop_drop] at member
    obtain ⟨i, hi, rfl⟩ := List.mem_drop_iff_getElem.mp member
    cases value : bits[start + w + i] with
    | false => rfl
    | true =>
        have inside := burst (start + w + i) (by rw [List.getElem?_eq_getElem (by omega), value])
        omega
  have split :
      bits = bits.take start ++ ((bits.drop start).take w ++ (bits.drop start).drop w) := by
    rw [List.take_append_drop, List.take_append_drop]
  rw [split, feed_append, feed_zero_zeros g _ before, feed_append] at h
  have window := zeros_of_feed odd ((bits.drop start).take w) (List.length_take_le w _)
    (eq_zero_of_feed_zeros odd _ after h)
  intro b member
  rw [split, List.mem_append, List.mem_append] at member
  rcases member with member | member | member
  · exact before b member
  · exact window b member
  · exact after b member

theorem eq_of_zipWith_xor {as bs : List Bool} (same : as.length = bs.length)
    (zeros : ∀ b ∈ List.zipWith (· ^^ ·) as bs, b = false) : as = bs := by
  induction as generalizing bs with
  | nil => exact (List.length_eq_zero_iff.mp same.symm).symm
  | cons a as ih =>
      cases bs with
      | nil => simp at same
      | cons b bs =>
          simp only [List.zipWith_cons_cons, List.mem_cons, forall_eq_or_imp] at zeros
          have head : a = b := by simpa using zeros.1
          rw [head, ih (by simpa using same) zeros.2]

/-- Strings of one length that leave equal contents and differ only inside one
window of the register's width are equal. -/
theorem eq_of_feed_eq {g r : BitVec w} (odd : g.getLsbD 0 = true) {as bs : List Bool}
    (same : as.length = bs.length) (start : Nat)
    (window : ∀ i, as[i]? ≠ bs[i]? → start ≤ i ∧ i < start + w)
    (equal : feed g r as = feed g r bs) : as = bs := by
  have difference : feed g 0#w (List.zipWith (· ^^ ·) as bs) = 0#w := by
    have linear := feed_xor g r r as bs same
    rwa [BitVec.xor_self, equal, BitVec.xor_self] at linear
  refine eq_of_zipWith_xor same (zeros_of_burst odd _ start ?_ difference)
  intro i one
  refine window i fun agree => ?_
  rw [List.getElem?_zipWith, agree] at one
  cases value : bs[i]? with
  | none => simp [value] at one
  | some b => simp [value] at one

end ShiftRegister
