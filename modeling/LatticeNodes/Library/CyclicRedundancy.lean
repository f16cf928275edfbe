import Mathlib.Data.List.GetD
import Mathlib.Data.Nat.Notation
import Mathlib.Logic.Function.Iterate

/-!
# Cyclic redundancy checks

The shift register of a CRC of any width `w`, most significant bit first.  One shift is linear in
exclusive or (`shift_xor`) and, when the polynomial's constant term is one, injective
(`shift_injective`).  The bits of up to `w` steps may enter at the top at once (`iterate_shift`),
so the register after them determines them: two bit sequences that differ, but only within `w`
consecutive bits, leave different registers (`run_ne_of_shortBurst`).
-/

set_option autoImplicit false

namespace CyclicRedundancy

variable {w : ℕ}

/-- `v`, or zero. -/
def select (v : BitVec w) (b : Bool) : BitVec w :=
  if b then v else 0#w

/-- Shift one bit out at the top; `p` is the polynomial without its leading term. -/
def shift (p r : BitVec w) : BitVec w :=
  (r <<< 1) ^^^ select p r.msb

/-- One bit of the message: it enters at the top, then the register is shifted. -/
def step (p r : BitVec w) (b : Bool) : BitVec w :=
  shift p (r ^^^ select (BitVec.intMin w) b)

/-- The register after a bit sequence. -/
def run (p r : BitVec w) (bits : List Bool) : BitVec w :=
  bits.foldl (step p) r

/-- No bits leave the register as it is. -/
@[simp] theorem run_nil (p r : BitVec w) : run p r [] = r := rfl

/-- The bits go in from the front. -/
@[simp] theorem run_cons (p r : BitVec w) (b : Bool) (bits : List Bool) :
    run p r (b :: bits) = run p (step p r b) bits := rfl

/-- A message goes in piece by piece. -/
theorem run_append (p r : BitVec w) (bits bits' : List Bool) :
    run p r (bits ++ bits') = run p (run p r bits) bits' :=
  List.foldl_append

/-! ## The shift -/

/-- A selected value has its bits when the selector is set, and none otherwise. -/
theorem getLsbD_select (v : BitVec w) (b : Bool) (i : ℕ) :
    (select v b).getLsbD i = (b && v.getLsbD i) := by
  cases b with
  | false => simp [select]
  | true => simp [select]

/-- Selecting is linear in the selector. -/
theorem select_xor (v : BitVec w) (a b : Bool) :
    select v (a ^^ b) = select v a ^^^ select v b := by
  cases a with
  | false => simp [select]
  | true => cases b <;> simp [select]

/-- The shift is linear. -/
theorem shift_xor (p a b : BitVec w) : shift p (a ^^^ b) = shift p a ^^^ shift p b := by
  rw [shift, BitVec.msb_xor, BitVec.shiftLeft_xor_distrib, select_xor]
  unfold shift
  ac_rfl

/-- Nothing but zero is shifted to zero: the constant term of the polynomial marks a bit that was
shifted out. -/
theorem eq_zero_of_shift {p r : BitVec w} (hp : p.getLsbD 0 = true) (h : shift p r = 0#w) :
    r = 0#w := by
  have hbit : ∀ i, (shift p r).getLsbD i = false := by
    intro i
    rw [h, BitVec.getLsbD_zero]
  have hmsb : r.msb = false := by
    have hlow := hbit 0
    rw [shift, BitVec.getLsbD_xor, BitVec.getLsbD_shiftLeft, getLsbD_select, hp] at hlow
    simpa using hlow
  apply BitVec.eq_of_getLsbD_eq
  intro i hi
  rw [BitVec.getLsbD_zero]
  by_cases hlast : i + 1 = w
  · rw [BitVec.msb_eq_getLsbD_last] at hmsb
    rwa [show i = w - 1 by omega]
  · have hnext := hbit (i + 1)
    rw [shift, hmsb, BitVec.getLsbD_xor, BitVec.getLsbD_shiftLeft, getLsbD_select] at hnext
    simpa [show i + 1 < w by omega] using hnext

/-- A polynomial with constant term one makes shifting reversible. -/
theorem shift_injective {p : BitVec w} (hp : p.getLsbD 0 = true) :
    Function.Injective (shift p) := by
  intro a b h
  apply BitVec.xor_eq_zero_iff.mp
  apply eq_zero_of_shift hp
  rw [shift_xor, h, BitVec.xor_self]

/-- A polynomial with constant term one makes a step with a known bit reversible. -/
theorem step_injective {p : BitVec w} (hp : p.getLsbD 0 = true) (b : Bool) :
    Function.Injective fun r => step p r b := by
  intro r r' h
  exact (BitVec.xor_left_inj _).mp (shift_injective hp h)

/-- Registers that differ still do so after the same bits. -/
theorem run_injective {p : BitVec w} (hp : p.getLsbD 0 = true) (bits : List Bool) :
    Function.Injective fun r => run p r bits := by
  induction bits with
  | nil => exact fun _ _ h => h
  | cons b bits ih =>
      intro r r' h
      exact step_injective hp b (ih h)

/-! ## Bits entering together -/

/-- The bits side by side, the first one at the top. -/
def top : List Bool → BitVec w
  | [] => 0#w
  | b :: bits => select (BitVec.intMin w) b ^^^ (top bits >>> 1)

/-- The first bits of a message, in their places at the top of the register. -/
theorem getLsbD_top (bits : List Bool) {i : ℕ} (hi : i < w) :
    (top bits : BitVec w).getLsbD i = bits.getD (w - 1 - i) false := by
  induction bits generalizing i with
  | nil => simp [top]
  | cons b bits ih =>
      rw [top, BitVec.getLsbD_xor, getLsbD_select, BitVec.getLsbD_intMin,
        BitVec.getLsbD_ushiftRight]
      by_cases hlast : i + 1 = w
      · rw [show w - 1 - i = 0 by omega, BitVec.getLsbD_of_ge _ _ (by omega)]
        simp [hlast]
      · rw [show w - 1 - i = w - 1 - (1 + i) + 1 by omega, ih (by omega)]
        simp [hlast]

/-- Bits that fit are determined by the word they form. -/
theorem top_inj {bits bits' : List Bool} (hlength : bits.length = bits'.length)
    (hfits : bits.length ≤ w) (h : (top bits : BitVec w) = top bits') : bits = bits' := by
  apply List.ext_getElem hlength
  intro k hk hk'
  have hbit : (top bits : BitVec w).getLsbD (w - 1 - k) =
      (top bits' : BitVec w).getLsbD (w - 1 - k) := by
    rw [h]
  rw [getLsbD_top bits (by omega), getLsbD_top bits' (by omega),
    show w - 1 - (w - 1 - k) = k by omega] at hbit
  simpa [List.getD_eq_getElem?_getD, hk, hk'] using hbit

/-- A word whose low bit is clear is the shift of the one below it. -/
theorem shift_ushiftRight (p : BitVec w) {v : BitVec w} (hlow : v.getLsbD 0 = false) :
    shift p (v >>> 1) = v := by
  have hmsb : (v >>> 1).msb = false := by
    rw [BitVec.msb_ushiftRight]
    rfl
  rw [shift, hmsb]
  apply BitVec.eq_of_getLsbD_eq
  intro i hi
  rw [BitVec.getLsbD_xor, BitVec.getLsbD_shiftLeft, getLsbD_select, BitVec.getLsbD_ushiftRight]
  cases i with
  | zero => simp [hlow]
  | succ i => simp [hi, Nat.add_comm]

/-- **Bits may enter at the top all at once**: the register is then shifted once for each. -/
theorem iterate_shift (p r : BitVec w) {bits : List Bool} (hfits : bits.length ≤ w) :
    (shift p)^[bits.length] (r ^^^ top bits) = run p r bits := by
  induction bits generalizing r with
  | nil => exact BitVec.xor_zero
  | cons b bits ih =>
      rw [List.length_cons] at hfits
      have hlow : (top bits : BitVec w).getLsbD 0 = false := by
        rw [getLsbD_top bits (by omega), List.getD_eq_default _ _ (by omega)]
      have hfirst : shift p (r ^^^ top (b :: bits)) = step p r b ^^^ top bits := by
        calc shift p (r ^^^ top (b :: bits))
            = shift p ((r ^^^ select (BitVec.intMin w) b) ^^^ (top bits >>> 1)) := by
              rw [top, BitVec.xor_assoc]
          _ = step p r b ^^^ shift p (top bits >>> 1) := shift_xor _ _ _
          _ = step p r b ^^^ top bits := by rw [shift_ushiftRight p hlow]
      rw [List.length_cons, Function.iterate_succ_apply, hfirst, ih _ (by omega), run_cons]

/-- A polynomial with constant term one makes any number of shifts reversible. -/
theorem iterate_injective {p : BitVec w} (hp : p.getLsbD 0 = true) (n : ℕ) :
    Function.Injective (shift p)^[n] :=
  (shift_injective hp).iterate n

/-- So up to `w` different bits leave different registers. -/
theorem run_ne_of_ne {p : BitVec w} (hp : p.getLsbD 0 = true) (r : BitVec w)
    {bits bits' : List Bool} (hlength : bits.length = bits'.length) (hfits : bits.length ≤ w)
    (hne : bits ≠ bits') : run p r bits ≠ run p r bits' := by
  intro h
  rw [← iterate_shift p r hfits, ← iterate_shift p r (hlength ▸ hfits), hlength] at h
  have hsame := iterate_injective hp _ h
  exact hne (top_inj hlength hfits ((BitVec.xor_right_inj r).mp hsame))

/-! ## Bursts -/

/-- The sequences differ, but only within `n` consecutive bits. -/
structure ShortBurst (n : ℕ) (bits bits' : List Bool) : Prop where
  length : bits.length = bits'.length
  ne : bits ≠ bits'
  within : ∃ start, ∀ k, bits[k]? ≠ bits'[k]? → start ≤ k ∧ k < start + n

/-- **A burst no longer than the register changes the checksum.** -/
theorem run_ne_of_shortBurst {p : BitVec w} (hp : p.getLsbD 0 = true) (r : BitVec w)
    {bits bits' : List Bool} (h : ShortBurst w bits bits') : run p r bits ≠ run p r bits' := by
  obtain ⟨start, hwithin⟩ := h.within
  have hbefore : bits.take start = bits'.take start := by
    apply List.ext_getElem?
    intro k
    rw [List.getElem?_take, List.getElem?_take]
    split
    · next hk =>
      by_contra hne
      exact absurd (hwithin k hne).1 (Nat.not_le.mpr hk)
    · rfl
  have hafter : (bits.drop start).drop w = (bits'.drop start).drop w := by
    apply List.ext_getElem?
    intro k
    rw [List.getElem?_drop, List.getElem?_drop, List.getElem?_drop, List.getElem?_drop]
    by_contra hne
    have hfar := (hwithin _ hne).2
    omega
  have hmiddle : (bits.drop start).take w ≠ (bits'.drop start).take w := by
    intro hsame
    apply h.ne
    rw [← List.take_append_drop start bits, ← List.take_append_drop start bits',
      ← List.take_append_drop w (bits.drop start), ← List.take_append_drop w (bits'.drop start),
      hbefore, hsame, hafter]
  have hlength : ((bits.drop start).take w).length = ((bits'.drop start).take w).length := by
    rw [List.length_take, List.length_take, List.length_drop, List.length_drop, h.length]
  have hfits : ((bits.drop start).take w).length ≤ w := List.length_take_le _ _
  -- The same register before the burst, different ones after it, and so at the end.
  rw [← List.take_append_drop start bits, ← List.take_append_drop start bits',
    ← List.take_append_drop w (bits.drop start), ← List.take_append_drop w (bits'.drop start),
    run_append, run_append, run_append, run_append, hbefore, hafter]
  intro hsame
  exact run_ne_of_ne hp _ hlength hfits hmiddle (run_injective hp _ hsame)

end CyclicRedundancy
