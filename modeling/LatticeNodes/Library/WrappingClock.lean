import Mathlib.Data.Nat.Notation

/-!
# A 32-bit clock that wraps

Real time is a natural number of ticks; what a program reads is its remainder modulo `2 ^ 32`.
The difference of two readings never overestimates the time between them (`elapsed_le`), so
a test "at least `d` ticks have passed" is never true too early (`le_of_not_lt`), however
often the clock wrapped in between.  It may well be false too late.
-/

set_option autoImplicit false

namespace WrappingClock

/-- What the clock shows at real time `t`. -/
def reading (t : ℕ) : UInt32 := UInt32.ofNat t

/-- The clock starts at zero. -/
@[simp] theorem reading_zero : reading 0 = 0 := rfl

/-- A reading read back is the real time modulo the clock's size. -/
theorem toNat_reading (t : ℕ) : (reading t).toNat = t % UInt32.size :=
  UInt32.toNat_ofNat'

/-- The difference of two readings is the time between them, modulo the clock's size. -/
theorem toNat_elapsed {t₀ t : ℕ} (h : t₀ ≤ t) :
    (reading t - reading t₀).toNat = (t - t₀) % UInt32.size := by
  have h₀ := toNat_reading t₀
  have h₁ := toNat_reading t
  rw [UInt32.toNat_sub, h₀, h₁]
  simp only [UInt32.size]
  omega

/-- The clock never shows more time than has passed. -/
theorem elapsed_le {t₀ t : ℕ} (h : t₀ ≤ t) : (reading t - reading t₀).toNat ≤ t - t₀ := by
  rw [toNat_elapsed h]
  exact Nat.mod_le _ _

/-- When the readings are at least `d` apart, so are the times. -/
theorem le_of_not_lt {t₀ t : ℕ} {d : UInt32} (h : t₀ ≤ t) (hstale : ¬reading t - reading t₀ < d) :
    t₀ + d.toNat ≤ t := by
  have hd : d.toNat ≤ (reading t - reading t₀).toNat :=
    UInt32.le_iff_toNat_le.mp (UInt32.not_lt.mp hstale)
  have hle := elapsed_le h
  omega

/-- When the readings are more than `d` apart, so are the times. -/
theorem lt_of_lt {t₀ t : ℕ} {d : UInt32} (h : t₀ ≤ t) (hstale : d < reading t - reading t₀) :
    t₀ + d.toNat < t := by
  have hd : d.toNat < (reading t - reading t₀).toNat := UInt32.lt_iff_toNat_lt.mp hstale
  have hle := elapsed_le h
  omega

end WrappingClock
