import Mathlib.Data.Nat.Find

/-!
# Attempts that start over

A task needs `w` successes in a row of a stream of answers, and starts over behind the first
failure.  `Ends` is the course of the attempts; `ends_iff` reads off the stream whether they come
to an end.
-/

set_option autoImplicit false

namespace Attempts

/-- The answers from `n` on are `w` successes. -/
def Streak (w : ℕ) (ok : ℕ → Bool) (n : ℕ) : Prop :=
  ∀ i < w, ok (n + i) = true

/-- The first failure of the attempt that starts at `n` is the answer `k` behind that. -/
structure FailsAt (w : ℕ) (ok : ℕ → Bool) (n k : ℕ) : Prop where
  lt : k < w
  before : ∀ i < k, ok (n + i) = true
  failure : ok (n + k) = false

/-- The attempts that start at `n` end in a success. -/
inductive Ends (w : ℕ) (ok : ℕ → Bool) : ℕ → Prop
  | streak {n : ℕ} (h : Streak w ok n) : Ends w ok n
  | retry {n k : ℕ} (h : FailsAt w ok n k) (hrest : Ends w ok (n + k + 1)) : Ends w ok n

variable {w : ℕ} {ok : ℕ → Bool}

/-- An attempt succeeds, or it has a first failure. -/
theorem streak_or_failsAt (w : ℕ) (ok : ℕ → Bool) (n : ℕ) :
    Streak w ok n ∨ ∃ k, FailsAt w ok n k := by
  by_cases hall : Streak w ok n
  · exact .inl hall
  · have hsome : ∃ i, i < w ∧ ok (n + i) = false := by
      simpa [Streak] using hall
    refine .inr ⟨Nat.find hsome, (Nat.find_spec hsome).1, fun i hi => ?_, (Nat.find_spec hsome).2⟩
    by_contra hfails
    have hmin := Nat.find_min hsome hi
    exact hmin ⟨Nat.lt_trans hi (Nat.find_spec hsome).1, Bool.eq_false_iff.mpr hfails⟩

/-- A streak is behind every failure of an attempt that starts ahead of it. -/
theorem FailsAt.lt_of_streak {n k p : ℕ} (h : FailsAt w ok n k) (hp : Streak w ok p)
    (hle : n ≤ p) : n + k < p := by
  by_contra hnot
  have hinside := hp (n + k - p) (by have := h.lt; omega)
  rw [Nat.add_sub_cancel' (Nat.le_of_not_lt hnot), h.failure] at hinside
  cases hinside

/-- **The attempts end exactly when the stream has `w` successes in a row.** -/
theorem ends_iff (n : ℕ) : Ends w ok n ↔ ∃ p, n ≤ p ∧ Streak w ok p := by
  constructor
  · intro h
    induction h with
    | streak hstreak => exact ⟨_, Nat.le_refl _, hstreak⟩
    | retry _ _ ih =>
        obtain ⟨p, hle, hstreak⟩ := ih
        exact ⟨p, by omega, hstreak⟩
  · rintro ⟨p, hle, hstreak⟩
    -- Each attempt that fails starts nearer to the streak.
    induction hdistance : p - n using Nat.strongRecOn generalizing n with
    | ind distance ih =>
        rcases streak_or_failsAt w ok n with hnow | ⟨k, hfails⟩
        · exact .streak hnow
        · have hlt := hfails.lt_of_streak hstreak hle
          exact .retry hfails (ih (p - (n + k + 1)) (by omega) (n + k + 1) hlt rfl)

end Attempts
