import LatticeNodes.Library.Attempts
import LatticeNodes.Program.ErrorDisplay

/-!
# Whether signalling an error ends

A byte that the display does not acknowledge is a hardware error, which is shown in turn and never
returns to the write it interrupts.  So the nested calls are attempts to get the seven bytes of one
code through (`Attempts`): `fail_ends_iff` says that signalling ends exactly when the display
acknowledges seven bytes in a row.
-/

set_option autoImplicit false

namespace LatticeNodes.Analysis

open LatticeNodes.Program

namespace ErrorSignalling

/-! ## Statement -/

/-- The call returns or restarts the device, with finitely many calls open. -/
def Ends (core : ErrorCore) (ack : ℕ → Bool) (f : Failure) (sent : List UInt8) : Prop :=
  ∃ depth, (core.fail ack depth f sent).isSome

/-! ## The bytes of one code -/

section Writes

variable {fail : List UInt8 → Option Signalled} {ack : ℕ → Bool}

/-- A call that never comes back to the write that made it. -/
def NeverReturns (fail : List UInt8 → Option Signalled) : Prop :=
  ∀ sent sent', fail sent ≠ some (.returned sent')

/-- What never returns is followed by nothing. -/
theorem andThen_of_neverReturns (hfail : NeverReturns fail) (sent : List UInt8)
    (next : List UInt8 → Option Signalled) :
    Signalled.andThen (fail sent) next = fail sent := by
  unfold Signalled.andThen
  split
  · next sent' hreturned => exact absurd hreturned (hfail sent sent')
  · rfl

/-- Bytes that are all acknowledged are written.
SOURCE: SevenSegDisplay.cpp:133-147 -/
theorem writeBytes_acked {sent bytes : List UInt8}
    (h : Attempts.Streak bytes.length ack sent.length) :
    SevenSegDisplay.writeBytes fail ack sent bytes = some (.returned (sent ++ bytes)) := by
  induction bytes generalizing sent with
  | nil => rw [SevenSegDisplay.writeBytes, List.append_nil]
  | cons b bytes ih =>
      have hfirst : ack sent.length = true := h 0 (Nat.zero_lt_succ _)
      have hrest : Attempts.Streak bytes.length ack (sent ++ [b]).length := by
        intro i hi
        have hnext := h (i + 1) (Nat.succ_lt_succ hi)
        rw [List.length_append, List.length_singleton, Nat.add_assoc, Nat.add_comm 1 i]
        exact hnext
      rw [SevenSegDisplay.writeBytes, SevenSegDisplay.writeByte, hfirst, if_pos rfl]
      exact (ih hrest).trans (by rw [List.append_assoc, List.singleton_append])

/-- The first byte that is not makes a nested call, which is the last that happens.
SOURCE: SevenSegDisplay.cpp:117-121 -/
theorem writeBytes_timeout {sent bytes : List UInt8} {k : ℕ} (hfail : NeverReturns fail)
    (h : Attempts.FailsAt bytes.length ack sent.length k) :
    SevenSegDisplay.writeBytes fail ack sent bytes = fail (sent ++ bytes.take (k + 1)) := by
  induction bytes generalizing sent k with
  | nil => exact absurd h.lt (Nat.not_lt_zero k)
  | cons b bytes ih =>
      rw [SevenSegDisplay.writeBytes, SevenSegDisplay.writeByte]
      cases k with
      | zero =>
          have hfirst : ack sent.length = false := h.failure
          rw [hfirst, if_neg Bool.false_ne_true, andThen_of_neverReturns hfail]
          rfl
      | succ k =>
          have hfirst : ack sent.length = true := h.before 0 (Nat.zero_lt_succ k)
          have hlength : ∀ i, (sent ++ [b]).length + i = sent.length + (i + 1) := by
            intro i
            rw [List.length_append, List.length_singleton]
            omega
          have hrest : Attempts.FailsAt bytes.length ack (sent ++ [b]).length k := by
            refine ⟨Nat.lt_of_succ_lt_succ h.lt, fun i hi => ?_, ?_⟩
            · rw [hlength]
              exact h.before (i + 1) (Nat.succ_lt_succ hi)
            · rw [hlength]
              exact h.failure
          rw [hfirst, if_pos rfl, List.take_succ_cons]
          exact (ih hrest).trans (by rw [List.append_assoc, List.singleton_append])

end Writes

/-! ## One call -/

section Calls

variable {display : SevenSegDisplay} {ack : ℕ → Bool} {f : Failure} {sent : List UInt8} {depth : ℕ}

/-- The bytes that show an error. -/
def codeBytes (display : SevenSegDisplay) (f : Failure) : List UInt8 :=
  display.transfers (SevenSegDisplay.segmentsOf (makeErrorCode f.type f.module f.sub) true)

/-- A code is seven bytes. -/
@[simp] theorem length_codeBytes (display : SevenSegDisplay) (f : Failure) :
    (codeBytes display f).length = 7 := by
  simp [codeBytes, SevenSegDisplay.transfers]

/-- One level of `fail()`: the code is shown, and a missing acknowledgement fails again.
SOURCE: Error.h:34-45 -/
theorem fail_succ : ErrorCore.fail ⟨some display⟩ ack (depth + 1) f sent =
    Signalled.andThen
      (SevenSegDisplay.writeBytes (ErrorCore.fail ⟨some display⟩ ack depth
        SevenSegDisplay.ackTimeout) ack sent (codeBytes display f))
      (ErrorCore.conclude f) := rfl

/-- The error of a missing acknowledgement restarts the device, if it ends at all.
SOURCE: ErrorCore.cpp:26-55 -/
theorem ackTimeout_neverReturns (core : ErrorCore) (ack : ℕ → Bool) (depth : ℕ) :
    NeverReturns (core.fail ack depth SevenSegDisplay.ackTimeout) := by
  have hconclude : ∀ sent sent', ErrorCore.conclude SevenSegDisplay.ackTimeout sent ≠
      some (.returned sent') := by
    intro sent sent' hreturned
    cases hreturned
  intro sent sent' hreturned
  cases depth with
  | zero => cases hreturned
  | succ depth =>
      simp only [ErrorCore.fail, ErrorCore.signalError] at hreturned
      split at hreturned
      · exact hconclude sent sent' hreturned
      · unfold Signalled.andThen at hreturned
        split at hreturned
        · next shown _ => exact hconclude shown sent' hreturned
        · next hnot => exact hnot sent' hreturned

/-- A code that gets through ends the call.
SOURCE: ErrorCore.cpp:26-55 -/
theorem fail_acked (h : Attempts.Streak 7 ack sent.length) :
    ErrorCore.fail ⟨some display⟩ ack (depth + 1) f sent =
      ErrorCore.conclude f (sent ++ codeBytes display f) := by
  rw [fail_succ, writeBytes_acked]
  · rfl
  · rw [length_codeBytes]
    exact h

/-- A byte that is not acknowledged hands the call over to the nested one. -/
theorem fail_timeout {k : ℕ} (h : Attempts.FailsAt 7 ack sent.length k) :
    ErrorCore.fail ⟨some display⟩ ack (depth + 1) f sent =
      ErrorCore.fail ⟨some display⟩ ack depth SevenSegDisplay.ackTimeout
        (sent ++ (codeBytes display f).take (k + 1)) := by
  have hnever := ackTimeout_neverReturns ⟨some display⟩ ack depth
  rw [fail_succ, writeBytes_timeout hnever, andThen_of_neverReturns hnever]
  rw [length_codeBytes]
  exact h

/-- The place on the bus where the nested call starts. -/
theorem length_timeout {k : ℕ} (h : Attempts.FailsAt 7 ack sent.length k) :
    (sent ++ (codeBytes display f).take (k + 1)).length = sent.length + k + 1 := by
  have hlt := h.lt
  rw [List.length_append, List.length_take, length_codeBytes]
  omega

/-- **The nested calls are the attempts to get a code through.** -/
theorem ends_iff_attempts : Ends ⟨some display⟩ ack f sent ↔ Attempts.Ends 7 ack sent.length := by
  constructor
  · rintro ⟨depth, hsome⟩
    induction depth generalizing f sent with
    | zero => cases hsome
    | succ depth ih =>
        rcases Attempts.streak_or_failsAt 7 ack sent.length with hstreak | ⟨k, hfails⟩
        · exact .streak hstreak
        · rw [fail_timeout hfails] at hsome
          have hnested := ih hsome
          rw [length_timeout hfails] at hnested
          exact .retry hfails hnested
  · intro hends
    generalize hn : sent.length = n at hends
    induction hends generalizing f sent with
    | streak hstreak =>
        subst hn
        exact ⟨1, by rw [fail_acked hstreak]; rfl⟩
    | retry hfails _ ih =>
        subst hn
        obtain ⟨depth, hsome⟩ := ih (f := SevenSegDisplay.ackTimeout)
          (@length_timeout display ack f sent _ hfails)
        refine ⟨depth + 1, ?_⟩
        rw [fail_timeout hfails]
        exact hsome

end Calls

/-! ## Result -/

/-- **Signalling an error ends exactly when the display acknowledges seven bytes in a row.**
SOURCE: Error.h:34-45, ErrorCore.cpp:26-55, SevenSegDisplay.cpp:90-147 -/
theorem fail_ends_iff (display : SevenSegDisplay) (ack : ℕ → Bool) (f : Failure)
    (sent : List UInt8) :
    Ends ⟨some display⟩ ack f sent ↔ ∃ p, sent.length ≤ p ∧ ∀ i < 7, ack (p + i) = true := by
  rw [ends_iff_attempts, Attempts.ends_iff]
  exact Iff.rfl

/-- **It comes back to the caller exactly when the first seven answers acknowledge its code**, and
the error is none that restarts the device.
SOURCE: ErrorCore.cpp:26-55 -/
theorem fail_returns_iff (display : SevenSegDisplay) (ack : ℕ → Bool) (f : Failure)
    (sent : List UInt8) :
    (∃ depth sent', ErrorCore.fail ⟨some display⟩ ack depth f sent = some (.returned sent')) ↔
      f.restarts = false ∧ ∀ i < 7, ack (sent.length + i) = true := by
  constructor
  · rintro ⟨depth, sent', hreturned⟩
    cases depth with
    | zero => cases hreturned
    | succ depth =>
        rcases Attempts.streak_or_failsAt 7 ack sent.length with hstreak | ⟨k, hfails⟩
        · refine ⟨?_, hstreak⟩
          rw [fail_acked hstreak, ErrorCore.conclude, Option.some.injEq] at hreturned
          split at hreturned
          · cases hreturned
          · next hstays => exact Bool.eq_false_iff.mpr hstays
        · rw [fail_timeout hfails] at hreturned
          exact absurd hreturned (ackTimeout_neverReturns _ ack depth _ sent')
  · rintro ⟨hstays, hstreak⟩
    refine ⟨1, sent ++ codeBytes display f, ?_⟩
    rw [fail_acked hstreak, ErrorCore.conclude, hstays]
    rfl

/-- A display that never answers.
SOURCE: SevenSegDisplay.cpp:104-121 -/
theorem not_forall_fail_ends :
    ¬∀ (display : SevenSegDisplay) (ack : ℕ → Bool) (f : Failure),
      Ends ⟨some display⟩ ack f [] := by
  intro hall
  have hends := ends_iff_attempts.mp (hall ⟨7⟩ (fun _ => false) SevenSegDisplay.ackTimeout)
  obtain ⟨p, -, hstreak⟩ := (Attempts.ends_iff _).mp hends
  exact Bool.false_ne_true (hstreak 0 (by decide))

end ErrorSignalling

end LatticeNodes.Analysis
