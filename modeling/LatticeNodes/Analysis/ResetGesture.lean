import LatticeNodes.Analysis.LoopPasses
import LatticeNodes.Analysis.MeshNetwork
import LatticeNodes.Library.TransitionSystem

/-!
# The factory-reset gesture

The passes of a node whose enrollment gate is open, at clock readings that do not go back.  A
first hold of the reset button arms the reset for three seconds; a second complete hold takes
five, and starts no earlier than the arming.  So the deadline is over when the second hold is
complete (`Deadline`), and no pass wipes the EEPROM (`never_wiped`): the gesture works in the
runs that have none in them, and in no others.
-/

set_option autoImplicit false

namespace LatticeNodes.Analysis

open LatticeNodes.Program TransitionSystem

namespace ResetGesture

/-! ## The system -/

/-- A look at the reset button: what it read, whether it armed the reset, and whether it wiped
the EEPROM. -/
structure Look where
  isPressed : Bool
  millis : UInt32
  millisLate : UInt32
  arms : Bool
  wiped : Bool

/-- The sketch of a running node, the last reading of its clock, and the looks so far, oldest
first. -/
structure State where
  sketch : Sketch
  running : Bool
  clock : UInt32
  looks : List Look

inductive Event where
  | work (w : Work)
  | pass (r : Sketch.LoopEnv)

/-- The look completes a hold, and no armed reset is pending.
SOURCE: main.ino:402-411 -/
def arms (s : Sketch) (b : Sketch.ButtonEnv) : Bool :=
  b.isPressed && s.resetButtonWasPressed &&
    decide (Config.buttonHoldTimeMs ≤ b.millis - s.resetHoldStart) && !s.resetConfirmPending

/-- The pass ended in the restart after the wipe.
SOURCE: main.ino:413-422 -/
def isWipe : Except Restart Sketch → Bool
  | .ok _ => false
  | .error restart => restart.site == .resetButton

/-- The part of a pass ahead of the reset button.
SOURCE: main.ino:310, 359-397 -/
def beforeReset (tls : Mbedtls) (s : Sketch) (r : Sketch.LoopEnv) : Except Restart Sketch :=
  (beforeButtons tls s r).bind fun s => s.pollConfigButton r.configButton

/-- The looks of a pass: none when the node restarts ahead of it. -/
def lookOf (tls : Mbedtls) (s : Sketch) (r : Sketch.LoopEnv) : List Look :=
  match beforeReset tls s r with
  | .error _ => []
  | .ok s₁ => [⟨r.resetButton.isPressed, r.resetButton.millis, r.resetButton.millisLate,
      arms s₁ r.resetButton, isWipe (s.afterMesh tls r)⟩]

/-- A restart ends the run. -/
def State.conclude (s : State) : Except Restart Sketch → State
  | .ok sketch => { s with sketch := sketch }
  | .error _ => { s with running := false }

/-- SOURCE: main.ino:298-434 -/
def step (tls : Mbedtls) (s : State) : Event → Option State
  | .work w => if s.running then some (s.conclude (w.run s.sketch)) else none
  | .pass r =>
      if s.running ∧ gateOpen s.sketch ∧ s.clock ≤ r.resetButton.millis ∧
          r.resetButton.millis ≤ r.resetButton.millisLate then
        some { s.conclude (s.sketch.afterMesh tls r) with
          clock := r.resetButton.millisLate
          looks := s.looks ++ lookOf tls s.sketch r }
      else none

/-- The node as `setup()` leaves it. -/
structure Start (s : State) : Prop where
  started : ∃ d adapter, s.sketch = Sketch.started d adapter
  running : s.running = true
  looks : s.looks = []

def system (tls : Mbedtls) : System State Event where
  Init := Start
  step := step tls

/-! ## Statement -/

/-- The button is down all along, from a look at the press to one at least 5000 ms later. -/
def Hold (looks : List Look) : Prop :=
  (∀ l ∈ looks, l.isPressed = true) ∧ ∃ first last, looks.head? = some first ∧
    looks.getLast? = some last ∧
    first.millis.toNat + Config.buttonHoldTimeMs.toNat ≤ last.millis.toNat

/-- A hold up to the look that arms the reset. -/
def ArmingHold (looks : List Look) (arming : Look) : Prop :=
  Hold looks ∧ looks.getLast? = some arming ∧ arming.arms = true

/-- The button is held until the reset is armed, released, pressed again within three seconds of
the arming, and held. -/
structure Gesture (looks second : List Look) : Prop where
  holds : Hold second
  follows : ∃ before first arming held released after,
    looks = before ++ first ++ held ++ released ++ second ++ after ∧ ArmingHold first arming ∧
    (∀ l ∈ held, l.isPressed = true) ∧
    released ≠ [] ∧ (∀ l ∈ released, l.isPressed = false) ∧
    ∀ again, second.head? = some again →
      again.millis.toNat ≤ arming.millisLate.toNat + Config.resetConfirmMs.toNat

/-- There is an arming hold with a second complete hold after it. -/
def TwoHolds (looks : List Look) : Prop :=
  ∃ before first arming between second after,
    looks = before ++ first ++ between ++ second ++ after ∧ ArmingHold first arming ∧ Hold second

/-- The gesture wipes the EEPROM, and nothing less does. -/
structure Works (looks : List Look) : Prop where
  wipes : ∀ second, Gesture looks second → ∃ l ∈ second, l.wiped = true
  only : (∃ l ∈ looks, l.wiped = true) → TwoHolds looks

/-! ## The deadline -/

/-- A pending deadline is at most three seconds behind the last reading of the clock, and behind
the press that goes on, which started later than the arming. -/
structure Deadline (s : Sketch) (clock : UInt32) : Prop where
  holdStart : s.resetButtonWasPressed = true → s.resetHoldStart ≤ clock
  pending : s.resetConfirmPending = true →
    s.resetConfirmDeadline.toNat ≤ clock.toNat + Config.resetConfirmMs.toNat
  pressed : s.resetConfirmPending = true → s.resetButtonWasPressed = true →
    s.resetConfirmDeadline.toNat ≤ s.resetHoldStart.toNat + Config.resetConfirmMs.toNat

section Deadlines

variable {s s' : Sketch} {clock : UInt32}

/-- Work that keeps the four members keeps the deadline. -/
theorem Deadline.kept (h : Deadline s clock)
    (hpressed : s'.resetButtonWasPressed = s.resetButtonWasPressed)
    (hstart : s'.resetHoldStart = s.resetHoldStart)
    (hpending : s'.resetConfirmPending = s.resetConfirmPending)
    (hdeadline : s'.resetConfirmDeadline = s.resetConfirmDeadline) : Deadline s' clock := by
  constructor
  · rw [hpressed, hstart]
    exact h.holdStart
  · rw [hpending, hdeadline]
    exact h.pending
  · rw [hpending, hpressed, hdeadline, hstart]
    exact h.pressed

/-- The deadline, three seconds on, may wrap; it is never later than that. -/
theorem toNat_deadline_le (armedAt : UInt32) :
    (armedAt + Config.resetConfirmMs).toNat ≤ armedAt.toNat + Config.resetConfirmMs.toNat := by
  rw [UInt32.toNat_add]
  exact Nat.mod_le _ _

/-- A complete hold ends at least five seconds behind its start. -/
theorem toNat_holdStart_le {start now : UInt32} (hstart : start ≤ now)
    (hheld : ¬now - start < Config.buttonHoldTimeMs) :
    start.toNat + Config.buttonHoldTimeMs.toNat ≤ now.toNat := by
  have hsub : (now - start).toNat = now.toNat - start.toNat := UInt32.toNat_sub_of_le _ _ hstart
  have hle : Config.buttonHoldTimeMs.toNat ≤ (now - start).toNat :=
    UInt32.le_iff_toNat_le.mp (UInt32.not_lt.mp hheld)
  have horder : start.toNat ≤ now.toNat := UInt32.le_iff_toNat_le.mp hstart
  omega

/-- The press started behind the arming and took five seconds: the three are over. -/
theorem Deadline.over (h : Deadline s clock) {b : Sketch.ButtonEnv} (hnow : clock ≤ b.millis)
    (hlate : b.millis ≤ b.millisLate) (hpending : s.resetConfirmPending = true)
    (hpressed : s.resetButtonWasPressed = true)
    (hheld : ¬b.millis - s.resetHoldStart < Config.buttonHoldTimeMs) :
    ¬b.millisLate < s.resetConfirmDeadline := by
  have hdeadline := h.pressed hpending hpressed
  have hcomplete := toNat_holdStart_le (UInt32.le_trans (h.holdStart hpressed) hnow) hheld
  have hlateNat : b.millis.toNat ≤ b.millisLate.toNat := UInt32.le_iff_toNat_le.mp hlate
  have hfive : Config.buttonHoldTimeMs.toNat = 5000 := rfl
  have hthree : Config.resetConfirmMs.toNat = 3000 := rfl
  rw [UInt32.lt_iff_toNat_lt]
  omega

/-- **No look at the button finds the confirmed reset in time.**
SOURCE: main.ino:402-430 -/
theorem Deadline.poll (h : Deadline s clock) {b : Sketch.ButtonEnv} (hnow : clock ≤ b.millis)
    (hlate : b.millis ≤ b.millisLate) :
    ∃ s', s.pollResetButton b = .ok s' ∧ Deadline s' b.millisLate := by
  have hclock : clock.toNat ≤ b.millisLate.toNat :=
    UInt32.le_iff_toNat_le.mp (UInt32.le_trans hnow hlate)
  unfold Sketch.pollResetButton
  split
  · refine ⟨_, rfl, fun hpressed => ?_, fun hpending => ?_, fun _ hpressed => ?_⟩
    · cases hpressed
    · have hdeadline := h.pending (Bool.and_eq_true _ _ ▸ hpending).1
      show s.resetConfirmDeadline.toNat ≤ _
      omega
    · cases hpressed
  · split
    · -- The press starts: not before the arming.
      refine ⟨_, rfl, fun _ => hlate, fun hpending => ?_, fun hpending _ => ?_⟩
      · have hdeadline := h.pending hpending
        show s.resetConfirmDeadline.toNat ≤ _
        omega
      · have hdeadline := h.pending hpending
        have hstart : clock.toNat ≤ b.millis.toNat := UInt32.le_iff_toNat_le.mp hnow
        show s.resetConfirmDeadline.toNat ≤ b.millis.toNat + _
        omega
    · next hpress =>
      have hpressed : s.resetButtonWasPressed = true := by simpa using hpress
      have hstart := UInt32.le_trans (h.holdStart hpressed) hnow
      split
      · refine ⟨s, rfl, fun _ => UInt32.le_trans hstart hlate, fun hpending => ?_, h.pressed⟩
        have hdeadline := h.pending hpending
        omega
      · next hheld =>
        split
        · refine ⟨_, rfl, fun hreleased => ?_, fun _ => toNat_deadline_le b.millisLate,
            fun _ hreleased => ?_⟩
          · cases hreleased
          · cases hreleased
        · next harmed =>
          have hpending : s.resetConfirmPending = true := by simpa using harmed
          have hdeadline := h.pending hpending
          have hover := h.over hnow hlate hpending hpressed hheld
          rw [if_neg hover]
          refine ⟨_, rfl, fun hreleased => ?_, fun _ => ?_, fun _ hreleased => ?_⟩
          · cases hreleased
          · show s.resetConfirmDeadline.toNat ≤ _
            omega
          · cases hreleased

/-- Work that keeps the buttons keeps the deadline. -/
theorem Deadline.buttons (h : Deadline s clock) (hkept : ButtonsKept s s') : Deadline s' clock :=
  h.kept hkept.resetButtonWasPressed hkept.resetHoldStart hkept.resetConfirmPending
    hkept.resetConfirmDeadline

/-- The config button leaves the variables of the other one alone.
SOURCE: main.ino:371-397 -/
theorem Deadline.pollConfigButton (h : Deadline s clock) {b : Sketch.ButtonEnv}
    (hpoll : s.pollConfigButton b = .ok s') : Deadline s' clock := by
  unfold Sketch.pollConfigButton at hpoll
  split at hpoll
  · cases hpoll
    exact h.kept rfl rfl rfl rfl
  · split at hpoll
    · cases hpoll
      exact h.kept rfl rfl rfl rfl
    · split at hpoll
      · cases hpoll
        exact h
      · split at hpoll
        · cases hpoll
          exact h.kept rfl rfl rfl rfl
        · exact h.buttons (resume_buttons hpoll)

/-- All of a pass before the reset button keeps the deadline.
SOURCE: main.ino:344-400 -/
theorem Deadline.beforeReset (h : Deadline s clock) {tls : Mbedtls} {r : Sketch.LoopEnv}
    (hbefore : ResetGesture.beforeReset tls s r = .ok s') : Deadline s' clock := by
  obtain ⟨s₁, hadapter, hconfig⟩ := exists_of_bind_eq_ok hbefore
  exact (h.buttons (beforeButtons_buttons hadapter)).pollConfigButton hconfig

end Deadlines

/-! ## The invariant -/

structure Inv (s : State) : Prop where
  deadline : s.running = true → Deadline s.sketch s.clock
  unwiped : ∀ l ∈ s.looks, l.wiped = false

/-- A sketch that has just started has no look behind it and no confirmation pending. -/
theorem Start.inv {s : State} (h : Start s) : Inv s := by
  obtain ⟨d, adapter, hstarted⟩ := h.started
  constructor
  · intro _
    rw [hstarted]
    refine ⟨fun hpressed => ?_, fun hpending => ?_, fun hpending _ => ?_⟩
    · cases hpressed
    · cases hpending
    · cases hpending
  · rw [h.looks]
    exact fun l hl => absurd hl List.not_mem_nil

section Steps

variable {tls : Mbedtls} {s : State}

/-- A pass behind the open gate ends in the look at the reset button, unless it restarts first.
SOURCE: main.ino:344-434 -/
theorem afterMesh_eq {sketch : Sketch} (h : gateOpen sketch = true) (r : Sketch.LoopEnv) :
    sketch.afterMesh tls r =
      (beforeReset tls sketch r).bind fun s => s.pollResetButton r.resetButton := by
  rw [afterMesh_of_open h, beforeReset]
  cases beforeButtons tls sketch r with
  | error restart => rfl
  | ok s₁ => rfl

/-- **A pass of `loop()` keeps the invariant**: a second hold cannot end before its deadline.
SOURCE: main.ino:402-430 -/
theorem Inv.pass (h : Inv s) {r : Sketch.LoopEnv} (hrunning : s.running = true)
    (hopen : gateOpen s.sketch = true) (hnow : s.clock ≤ r.resetButton.millis)
    (hlate : r.resetButton.millis ≤ r.resetButton.millisLate) :
    Inv { s.conclude (s.sketch.afterMesh tls r) with
      clock := r.resetButton.millisLate
      looks := s.looks ++ lookOf tls s.sketch r } := by
  have hpass : s.sketch.afterMesh tls r =
      (beforeReset tls s.sketch r).bind fun s => s.pollResetButton r.resetButton :=
    afterMesh_eq hopen r
  unfold lookOf
  cases hbefore : beforeReset tls s.sketch r with
  | error restart =>
      rw [hbefore] at hpass
      rw [hpass]
      refine ⟨fun hdown => ?_, fun l hl => ?_⟩
      · cases hdown
      · rw [List.append_nil] at hl
        exact h.unwiped l hl
  | ok s₁ =>
      obtain ⟨s₂, hpoll, hdeadline⟩ :=
        ((h.deadline hrunning).beforeReset hbefore).poll hnow hlate
      rw [hbefore] at hpass
      rw [hpass.trans hpoll]
      refine ⟨fun _ => hdeadline, fun l hl => ?_⟩
      rcases List.mem_append.mp hl with hl | hl
      · exact h.unwiped l hl
      · rw [List.mem_singleton.mp hl]
        rfl

/-- The invariant holds in every reachable state. -/
theorem inv_of_reachable (h : (system tls).Reachable s) : Inv s := by
  refine h.invariant ?_ ?_
  · exact fun s hs => hs.inv
  intro s e s' hs hstep
  cases e with
  | work w =>
      change step tls s (.work w) = some s' at hstep
      simp only [ResetGesture.step, Option.ite_none_right_eq_some, Option.some.injEq] at hstep
      obtain ⟨hrunning, rfl⟩ := hstep
      cases hwork : w.run s.sketch with
      | error restart => exact ⟨fun hdown => Bool.noConfusion hdown, hs.unwiped⟩
      | ok sketch =>
          exact ⟨fun _ => (hs.deadline hrunning).buttons (Work.run_buttons hwork), hs.unwiped⟩
  | pass r =>
      change step tls s (.pass r) = some s' at hstep
      simp only [ResetGesture.step, Option.ite_none_right_eq_some, Option.some.injEq] at hstep
      obtain ⟨⟨hrunning, hopen, hnow, hlate⟩, rfl⟩ := hstep
      exact hs.pass hrunning hopen hnow hlate

end Steps

/-! ## Result -/

/-- **No look of a run wipes the EEPROM.** -/
theorem never_wiped {tls : Mbedtls} {s : State} (h : (system tls).Reachable s) :
    ∀ l ∈ s.looks, l.wiped = false :=
  (inv_of_reachable h).unwiped

/-- **The gesture works exactly in the runs without one.**
SOURCE: main.ino:399-430 -/
theorem works_iff_no_gesture {tls : Mbedtls} {s : State} (h : (system tls).Reachable s) :
    Works s.looks ↔ ∀ second, ¬Gesture s.looks second := by
  have hnever := never_wiped h
  constructor
  · intro hworks second hgesture
    obtain ⟨l, hl, hwiped⟩ := hworks.wipes second hgesture
    obtain ⟨before, first, arming, held, released, after, hlooks, -⟩ := hgesture.follows
    have hmem : l ∈ s.looks := by
      rw [hlooks]
      exact List.mem_append_left after (List.mem_append_right _ hl)
    rw [hnever l hmem] at hwiped
    cases hwiped
  · intro hnone
    refine ⟨fun second hgesture => absurd hgesture (hnone second), ?_⟩
    rintro ⟨l, hl, hwiped⟩
    rw [hnever l hl] at hwiped
    cases hwiped

/-! ## A complete gesture -/

def start : State where
  sketch := bootedNode true blankImage
  running := true
  clock := 0
  looks := []

/-- A node that has started is a start. -/
theorem start_started : Start start :=
  ⟨⟨_, _, rfl⟩, rfl, rfl⟩

/-- A press of five seconds, a release, and another press of five seconds at once. -/
def gesturePasses : List Event :=
  [(true, 0), (true, 5000), (false, 5001), (true, 5002), (true, 10002)].map fun look =>
    .pass (quietPass (lookAt false look.2) (lookAt look.1 look.2))

def gestureLooks : List Look :=
  [⟨true, 0, 0, false, false⟩, ⟨true, 5000, 5000, true, false⟩, ⟨false, 5001, 5001, false, false⟩,
    ⟨true, 5002, 5002, false, false⟩, ⟨true, 10002, 10002, false, false⟩]

/-- The gesture: held for five seconds, released, pressed at once, held for five more. -/
theorem gesture_run :
    ∃ s, (system plainTls).runFrom start gesturePasses = some s ∧
      s.looks = gestureLooks :=
  ⟨_, rfl, rfl⟩

/-- The third to last look ends the first press; the last two are the second. -/
theorem gesture_gestureLooks : Gesture gestureLooks (gestureLooks.drop 3) where
  holds := ⟨by decide, _, _, rfl, rfl, by decide⟩
  follows := by
    refine ⟨[], gestureLooks.take 2, ⟨true, 5000, 5000, true, false⟩, [],
      [⟨false, 5001, 5001, false, false⟩], [], rfl, ⟨⟨by decide, _, _, rfl, rfl, by decide⟩, rfl,
        rfl⟩, by decide, by decide, by decide, fun again hagain => ?_⟩
    cases hagain
    decide

/-- The gesture is complete, and the EEPROM is as before.
SOURCE: main.ino:408-424 -/
theorem not_forall_works :
    ¬∀ (tls : Mbedtls) (s : State), (system tls).Reachable s → Works s.looks := by
  intro hall
  obtain ⟨s, hrun, hlooks⟩ := gesture_run
  have hreach := System.Reachable.runFrom (.init start_started) hrun
  have hworks := hall plainTls s hreach
  rw [hlooks] at hworks
  obtain ⟨l, hl, hwiped⟩ := hworks.wipes _ gesture_gestureLooks
  revert hwiped
  revert l
  decide

/-- The gesture does not wipe. -/
theorem works_iff_no_gesture_run :
    ∃ s, (system plainTls).Reachable s ∧ s.looks = gestureLooks ∧
      (Works s.looks ↔ ∀ second, ¬Gesture s.looks second) := by
  obtain ⟨s, hrun, hlooks⟩ := gesture_run
  have hreach := System.Reachable.runFrom (.init start_started) hrun
  exact ⟨s, hreach, hlooks, works_iff_no_gesture hreach⟩

end ResetGesture

end LatticeNodes.Analysis
