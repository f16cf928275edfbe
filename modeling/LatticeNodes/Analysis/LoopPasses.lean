import LatticeNodes.Analysis.EffectRuns
import LatticeNodes.Analysis.MeshFrames
import LatticeNodes.Program.Sketch

/-!
# Passes of the loop and the buttons

What the sketch does between two looks at its buttons (`Work`), and the part of a pass in front of
them (`beforeButtons`).  The enrollment gate decides whether a pass comes to the buttons at all
(`afterMesh_of_open`, `afterMesh_of_closed`), and nothing but the two looks touches the variables
of the buttons (`ButtonsKept`).
-/

set_option autoImplicit false

namespace LatticeNodes.Analysis

open LatticeNodes.Program

/-! ## Work between the looks -/

/-- The interrupts, the rounds of the drain and the timed work of the mesh. -/
inductive Work where
  /-- The interrupt of a received frame. -/
  | receive (srcMac : MacAddress) (len : ℕ) (msg : MeshMessage)
  /-- The interrupt of the motion sensor. -/
  | motion
  | drain (env : DeviceEnv)
  | timedWork (millis : UInt32) (env : Env)

/-- SOURCE: Mesh.cpp:544-604, 1091-1111, PIR_Adapter.cpp:56-62 -/
def Work.run (s : Sketch) : Work → Except Restart Sketch
  | .receive srcMac len msg =>
      .ok { s with device :=
        { s.device with mesh := s.device.mesh.onDataRecvCallback srcMac len msg } }
  | .motion => .ok { s with pir := s.pir.detectMotion }
  | .drain env =>
      if s.device.mesh.recvQueue.tail = s.device.mesh.recvQueue.head then .ok s
      else s.drainEntry env
  | .timedWork millis env => s.timedWork millis env

/-! ## The gate -/

/-- A pass comes to the buttons.
SOURCE: main.ino:348 -/
def gateOpen (s : Sketch) : Bool :=
  s.device.isEnrolled || s.device.mesh.isMaster

/-- The sketch when the loop is back from the mesh.
SOURCE: main.ino:310 -/
def timeoutChecked (s : Sketch) (r : Sketch.LoopEnv) : Sketch :=
  { s with
    device := { s.device with mesh := s.device.mesh.checkMasterTimeout r.timeout } }

/-- A pass up to the buttons, behind the gate.
SOURCE: main.ino:310, 359-362 -/
def beforeButtons (tls : Mbedtls) (s : Sketch) (r : Sketch.LoopEnv) : Except Restart Sketch :=
  (timeoutChecked s r).adapterLoop tls r

/-- The timeout changes no role.
SOURCE: Mesh.cpp:801-815 -/
theorem checkMasterTimeout_isMaster (m : Mesh) (env : Env) :
    (m.checkMasterTimeout env).isMaster = m.isMaster := by
  rw [checkMasterTimeout_frame]

/-- The timeout neither opens nor closes the gate. -/
theorem gateOpen_timeoutChecked (s : Sketch) (r : Sketch.LoopEnv) :
    gateOpen (timeoutChecked s r) = gateOpen s := by
  show (s.device.isEnrolled || (s.device.mesh.checkMasterTimeout r.timeout).isMaster) = _
  rw [checkMasterTimeout_isMaster]
  rfl

/-- Behind an open gate a pass runs the adapter and looks at the buttons.
SOURCE: main.ino:344-434 -/
theorem afterMesh_of_open {s : Sketch} (h : gateOpen s = true) (tls : Mbedtls)
    (r : Sketch.LoopEnv) :
    s.afterMesh tls r = (beforeButtons tls s r).bind fun s =>
      (s.pollConfigButton r.configButton).bind fun s => s.pollResetButton r.resetButton := by
  rw [← gateOpen_timeoutChecked s r, gateOpen] at h
  have hopen : ¬(!(timeoutChecked s r).device.isEnrolled &&
      !(timeoutChecked s r).device.mesh.isMaster) = true := by
    rw [← Bool.not_or, h]
    decide
  exact if_neg hopen

/-- In front of a closed gate it returns early.
SOURCE: main.ino:348-357 -/
theorem afterMesh_of_closed {s : Sketch} (h : gateOpen s = false) (tls : Mbedtls)
    (r : Sketch.LoopEnv) :
    s.afterMesh tls r = (timeoutChecked s r).requestEnrollment r := by
  rw [← gateOpen_timeoutChecked s r, gateOpen] at h
  have hclosed : (!(timeoutChecked s r).device.isEnrolled &&
      !(timeoutChecked s r).device.mesh.isMaster) = true := by
    rw [← Bool.not_or, h]
    rfl
  exact if_pos hclosed

/-! ## The variables of the buttons -/

/-- The variables of the sketch that its buttons use, and its mode. -/
structure ButtonsKept (s s' : Sketch) : Prop where
  isDevMode : s'.isDevMode = s.isDevMode
  buttonWasPressed : s'.buttonWasPressed = s.buttonWasPressed
  holdStart : s'.holdStart = s.holdStart
  resetButtonWasPressed : s'.resetButtonWasPressed = s.resetButtonWasPressed
  resetHoldStart : s'.resetHoldStart = s.resetHoldStart
  resetConfirmPending : s'.resetConfirmPending = s.resetConfirmPending
  resetConfirmDeadline : s'.resetConfirmDeadline = s.resetConfirmDeadline

/-- Doing nothing keeps the buttons. -/
theorem ButtonsKept.refl (s : Sketch) : ButtonsKept s s :=
  ⟨rfl, rfl, rfl, rfl, rfl, rfl, rfl⟩

/-- What two pieces of work keep, they keep together. -/
theorem ButtonsKept.trans {s₁ s₂ s₃ : Sketch} (h : ButtonsKept s₁ s₂) (h' : ButtonsKept s₂ s₃) :
    ButtonsKept s₁ s₃ where
  isDevMode := h'.isDevMode.trans h.isDevMode
  buttonWasPressed := h'.buttonWasPressed.trans h.buttonWasPressed
  holdStart := h'.holdStart.trans h.holdStart
  resetButtonWasPressed := h'.resetButtonWasPressed.trans h.resetButtonWasPressed
  resetHoldStart := h'.resetHoldStart.trans h.resetHoldStart
  resetConfirmPending := h'.resetConfirmPending.trans h.resetConfirmPending
  resetConfirmDeadline := h'.resetConfirmDeadline.trans h.resetConfirmDeadline

/-- A result carried on with comes from a result. -/
theorem exists_of_map_eq_ok {ε α β : Type*} {f : α → β} {result : Except ε α} {b : β}
    (h : result.map f = .ok b) : ∃ a, result = .ok a ∧ b = f a := by
  cases result with
  | error e => cases h
  | ok a => exact ⟨a, rfl, (Except.ok.inj h).symm⟩

/-- Two computations in a row that succeed do so one after the other. -/
theorem exists_of_bind_eq_ok {ε α β : Type*} {f : α → Except ε β} {result : Except ε α} {b : β}
    (h : result.bind f = .ok b) : ∃ a, result = .ok a ∧ f a = .ok b := by
  cases result with
  | error e => cases h
  | ok a => exact ⟨a, rfl, h⟩

section Kept

variable {s s' : Sketch}

/-- A call that returns leaves a device, and with it the rest of the sketch. -/
theorem resume_eq_ok {outcome : Outcome} (h : s.resume outcome = .ok s') :
    ∃ d, outcome = .ok d ∧ s' = { s with device := d } :=
  exists_of_map_eq_ok h

/-- A function of the device keeps the buttons. -/
theorem resume_buttons {outcome : Outcome} (h : s.resume outcome = .ok s') :
    ButtonsKept s s' := by
  obtain ⟨d, -, rfl⟩ := resume_eq_ok h
  exact ⟨rfl, rfl, rfl, rfl, rfl, rfl, rfl⟩

/-- Each piece of work in a pass keeps the buttons. -/
theorem Work.run_buttons {w : Work} (h : w.run s = .ok s') : ButtonsKept s s' := by
  cases w with
  | receive srcMac len msg =>
      cases h
      exact ⟨rfl, rfl, rfl, rfl, rfl, rfl, rfl⟩
  | motion =>
      cases h
      exact ⟨rfl, rfl, rfl, rfl, rfl, rfl, rfl⟩
  | drain env =>
      simp only [Work.run] at h
      split at h
      · cases h
        exact .refl s
      · exact resume_buttons h
  | timedWork millis env => exact resume_buttons h

/-- SOURCE: main.ino:349-353 -/
theorem requestEnrollment_buttons {r : Sketch.LoopEnv} (h : s.requestEnrollment r = .ok s') :
    ButtonsKept s s' := by
  unfold Sketch.requestEnrollment at h
  split at h
  · obtain ⟨d, -, rfl⟩ := resume_eq_ok h
    exact ⟨rfl, rfl, rfl, rfl, rfl, rfl, rfl⟩
  · cases h
    exact .refl s

/-- SOURCE: main.ino:360-362 -/
theorem adapterLoop_buttons {tls : Mbedtls} {r : Sketch.LoopEnv}
    (h : s.adapterLoop tls r = .ok s') : ButtonsKept s s' := by
  unfold Sketch.adapterLoop at h
  split at h
  · cases h
    exact .refl s
  · split at h
    · obtain ⟨node, -, rfl⟩ := exists_of_map_eq_ok h
      exact ⟨rfl, rfl, rfl, rfl, rfl, rfl, rfl⟩
    · split at h
      · obtain ⟨node, -, rfl⟩ := exists_of_map_eq_ok h
        exact ⟨rfl, rfl, rfl, rfl, rfl, rfl, rfl⟩
      · cases h
        exact .refl s

/-- All that a pass does before it looks at the buttons keeps them.
SOURCE: main.ino:310-362 -/
theorem beforeButtons_buttons {tls : Mbedtls} {r : Sketch.LoopEnv}
    (h : beforeButtons tls s r = .ok s') : ButtonsKept s s' := by
  have hchecked : ButtonsKept s (timeoutChecked s r) := ⟨rfl, rfl, rfl, rfl, rfl, rfl, rfl⟩
  exact hchecked.trans (adapterLoop_buttons h)

end Kept

/-! ## A node after its boot -/

/-- A PIR node over this flash image: in development mode a master, over a blank image else no
master and not enrolled. -/
def bootedNode (isDevMode : Bool) (flash : EepromImage) : Sketch :=
  Sketch.started
    { mesh := Mesh.new
      eeprom := { EepromManager.powerUp flash with
        isInitialized := true
        isDevMode := isDevMode }
      adapter := none
      factoryDevMode := isDevMode
      wifiMac := Vector.replicate 6 2
      serialOut := []
      sent := [] }
    ⟨AdapterFactory.pirAdapterDefaultPin, AdapterTypes.pirAdapter, false⟩

/-- A look at a button at one time. -/
def lookAt (isPressed : Bool) (millis : UInt32) : Sketch.ButtonEnv :=
  ⟨isPressed, millis, millis, millis⟩

/-- A pass in which nothing but the buttons happens. -/
def quietPass (configButton resetButton : Sketch.ButtonEnv) : Sketch.LoopEnv where
  timeout := quietEnv
  enrollMillis := 0
  enroll := quietEnv
  serial := quietEnv
  serialLater := fun _ => quietEnv
  serialBytes := []
  pir := ⟨0, quietEnv, quietEnv⟩
  configButton := configButton
  resetButton := resetButton

end LatticeNodes.Analysis
